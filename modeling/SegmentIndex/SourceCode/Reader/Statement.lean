import SegmentIndex.SourceCode.Reader.Case

/-!
# Reading statements

A block is a line of short statements or an indented sequence of statements. A
text is code if it can be read to its end.
-/
namespace SegmentIndex.SourceCode

def updateOps : List String :=
  ["+=", "-=", "*=", "/=", "%=", "&=", "|=", "^=", "<<=", ">>=", "**=", "//=", "@="]

def atStatementEnd : Reader Bool := do
  return (← Reader.at_ .lineEnd) || (← Reader.atOp ";")

def readDottedName : Reader Unit := do
  let _ ← Reader.identifier
  let _ ← readDots ((← get).length + 1)

/-- Passes the new name of what is imported, if it has one. -/
def readAlias : Reader Unit := do
  if ← Reader.takeName "as" then
    let _ ← Reader.identifier

/-- Passes names with commas between them; no comma may end them. -/
def readNames (item : Reader Unit) : Reader Unit := do
  let (_, closed) ← Reader.items item
  if closed then failure

def readLevel : Nat → Reader Bool
  | 0 => return false
  | bound + 1 => do
    if (← Reader.atOp ".") || (← Reader.atOp "...") then
      Reader.advance
      let _ ← readLevel bound
      return true
    else return false

def readImportFrom : Reader Unit := do
  let relative ← readLevel ((← get).length + 1)
  if !relative || !(← Reader.atName "import") then readDottedName
  Reader.expectName "import"
  let imported : Reader Unit := do
    let _ ← Reader.identifier
    readAlias
  if ← Reader.takeOp "*" then return
  if ← Reader.takeOp "(" then
    let _ ← Reader.items imported
    Reader.expectOp ")"
  else readNames imported

/-- Reads assignments behind an equals sign; each value but the last is assigned to as well. -/
def readAssignments (fuel : Nat) : Nat → Reader Unit
  | 0 => failure
  | bound + 1 => do
    let generated ← Reader.atName "yield"
    let value ← readAssigned fuel
    if ← Reader.takeOp "=" then
      if generated || !isTarget true value then failure
      readAssignments fuel bound

def readExprStatement (fuel : Nat) : Reader Stmt := do
  let line ← Reader.line
  let first ← readExprs fuel
  if ← Reader.takeOp ":" then
    if !isPlace first then failure
    let hint ← readExpr fuel
    if ← Reader.takeOp "=" then
      let _ ← readAssigned fuel
    let target := match first with
      | .name id => some id
      | _ => none
    return .annotated target hint line
  if ← Reader.takeOp "=" then
    if !isTarget true first then failure
    readAssignments fuel ((← get).length + 1)
    return .other
  match ← Reader.peek with
  | some (.op o) =>
    if updateOps.contains o then
      if !isPlace first then failure
      Reader.advance
      let _ ← readAssigned fuel
      return .other
    else return .expression first
  | _ => return .expression first

def readKeyword (fuel : Nat) (keyword : String) : Reader Unit := do
  match keyword with
  | "pass" | "break" | "continue" => return
  | "return" =>
    if !(← atStatementEnd) then
      let _ ← readExprs fuel
  | "raise" =>
    if !(← atStatementEnd) then
      let _ ← readExpr fuel
      if ← Reader.takeName "from" then
        let _ ← readExpr fuel
  | "assert" =>
    let _ ← readExpr fuel
    if ← Reader.takeOp "," then
      let _ ← readExpr fuel
  | "del" =>
    let (places, _) ← Reader.items (readBinary fuel 0)
    if !areTargets false places then failure
  | "global" | "nonlocal" =>
    readNames do
      let _ ← Reader.identifier
  | "import" =>
    readNames do
      readDottedName
      readAlias
  | "from" => readImportFrom
  | _ => failure

def shortKeywords : List String :=
  ["pass", "break", "continue", "return", "raise", "assert", "del", "global", "nonlocal", "import",
   "from"]

def readShort (fuel : Nat) : Reader Stmt := do
  match ← Reader.peek with
  | some (.name s) =>
    if shortKeywords.contains s then
      Reader.advance
      readKeyword fuel s
      return .other
    else if s = "yield" then
      Reader.advance
      return .expression (← readYield fuel)
    else readExprStatement fuel
  | _ => readExprStatement fuel

def readLine (fuel : Nat) : Nat → Reader (List Stmt)
  | 0 => failure
  | bound + 1 => do
    let first ← readShort fuel
    if ← Reader.takeOp ";" then
      if ← Reader.take .lineEnd then return [first]
      return first :: (← readLine fuel bound)
    Reader.expect .lineEnd
    return [first]

def readContext (fuel : Nat) : Reader Unit := do
  let _ ← readExpr fuel
  if ← Reader.takeName "as" then
    let _ ← readTarget fuel

def readContexts (fuel : Nat) : Reader Unit :=
  (do
    Reader.expectOp "("
    let _ ← Reader.items (readContext fuel)
    Reader.expectOp ")"
    Reader.expectOp ":") <|>
  (do
    readNames (readContext fuel)
    Reader.expectOp ":")

def readSubject (fuel : Nat) : Reader Unit := do
  Reader.expectName "match"
  let (subjects, closed) ← Reader.items (readItem fuel)
  if subjects.length = 1 && !closed && subjects.all isStarred then failure
  Reader.expectOp ":"
  Reader.expect .lineEnd
  Reader.expect .indent

mutual

def readBlock : Nat → Reader (List Stmt)
  | 0 => failure
  | fuel + 1 => do
    if ← Reader.take .lineEnd then
      Reader.expect .indent
      let first ← readStatement fuel
      let more ← readStatements fuel
      Reader.expect .dedent
      return first ++ more
    readLine fuel ((← get).length + 1)

def readStatements : Nat → Reader (List Stmt)
  | 0 => failure
  | fuel + 1 => do
    match ← Reader.peek with
    | none | some .dedent => return []
    | _ =>
      let first ← readStatement fuel
      return first ++ (← readStatements fuel)

def readStatement : Nat → Reader (List Stmt)
  | 0 => failure
  | fuel + 1 => do
    match ← Reader.peek with
    | some (.name "if") =>
      Reader.advance
      readBranches fuel
      return [.other]
    | some (.name "while") =>
      Reader.advance
      let _ ← readNamed fuel
      readColonBlock fuel
      readElse fuel
      return [.other]
    | some (.name "for") =>
      readFor fuel
      return [.other]
    | some (.name "with") =>
      readWith fuel
      return [.other]
    | some (.name "try") =>
      Reader.advance
      readTry fuel
      return [.other]
    | some (.name "def") => return [← readFunction fuel]
    | some (.name "class") => return [← readClass fuel]
    | some (.name "async") => return [← readAsync fuel]
    | some (.op "@") => return [← readDecorated fuel]
    | some (.name "match") =>
      match ← optional (readMatch fuel) with
      | some _ => return [.other]
      | none => readLine fuel ((← get).length + 1)
    | _ => readLine fuel ((← get).length + 1)

def readColonBlock : Nat → Reader Unit
  | 0 => failure
  | fuel + 1 => do
    Reader.expectOp ":"
    let _ ← readBlock fuel

def readElse : Nat → Reader Unit
  | 0 => failure
  | fuel + 1 => do
    if ← Reader.takeName "else" then readColonBlock fuel

def readBranches : Nat → Reader Unit
  | 0 => failure
  | fuel + 1 => do
    let _ ← readNamed fuel
    readColonBlock fuel
    if ← Reader.takeName "elif" then readBranches fuel else readElse fuel

def readFor : Nat → Reader Unit
  | 0 => failure
  | fuel + 1 => do
    Reader.expectName "for"
    let _ ← readTargets fuel
    Reader.expectName "in"
    let _ ← readExprs fuel
    readColonBlock fuel
    readElse fuel

def readWith : Nat → Reader Unit
  | 0 => failure
  | fuel + 1 => do
    Reader.expectName "with"
    readContexts fuel
    let _ ← readBlock fuel

def readTry : Nat → Reader Unit
  | 0 => failure
  | fuel + 1 => do
    readColonBlock fuel
    if ← Reader.takeName "finally" then readColonBlock fuel
    else
      Reader.expectName "except"
      let grouped ← Reader.takeOp "*"
      readHandlers fuel grouped
      readElse fuel
      if ← Reader.takeName "finally" then readColonBlock fuel

/-- Passes a handler after its keyword and star, and the handlers that follow. -/
def readHandlers : Nat → Bool → Reader Unit
  | 0, _ => failure
  | fuel + 1, grouped => do
    if grouped || !(← Reader.atOp ":") then
      let _ ← readExpr fuel
      readAlias
    readColonBlock fuel
    if ← Reader.takeName "except" then
      if (← Reader.takeOp "*") ≠ grouped then failure
      readHandlers fuel grouped

def readFunction : Nat → Reader Stmt
  | 0 => failure
  | fuel + 1 => do
    let line ← Reader.line
    let async ← Reader.takeName "async"
    Reader.expectName "def"
    let name ← Reader.identifier
    Reader.expectOp "("
    let params ← readParams fuel true (.op ")") {} []
    Reader.expectOp ")"
    if ← Reader.takeOp "->" then
      let _ ← readExpr fuel
    Reader.expectOp ":"
    return .function name params (← readBlock fuel) async line

def readClass : Nat → Reader Stmt
  | 0 => failure
  | fuel + 1 => do
    let line ← Reader.line
    Reader.expectName "class"
    let name ← Reader.identifier
    let bases ← if ← Reader.takeOp "(" then
        pure (← readArguments fuel false).1
      else pure []
    Reader.expectOp ":"
    return .declared name bases (← readBlock fuel) line

def readAsync : Nat → Reader Stmt
  | 0 => failure
  | fuel + 1 => do
    match ← Reader.peekSecond with
    | some (.name "def") => readFunction fuel
    | some (.name "for") =>
      Reader.advance
      readFor fuel
      return .other
    | some (.name "with") =>
      Reader.advance
      readWith fuel
      return .other
    | _ => failure

def readDecorated : Nat → Reader Stmt
  | 0 => failure
  | fuel + 1 => do
    if ← Reader.takeOp "@" then
      let _ ← readNamed fuel
      Reader.expect .lineEnd
      readDecorated fuel
    else if ← Reader.atName "class" then readClass fuel
    else readFunction fuel

def readMatch : Nat → Reader Unit
  | 0 => failure
  | fuel + 1 => do
    readSubject fuel
    readCases fuel
    Reader.expect .dedent

def readCases : Nat → Reader Unit
  | 0 => failure
  | fuel + 1 => do
    Reader.expectName "case"
    readPatterns fuel
    if ← Reader.takeName "if" then
      let _ ← readNamed fuel
    readColonBlock fuel
    if ← Reader.atName "case" then readCases fuel

end

/-- The statements of a text, or nothing if it is not code. -/
def parse? (text : String) : Option (List Stmt) := do
  let cs := text.toList
  if cs.contains '\x00' then none
  let words ← tokens? cs
  let (body, rest) ← (readStatements (64 * (cs.length + 8))).run words
  if rest.isEmpty then some body else none

end SegmentIndex.SourceCode
