import SegmentIndex.SourceCode.Reader.Basic
import SegmentIndex.SourceCode.Reader.Field

/-!
# Reading expressions

Each level of binding strength has its reader, and a weaker one calls the next stronger one. The
first argument bounds the depth of the calls.
-/
namespace SegmentIndex.SourceCode

/-- The operators with two operands on their levels, weakest first. -/
def binaryLevels : List (List String) :=
  [["|"], ["^"], ["&"], ["<<", ">>"], ["+", "-"], ["*", "/", "//", "%", "@"]]

def comparisonOps : List String := ["==", "!=", "<=", "<", ">=", ">"]

def isPlace : Expr → Bool
  | .name _ | .attribute .. | .subscript .. => true
  | _ => false

mutual

/-- Whether an expression can be assigned to; the flag allows stars. -/
def isTarget (stars : Bool) : Expr → Bool
  | .name _ | .attribute .. | .subscript .. => true
  | .starred value => stars && isTarget stars value
  | .tuple items | .list items => areTargets stars items
  | _ => false

def areTargets (stars : Bool) : List Expr → Bool
  | [] => true
  | e :: rest => isTarget stars e && areTargets stars rest

end

def isStarred : Expr → Bool
  | .starred _ => true
  | _ => false

/-- One expression as it is, several or a closed list as a tuple. -/
def tupleOf : List Expr × Bool → Expr
  | ([e], false) => e
  | (es, _) => .tuple es

def takeQuoted : Nat → Reader (List Quoted)
  | 0 => pure []
  | bound + 1 => do
    match ← Reader.peek with
    | some (.string q) =>
      Reader.advance
      return q :: (← takeQuoted bound)
    | _ => return []

def takeComparison : Reader (Option String) := do
  match ← Reader.peek with
  | some (.op o) =>
    if comparisonOps.contains o then
      Reader.advance
      return some o
    else return none
  | some (.name "in") =>
    Reader.advance
    return some "in"
  | some (.name "not") =>
    if (← Reader.peekSecond) = some (.name "in") then
      Reader.advance
      Reader.advance
      return some "not in"
    else return none
  | some (.name "is") =>
    Reader.advance
    if ← Reader.takeName "not" then return some "is not" else return some "is"
  | _ => return none

def takeBinary (level : Nat) : Reader (Option String) := do
  match ← Reader.peek with
  | some (.op o) =>
    if (binaryLevels.getD level []).contains o then
      Reader.advance
      return some o
    else return none
  | _ => return none

def atClause : Reader Bool := do
  if ← Reader.atName "for" then return true
  else return (← Reader.atName "async") && (← Reader.peekSecond) = some (.name "for")

/-- How far a list of parameters has been read. -/
structure ParamScan where
  slash : Bool := false
  star : Bool := false
  nameDue : Bool := false
  optional : Bool := false
  done : Bool := false

def Param.byPosition : Param → Param
  | .of _ name hint value => .of .positionalOnly name hint value

mutual

def readExpr : Nat → Reader Expr
  | 0 => failure
  | fuel + 1 => do
    if ← Reader.takeName "lambda" then
      let params ← readParams fuel false (.op ":") {} []
      Reader.expectOp ":"
      return .lambda params (← readExpr fuel)
    let value ← readAny fuel
    if ← Reader.takeName "if" then
      let test ← readAny fuel
      Reader.expectName "else"
      return .choice test value (← readExpr fuel)
    return value

def readAny : Nat → Reader Expr
  | 0 => failure
  | fuel + 1 => do
    let first ← readAll fuel
    match ← readMoreAny fuel with
    | [] => return first
    | more => return .any (first :: more)

def readMoreAny : Nat → Reader (List Expr)
  | 0 => failure
  | fuel + 1 => do
    if ← Reader.takeName "or" then
      let next ← readAll fuel
      return next :: (← readMoreAny fuel)
    else return []

def readAll : Nat → Reader Expr
  | 0 => failure
  | fuel + 1 => do
    let first ← readNot fuel
    match ← readMoreAll fuel with
    | [] => return first
    | more => return .all (first :: more)

def readMoreAll : Nat → Reader (List Expr)
  | 0 => failure
  | fuel + 1 => do
    if ← Reader.takeName "and" then
      let next ← readNot fuel
      return next :: (← readMoreAll fuel)
    else return []

def readNot : Nat → Reader Expr
  | 0 => failure
  | fuel + 1 => do
    if ← Reader.takeName "not" then return .signed .negate (← readNot fuel)
    let first ← readBinary fuel 0
    match ← readComparisons fuel with
    | [] => return first
    | rest => return .compare first rest

def readComparisons : Nat → Reader (List Comparison)
  | 0 => failure
  | fuel + 1 => do
    match ← takeComparison with
    | some o =>
      let operand ← readBinary fuel 0
      return .with o operand :: (← readComparisons fuel)
    | none => return []

def readBinary : Nat → Nat → Reader Expr
  | 0, _ => failure
  | fuel + 1, level => do
    if level ≥ binaryLevels.length then readSigned fuel
    else
      let first ← readBinary fuel (level + 1)
      readBinaryRest fuel level first

def readBinaryRest : Nat → Nat → Expr → Reader Expr
  | 0, _, _ => failure
  | fuel + 1, level, left => do
    match ← takeBinary level with
    | some o =>
      let right ← readBinary fuel (level + 1)
      readBinaryRest fuel level (.binary o left right)
    | none => return left

def readSigned : Nat → Reader Expr
  | 0 => failure
  | fuel + 1 => do
    if ← Reader.takeOp "-" then return .signed .minus (← readSigned fuel)
    if ← Reader.takeOp "+" then return .signed .plus (← readSigned fuel)
    if ← Reader.takeOp "~" then return .signed .invert (← readSigned fuel)
    let base ← readAwaited fuel
    if ← Reader.takeOp "**" then return .binary "**" base (← readSigned fuel)
    return base

def readAwaited : Nat → Reader Expr
  | 0 => failure
  | fuel + 1 => do
    if ← Reader.takeName "await" then
      let value ← readAtom fuel
      return .await (← readTrailers fuel value)
    let value ← readAtom fuel
    readTrailers fuel value

/-- Reads the attributes, calls and subscripts behind a value. -/
def readTrailers : Nat → Expr → Reader Expr
  | 0, _ => failure
  | fuel + 1, value => do
    if ← Reader.takeOp "." then
      let name ← Reader.identifier
      readTrailers fuel (.attribute value name)
    else if ← Reader.takeOp "(" then
      let (args, keywords) ← readArguments fuel true
      readTrailers fuel (.call value args keywords)
    else if ← Reader.takeOp "[" then
      let (indices, closed) ← Reader.items (readIndex fuel)
      Reader.expectOp "]"
      let index := match indices, closed with
        | [.starred e], _ => .tuple [.starred e]
        | _, _ => tupleOf (indices, closed)
      readTrailers fuel (.subscript value index)
    else return value

def readIndex : Nat → Reader Expr
  | 0 => failure
  | fuel + 1 => do
    if ← Reader.takeOp "*" then return .starred (← readExpr fuel)
    if ← Reader.atNameBefore ":=" then return ← readNamed fuel
    let low ← readBound fuel
    if ← Reader.takeOp ":" then
      let high ← readBound fuel
      let step ← if ← Reader.takeOp ":" then readBound fuel else pure none
      return .slice low high step
    Reader.require low

def readBound : Nat → Reader (Option Expr)
  | 0 => failure
  | fuel + 1 => do
    match ← Reader.peek with
    | some (.op ":") | some (.op ",") | some (.op "]") => return none
    | _ => return some (← readExpr fuel)

/-- Reads the arguments of a call and the bracket after them; the flag allows a bare generator. -/
def readArguments : Nat → Bool → Reader (List Expr × List Keyword)
  | 0, _ => failure
  | fuel + 1, generator => do
    if ← Reader.takeOp ")" then return ([], [])
    if ← Reader.atOp "*" then return ← readArgumentsFrom fuel false false
    if ← Reader.atOp "**" then return ← readArgumentsFrom fuel false false
    if ← Reader.atNameBefore "=" then return ← readArgumentsFrom fuel false false
    let first ← readNamed fuel
    if generator && (← atClause) then
      let clauses ← readClauses fuel
      Reader.expectOp ")"
      return ([.gather .generator first clauses], [])
    if ← Reader.takeOp ")" then return ([first], [])
    Reader.expectOp ","
    let (args, keywords) ← readArgumentsFrom fuel false false
    return (first :: args, keywords)

/-- Reads arguments up to the bracket; the flags say whether a named
argument and a spread map came before. -/
def readArgumentsFrom : Nat → Bool → Bool → Reader (List Expr × List Keyword)
  | 0, _, _ => failure
  | fuel + 1, named, spread => do
    if ← Reader.takeOp ")" then return ([], [])
    let separated : Reader Unit := do
      if !(← Reader.takeOp ",") then
        if !(← Reader.atOp ")") then failure
    if ← Reader.takeOp "**" then
      let value ← readExpr fuel
      separated
      let (args, keywords) ← readArgumentsFrom fuel named true
      return (args, .spread value :: keywords)
    if ← Reader.atNameBefore "=" then
      let name ← Reader.identifier
      Reader.expectOp "="
      let value ← readExpr fuel
      separated
      let (args, keywords) ← readArgumentsFrom fuel true spread
      return (args, .named name value :: keywords)
    if spread then failure
    if ← Reader.takeOp "*" then
      let value ← readExpr fuel
      separated
      let (args, keywords) ← readArgumentsFrom fuel named spread
      return (.starred value :: args, keywords)
    if named then failure
    let value ← readNamed fuel
    separated
    let (args, keywords) ← readArgumentsFrom fuel named spread
    return (value :: args, keywords)

def readNamed : Nat → Reader Expr
  | 0 => failure
  | fuel + 1 => do
    if ← Reader.atNameBefore ":=" then
      let name ← Reader.identifier
      Reader.advance
      return .assigned name (← readExpr fuel)
    let value ← readExpr fuel
    if ← Reader.atOp ":=" then failure
    return value

/-- Reads an item of a display: an expression that may be given a name, or a spread one. -/
def readItem : Nat → Reader Expr
  | 0 => failure
  | fuel + 1 => do
    if ← Reader.takeOp "*" then return .starred (← readBinary fuel 0)
    readNamed fuel

def readStarred : Nat → Reader Expr
  | 0 => failure
  | fuel + 1 => do
    if ← Reader.takeOp "*" then return .starred (← readBinary fuel 0)
    readExpr fuel

def readExprs : Nat → Reader Expr
  | 0 => failure
  | fuel + 1 => do return tupleOf (← Reader.items (readStarred fuel))

/-- Reads what a generator hands out, after the keyword. -/
def readYield : Nat → Reader Expr
  | 0 => failure
  | fuel + 1 => do
    if ← Reader.takeName "from" then return .yieldFrom (← readExpr fuel)
    return .yield (← optional (readExprs fuel))

def readAssigned : Nat → Reader Expr
  | 0 => failure
  | fuel + 1 => do
    if ← Reader.takeName "yield" then readYield fuel else readExprs fuel

def readTargets : Nat → Reader Expr
  | 0 => failure
  | fuel + 1 => do
    let (found, closed) ← Reader.items (readTarget fuel)
    return tupleOf (found, closed)

def readTarget : Nat → Reader Expr
  | 0 => failure
  | fuel + 1 => do
    let target ← if ← Reader.takeOp "*" then
        pure (.starred (← readBinary fuel 0))
      else readBinary fuel 0
    if isTarget true target then return target else failure

def readClauses : Nat → Reader (List Clause)
  | 0 => failure
  | fuel + 1 => do
    if ← atClause then
      let async ← Reader.takeName "async"
      Reader.expectName "for"
      let target ← readTargets fuel
      Reader.expectName "in"
      let source ← readAny fuel
      let conditions ← readConditions fuel
      return .each async target source conditions :: (← readClauses fuel)
    else return []

def readConditions : Nat → Reader (List Expr)
  | 0 => failure
  | fuel + 1 => do
    if ← Reader.takeName "if" then
      let condition ← readAny fuel
      return condition :: (← readConditions fuel)
    else return []

def readAtom : Nat → Reader Expr
  | 0 => failure
  | fuel + 1 => do
    match ← Reader.peek with
    | some (.string _) => readQuoted fuel (← takeQuoted ((← get).length + 1))
    | some (.number text) =>
      Reader.advance
      Reader.require (numberOf? text)
    | some (.name s) =>
      if ["None", "True", "False"].contains s then
        Reader.advance
        return .word s
      else return .name (← Reader.identifier)
    | some (.op "...") =>
      Reader.advance
      return .word "..."
    | some (.op "(") =>
      Reader.advance
      readRound fuel
    | some (.op "[") =>
      Reader.advance
      readSquare fuel
    | some (.op "\x7b") =>
      Reader.advance
      readCurly fuel
    | _ => failure

def readRound : Nat → Reader Expr
  | 0 => failure
  | fuel + 1 => do
    if ← Reader.takeOp ")" then return .tuple []
    if ← Reader.takeName "yield" then
      let value ← readYield fuel
      Reader.expectOp ")"
      return value
    let first ← readItem fuel
    if !isStarred first && (← atClause) then
      let clauses ← readClauses fuel
      Reader.expectOp ")"
      return .gather .generator first clauses
    let (more, closed) ← Reader.moreItems (readItem fuel) ((← get).length + 1)
    Reader.expectOp ")"
    if more.isEmpty && !closed then
      if isStarred first then failure else return first
    return .tuple (first :: more)

def readSquare : Nat → Reader Expr
  | 0 => failure
  | fuel + 1 => do
    if ← Reader.takeOp "]" then return .list []
    let first ← readItem fuel
    if !isStarred first && (← atClause) then
      let clauses ← readClauses fuel
      Reader.expectOp "]"
      return .gather .list first clauses
    let (more, _) ← Reader.moreItems (readItem fuel) ((← get).length + 1)
    Reader.expectOp "]"
    return .list (first :: more)

def readCurly : Nat → Reader Expr
  | 0 => failure
  | fuel + 1 => do
    if ← Reader.takeOp "\x7d" then return .map []
    if ← Reader.atOp "**" then
      let (found, _) ← Reader.items (readMapItem fuel)
      Reader.expectOp "\x7d"
      return .map found
    let single := (← Reader.atOp "*") || (← Reader.atNameBefore ":=")
    let first ← readItem fuel
    if single && (← Reader.atOp ":") then failure
    if ← Reader.takeOp ":" then
      let value ← readExpr fuel
      if ← atClause then
        let clauses ← readClauses fuel
        Reader.expectOp "\x7d"
        return .gatherMap first value clauses
      let (more, _) ← Reader.moreItems (readMapItem fuel) ((← get).length + 1)
      Reader.expectOp "\x7d"
      return .map (.pair first value :: more)
    if !isStarred first && (← atClause) then
      let clauses ← readClauses fuel
      Reader.expectOp "\x7d"
      return .gather .set first clauses
    let (more, _) ← Reader.moreItems (readItem fuel) ((← get).length + 1)
    Reader.expectOp "\x7d"
    return .set (first :: more)

def readMapItem : Nat → Reader Item
  | 0 => failure
  | fuel + 1 => do
    if ← Reader.takeOp "**" then return .spread (← readBinary fuel 0)
    let key ← readExpr fuel
    Reader.expectOp ":"
    return .pair key (← readExpr fuel)

/-- The value of string words that stand side by side. -/
def readQuoted : Nat → List Quoted → Reader Expr
  | 0, _ => failure
  | fuel + 1, literals => do
    if literals.all (·.bytes) then
      let parts ← Reader.require (literals.mapM fun q => byteCodes? q.raw q.body)
      return .bytes parts.flatten
    if literals.any (·.bytes) then failure
    if literals.any (·.formatted) then
      let pieces ← Reader.require (piecesOf fuel literals)
      return .format (joinTexts pieces)
    let parts ← Reader.require (literals.mapM fun q => textCodes? q.raw q.body)
    return .text parts.flatten (literals.head?.any (·.marked))

def piecesOf : Nat → List Quoted → Option (List Piece)
  | 0, _ => none
  | _ + 1, [] => some []
  | fuel + 1, q :: more => do
    let first ← if q.formatted then do
        let (pieces, rest) ← readPieces fuel q.raw 0 q.body
        if rest.isEmpty then some pieces else none
      else (textCodes? q.raw q.body).map textPiece
    return first ++ (← piecesOf fuel more)

def readPieces : Nat → Bool → Nat → List Char → Option (List Piece × List Char)
  | 0, _, _, _ => none
  | fuel + 1, raw, depth, cs => do
    let (part, rest, doubled) ← scanLiteral raw (depth = 0) .plain cs
    let codes ← textCodes? raw part
    if doubled then
      let (more, rest) ← readPieces fuel raw depth rest
      return (textPiece codes ++ more, rest)
    match rest with
    | '\x7b' :: body =>
      if depth ≥ 2 then none
      else
        let (field, rest) ← readField fuel raw depth body
        let (more, rest) ← readPieces fuel raw depth rest
        return (textPiece codes ++ field ++ more, rest)
    | _ => return (textPiece codes, rest)

def readField : Nat → Bool → Nat → List Char → Option (List Piece × List Char)
  | 0, _, _, _ => none
  | fuel + 1, raw, depth, cs => do
    let (inner, rest) ← scanField {} cs
    if inner.all fun c => c = ' ' || c = '\t' || c = '\n' || c = '\x0c' then none
    let words ← tokens? ('(' :: inner ++ [')'])
    let (value, _) ← (readExprs fuel).run words
    let isBlank (c : Char) := c = ' ' || ('\t' ≤ c && c ≤ '\r')
    let (shown, rest) := match rest with
      | '=' :: more => (inner ++ '=' :: more.takeWhile isBlank, more.dropWhile isBlank)
      | _ => ([], rest)
    let (conversion, rest) ← match rest with
      | '!' :: c :: more => if ['s', 'r', 'a'].contains c then some (some c, more) else none
      | ['!'] => none
      | _ => some (none, rest)
    let (hasFormat, format, rest) ← match rest with
      | ':' :: more =>
        if more.isEmpty then none
        else (readPieces fuel raw (depth + 1) more).map fun (ps, r) => (true, joinTexts ps, r)
      | _ => some (false, [], rest)
    match rest with
    | '\x7d' :: after =>
      let conversion :=
        if !shown.isEmpty && !hasFormat && conversion.isNone then some 'r' else conversion
      return (textPiece (shown.map Char.toNat) ++ [.field value conversion hasFormat format], after)
    | _ => none

/-- Reads parameters up to a closing word; the flag allows annotations. -/
def readParams : Nat → Bool → Word → ParamScan → List Param → Reader (List Param)
  | 0, _, _, _, _ => failure
  | fuel + 1, annotated, closing, s, found => do
    if ← Reader.at_ closing then
      if s.nameDue then failure else return found
    if s.done then failure
    let separated : Reader Unit := do
      if !(← Reader.takeOp ",") then
        if !(← Reader.at_ closing) then failure
    if ← Reader.takeOp "/" then
      if s.slash || s.star || found.isEmpty then failure
      separated
      readParams fuel annotated closing { s with slash := true } (found.map Param.byPosition)
    else if ← Reader.takeOp "**" then
      if s.nameDue then failure
      let name ← Reader.identifier
      let hint ← readHint fuel annotated false
      separated
      readParams fuel annotated closing { s with done := true }
        (found ++ [.of .keywords name hint none])
    else if ← Reader.takeOp "*" then
      if s.star then failure
      if ← Reader.takeOp "," then
        readParams fuel annotated closing { s with star := true, nameDue := true } found
      else
        let name ← Reader.identifier
        let hint ← readHint fuel annotated true
        separated
        readParams fuel annotated closing { s with star := true }
          (found ++ [.of .rest name hint none])
    else
      let name ← Reader.identifier
      let hint ← readHint fuel annotated false
      let value ← if ← Reader.takeOp "=" then
          pure (some (← readExpr fuel))
        else pure none
      if !s.star && s.optional && value.isNone then failure
      separated
      let kind : ParamKind := if s.star then .keywordOnly else .positional
      readParams fuel annotated closing
        { s with nameDue := false, optional := s.optional || value.isSome }
        (found ++ [.of kind name hint value])

/-- Reads an annotation, if annotations are allowed and one is
next; the second flag allows a star. -/
def readHint : Nat → Bool → Bool → Reader (Option Expr)
  | 0, _, _ => failure
  | fuel + 1, annotated, starred => do
    if !annotated then return none
    if !(← Reader.takeOp ":") then return none
    if starred then return some (← readStarred fuel) else return some (← readExpr fuel)

end

end SegmentIndex.SourceCode
