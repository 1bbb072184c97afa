import SegmentIndex.SourceCode.Reader.Expression

/-!
# Reading patterns of cases

A pattern is checked and passed; nothing of it is kept.
-/
namespace SegmentIndex.SourceCode

def extendsName : Option Word → Bool
  | some (.op o) => [".", "(", "="].contains o
  | _ => false

def readCapture : Reader Unit := do
  let name ← Reader.identifier
  if name = "_" || extendsName (← Reader.peek) then failure

def readStarName : Reader Unit := do
  let name ← Reader.identifier
  if name ≠ "_" && extendsName (← Reader.peek) then failure

def isImaginary : Expr → Bool
  | .imaginary _ => true
  | _ => false

def readNumber : Reader Expr := do
  match ← Reader.peek with
  | some (.number text) =>
    Reader.advance
    Reader.require (numberOf? text)
  | _ => failure

/-- Passes a number with its sign, perhaps of two parts. -/
def readSignedNumber : Reader Unit := do
  let _ ← Reader.takeOp "-"
  let first ← readNumber
  if (← Reader.atOp "+") || (← Reader.atOp "-") then
    Reader.advance
    let second ← readNumber
    if isImaginary first || !isImaginary second then failure

/-- Passes the further names of a dotted name and says whether there are any. -/
def readDots : Nat → Reader Bool
  | 0 => return false
  | bound + 1 => do
    if ← Reader.takeOp "." then
      let _ ← Reader.identifier
      let _ ← readDots bound
      return true
    else return false

mutual

def readPatterns : Nat → Reader Unit
  | 0 => failure
  | fuel + 1 => do
    let (stars, closed) ← Reader.items (readSequenceItem fuel)
    if stars = [true] && !closed then failure

def readSequenceItem : Nat → Reader Bool
  | 0 => failure
  | fuel + 1 => do
    if ← Reader.takeOp "*" then
      readStarName
      return true
    readPattern fuel
    return false

def readPattern : Nat → Reader Unit
  | 0 => failure
  | fuel + 1 => do
    readClosedPattern fuel
    readAlternatives fuel
    if ← Reader.takeName "as" then readCapture

def readAlternatives : Nat → Reader Unit
  | 0 => failure
  | fuel + 1 => do
    if ← Reader.takeOp "|" then
      readClosedPattern fuel
      readAlternatives fuel

def readClosedPattern : Nat → Reader Unit
  | 0 => failure
  | fuel + 1 => do
    match ← Reader.peek with
    | some (.number _) | some (.op "-") => readSignedNumber
    | some (.string _) =>
      let _ ← readQuoted fuel (← takeQuoted ((← get).length + 1))
    | some (.op "(") =>
      Reader.advance
      if !(← Reader.takeOp ")") then
        readPatterns fuel
        Reader.expectOp ")"
    | some (.op "[") =>
      Reader.advance
      if !(← Reader.takeOp "]") then
        let _ ← Reader.items (readSequenceItem fuel)
        Reader.expectOp "]"
    | some (.op "\x7b") =>
      Reader.advance
      readMapPattern fuel
    | some (.name s) =>
      if ["None", "True", "False"].contains s then Reader.advance
      else
        let _ ← Reader.identifier
        if s ≠ "_" then
          let _ ← readDots ((← get).length + 1)
          if ← Reader.takeOp "(" then readClassPattern fuel false
          else if extendsName (← Reader.peek) then failure
    | _ => failure

/-- Passes the arguments of a class pattern and the bracket; the
flag says that a named one came before. -/
def readClassPattern : Nat → Bool → Reader Unit
  | 0, _ => failure
  | fuel + 1, named => do
    if ← Reader.takeOp ")" then return
    let separated : Reader Unit := do
      if !(← Reader.takeOp ",") then
        if !(← Reader.atOp ")") then failure
    if ← Reader.atNameBefore "=" then
      Reader.advance
      Reader.advance
      readPattern fuel
      separated
      readClassPattern fuel true
    else
      if named then failure
      readPattern fuel
      separated
      readClassPattern fuel false

def readMapPattern : Nat → Reader Unit
  | 0 => failure
  | fuel + 1 => do
    if ← Reader.takeOp "\x7d" then return
    let last ← Reader.takeOp "**"
    if last then readCapture
    else
      readMapKey fuel
      Reader.expectOp ":"
      readPattern fuel
    if ← Reader.takeOp "," then
      if last then Reader.expectOp "\x7d" else readMapPattern fuel
    else Reader.expectOp "\x7d"

def readMapKey : Nat → Reader Unit
  | 0 => failure
  | fuel + 1 => do
    match ← Reader.peek with
    | some (.number _) | some (.op "-") => readSignedNumber
    | some (.string _) =>
      let _ ← readQuoted fuel (← takeQuoted ((← get).length + 1))
    | some (.name s) =>
      if ["None", "True", "False"].contains s then Reader.advance
      else
        let _ ← Reader.identifier
        if !(← readDots ((← get).length + 1)) then failure
    | _ => failure

end

end SegmentIndex.SourceCode
