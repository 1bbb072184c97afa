import SegmentIndex.PathSpec.Basic

/-!
# Compiling path specs

A spec is scanned from left to right. At each place a capture is tried first, then
`**`, then `*`; anything else is literal text up to the next of these. A fault is
reported at the place where its capture begins.
-/
namespace SegmentIndex.PathSpec

/-- Puts characters in front of the first part of a split. -/
def putBefore (cs : List Char) (split : List Char × List Char) : List Char × List Char :=
  (cs ++ split.1, split.2)

/-- Splits at the parenthesis that closes a capture; escapes and character classes are passed over,
and a bracket that comes first in a class is a member of it. -/
def splitClose : Nat → Bool → List Char → Option (List Char × List Char)
  | _, _, [] => none
  | _, _, ['\\'] => none
  | depth, inClass, '\\' :: c :: rest => (splitClose depth inClass rest).map (putBefore ['\\', c])
  | depth, true, c :: rest => (splitClose depth (c ≠ ']') rest).map (putBefore [c])
  | depth, false, '[' :: '^' :: ']' :: rest =>
    (splitClose depth true rest).map (putBefore ['[', '^', ']'])
  | depth, false, '[' :: ']' :: rest => (splitClose depth true rest).map (putBefore ['[', ']'])
  | depth, false, '[' :: rest => (splitClose depth true rest).map (putBefore ['['])
  | depth, false, '(' :: rest => (splitClose (depth + 1) false rest).map (putBefore ['('])
  | 0, false, ')' :: rest => some ([], rest)
  | depth + 1, false, ')' :: rest => (splitClose depth false rest).map (putBefore [')'])
  | depth, false, c :: rest => (splitClose depth false rest).map (putBefore [c])

def isNameStart (c : Char) : Bool := c.isAlpha || c = '_'

def isNameRest (c : Char) : Bool := c.isAlphanum || c = '_'

def isCaptureName : List Char → Bool
  | [] => false
  | c :: rest => isNameStart c && rest.all isNameRest

def scanCapture (cs : List Char) :
    Except (PathFault ⊕ Pattern.Fault) (String × String × List Char) :=
  let name := cs.takeWhile (· ≠ '>')
  match cs.drop name.length with
  | [] => .error (.inl .missingNameEnd)
  | _ :: body =>
    let nameText := String.ofList name
    if name.isEmpty then .error (.inl .emptyName)
    else if !isCaptureName name then .error (.inl (.badName nameText))
    else
      match splitClose 0 false body with
      | none => .error (.inl (.unclosed nameText))
      | some (pattern, rest) =>
        let patternText := String.ofList pattern
        match Pattern.compile pattern with
        | .error (.malformed reason) => .error (.inl (.badPattern patternText nameText reason))
        | .error f => .error (.inr f)
        | .ok _ => .ok (nameText, patternText, rest)

/-- Splits literal text from what begins with a star or a capture. -/
def spanLiteral : List Char → List Char × List Char
  | [] => ([], [])
  | '*' :: rest => ([], '*' :: rest)
  | '(' :: '?' :: '<' :: rest => ([], '(' :: '?' :: '<' :: rest)
  | c :: rest => putBefore [c] (spanLiteral rest)

/-- Compiles the text from a position on; `seen` holds the capture names before it. -/
def compileFrom (spec : String) : Nat → Nat → List String → List Char → Except Failure (List Token)
  | 0, _, _, _ => .ok []
  | _ + 1, _, _, [] => .ok []
  | fuel + 1, position, seen, '(' :: '?' :: '<' :: rest =>
    match scanCapture rest with
    | .error (.inl fault) => .error (.path fault spec position)
    | .error (.inr fault) => .error (.pattern fault)
    | .ok (name, pattern, rest') =>
      if seen.contains name then .error (.path (.duplicateName name) spec position)
      else
        (compileFrom spec fuel (position + 3 + rest.length - rest'.length) (name :: seen) rest').map
          (Token.capture name pattern :: ·)
  | fuel + 1, position, seen, '*' :: '*' :: rest =>
    (compileFrom spec fuel (position + 2) seen rest).map (Token.glob true :: ·)
  | fuel + 1, position, seen, '*' :: rest =>
    (compileFrom spec fuel (position + 1) seen rest).map (Token.glob false :: ·)
  | fuel + 1, position, seen, c :: rest =>
    let (text, rest') := spanLiteral (c :: rest)
    (compileFrom spec fuel (position + text.length) seen rest').map
      (Token.literal (String.ofList text) :: ·)

/-- The tokens of a path spec. -/
def compile (path : String) : Except Failure (List Token) :=
  compileFrom path path.length 0 [] path.toList

/-- The tokens of a path spec given as a value, which must be a text. -/
def compileValue : Value → Except Failure (List Token)
  | .str path => compile path
  | v => .error (.path (.notText v.kindName) none none)

/-- Whether a file of a spec may lie in a directory below the one of its base. -/
def needsRecursion (tokens : List Token) : Bool :=
  (afterBase tokens).any fun
    | .glob recursive => recursive
    | .capture .. => true
    | .literal text => text.toList.contains '/'

end SegmentIndex.PathSpec
