import SegmentIndex.Error

/-!
# Namespace forms

A namespace form opens with `(ns`, then come metadata, each behind a caret, the name, and perhaps a
doc string. Blanks, commas and comments separate its parts. A metadata map can carry the doc string
under `:doc`; it has precedence over the one after the name.
-/
namespace SegmentIndex

/-- The declared name of a source file and its description. -/
structure Header where
  name : String
  doc : String
  deriving DecidableEq, Repr

namespace Header

/-- Text after its leading blanks, commas and comments. -/
def skipBlank : List Char → List Char
  | [] => []
  | c :: rest =>
    if Text.isBlank c || c = ',' then skipBlank rest
    else if c = ';' then skipComment rest
    else c :: rest
where
  /-- Text after the rest of a comment line, and after the blanks that follow it. -/
  skipComment : List Char → List Char
    | [] => []
    | c :: rest => if c = '\n' then skipBlank rest else skipComment rest

def unescape : Char → Char
  | 'n' => '\n'
  | 't' => '\t'
  | 'r' => '\r'
  | c => c

/-- Reads a string after its opening quote: its text and what follows it. -/
def readString : List Char → Option (List Char × List Char)
  | [] => none
  | ['\\'] => none
  | '\\' :: c :: rest => (readString rest).map fun (s, r) => (unescape c :: s, r)
  | c :: rest =>
    if c = '"' then some ([], rest) else (readString rest).map fun (s, r) => (c :: s, r)

/-- Splits after the closing quote of a string whose opening quote was passed. -/
def splitString : List Char → List Char × List Char
  | [] => ([], [])
  | ['\\'] => (['\\'], [])
  | '\\' :: c :: rest => let (s, r) := splitString rest; ('\\' :: c :: s, r)
  | c :: rest => if c = '"' then ([c], rest) else let (s, r) := splitString rest; (c :: s, r)

/-- Splits after the brace that closes a map; braces in strings do not count. -/
def splitMap : Nat → Nat → List Char → List Char × List Char
  | 0, _, cs => (cs, [])
  | _ + 1, _, [] => ([], [])
  | fuel + 1, depth, c :: rest =>
    if c = '"' then
      let (s, r) := splitString rest
      let (m, r) := splitMap fuel depth r
      (c :: s ++ m, r)
    else if c = '\x7b' then let (m, r) := splitMap fuel (depth + 1) rest; (c :: m, r)
    else if c = '\x7d' then
      if depth ≤ 1 then ([c], rest) else let (m, r) := splitMap fuel (depth - 1) rest; (c :: m, r)
    else let (m, r) := splitMap fuel depth rest; (c :: m, r)

def nameStops : List Char := ['(', ')', '[', ']', '\x7b', '\x7d', '"', '\'', ',', ';', '^']

def isSymbolChar (c : Char) : Bool := !Text.isBlank c && !nameStops.contains c

/-- The text after the `:doc` key of a map and the quote that opens its value. -/
def afterDocKey : List Char → Option (List Char)
  | [] => none
  | c :: rest =>
    let here := match c, rest with
      | ':', 'd' :: 'o' :: 'c' :: b :: more =>
        if Text.isBlank b then
          match Text.dropBlank more with
          | '"' :: after => some after
          | _ => none
        else none
      | _, _ => none
    match here with
    | some after => some after
    | none => afterDocKey rest

/-- What follows the opening of a namespace form, if one opens a line. -/
def formAt (cs : List Char) : Option (List Char) :=
  match Text.dropBlank cs with
  | '(' :: rest =>
    match Text.dropBlank rest with
    | 'n' :: 's' :: c :: rest => if Text.isBlank c || c = ')' then some (c :: rest) else none
    | _ => none
  | _ => none

def afterForm : Nat → List Char → Option (List Char)
  | 0, _ => none
  | fuel + 1, cs =>
    match formAt cs with
    | some rest => some rest
    | none =>
      match cs.dropWhile (· ≠ '\n') with
      | [] => none
      | _ :: rest => afterForm fuel rest

/-- Passes the metadata in front of a name and keeps the last doc string given there. -/
def readMeta : Nat → Option (List Char) → List Char → Option (List Char) × List Char
  | 0, doc, cs => (doc, cs)
  | fuel + 1, doc, '^' :: '\x7b' :: rest =>
    let (m, after) := splitMap (rest.length + 2) 0 ('\x7b' :: rest)
    let doc := match afterDocKey m with
      | some value => (readString value).map (·.1)
      | none => doc
    readMeta fuel doc (skipBlank after)
  | fuel + 1, doc, '^' :: rest => readMeta fuel doc (skipBlank (rest.dropWhile isSymbolChar))
  | _ + 1, doc, cs => (doc, cs)

def isDoc (doc : List Char) : Bool := !doc.all Text.isBlank

/-- The header that a namespace form declares. -/
def ofForm (content : String) : Except FileFault Header :=
  let cs := content.toList
  match afterForm (cs.length + 1) cs with
  | none => .error (.noForm none)
  | some rest =>
    let (doc, rest) := readMeta (rest.length + 1) none (skipBlank rest)
    let name := rest.takeWhile isSymbolChar
    if name.isEmpty then .error .noName
    else
      let doc := match doc, skipBlank (rest.dropWhile isSymbolChar) with
        | some d, _ => some d
        | none, '"' :: value => (readString value).map (·.1)
        | none, _ => none
      match doc with
      | some d => if isDoc d then .ok ⟨String.ofList name, String.ofList d⟩ else .error .noDoc
      | none => .error .noDoc

end Header

end SegmentIndex
