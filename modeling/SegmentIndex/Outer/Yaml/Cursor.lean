/-!
# Places in a document

A cursor stands before the rest of a document and knows how far it has come: in all,
in lines, and in the columns of its line.
-/
namespace SegmentIndex.Outer.Yaml

structure Cursor where
  rest : List Char
  index : Nat := 0
  line : Nat := 0
  column : Nat := 0
  deriving Repr, Inhabited

def isBreak (c : Char) : Bool :=
  c = '\n' || c = '\r' || c = '\x85' || c = '\u2028' || c = '\u2029'

/-- Whether a line ends here; the document's end ends its last line. -/
def endsLine : Option Char → Bool
  | none => true
  | some c => isBreak c

/-- Whether a word ends here for certain: at a space, a tab or the end of a line. -/
def endsWord : Option Char → Bool
  | some ' ' | some '\t' => true
  | c => endsLine c

def endsField : Option Char → Bool
  | some ' ' => true
  | c => endsLine c

def isAllowed (c : Char) : Bool :=
  let n := c.toNat
  n = 0x9 || n = 0xa || n = 0xd || (0x20 ≤ n && n ≤ 0x7e) || n = 0x85 || (0xa0 ≤ n && n ≤ 0xfffd) ||
    0x10000 ≤ n

def isNameChar (c : Char) : Bool := c.isAlphanum || c = '-' || c = '_'

def Cursor.ofText (s : String) : Cursor := ⟨s.toList, 0, 0, 0⟩

namespace Cursor

variable (c : Cursor)

def peek : Option Char := c.rest.head?

def peekAt (n : Nat) : Option Char := c.rest[n]?

def next : Cursor :=
  match c.rest with
  | [] => c
  | a :: rest =>
    if isBreak a && !(a = '\r' && rest.head? = some '\n') then ⟨rest, c.index + 1, c.line + 1, 0⟩
    else ⟨rest, c.index + 1, c.line, if a = '\ufeff' then c.column else c.column + 1⟩

def skip : Nat → Cursor → Cursor
  | 0, c => c
  | n + 1, c => skip n c.next

def skipWhile (p : Char → Bool) : Cursor := skip (c.rest.takeWhile p).length c

def run (p : Char → Bool) : List Char := c.rest.takeWhile p

/-- Goes over the end of a line, if there is one, and gives what stands for it. -/
def skipBreak : List Char × Cursor :=
  match c.rest with
  | '\r' :: '\n' :: _ => (['\n'], c.skip 2)
  | a :: _ =>
    if a = '\n' || a = '\r' || a = '\x85' then (['\n'], c.next)
    else if isBreak a then ([a], c.next)
    else ([], c)
  | [] => ([], c)

def skipSpacesTo (column : Nat) : Cursor :=
  skip (min (c.run (· = ' ')).length (column - c.column)) c

def skipLine : Cursor := c.skipWhile (!isBreak ·)

/-- Goes over spaces and a comment to the end of the line, where nothing else may stand. -/
def skipRemark? : Option Cursor :=
  let c := c.skipWhile (· = ' ')
  let c := if c.peek = some '#' then c.skipLine else c
  if endsLine c.peek then some c.skipBreak.2 else none

/-- Whether a separator of documents begins here: three of a mark that end a word. -/
def atMark (mark : Char) : Bool :=
  c.rest.take 3 = [mark, mark, mark] && endsWord (c.peekAt 3)

def atSeparator : Bool := c.atMark '-' || c.atMark '.'

end Cursor

end SegmentIndex.Outer.Yaml
