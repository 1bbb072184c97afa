import SegmentIndex.SourceCode.Tree
import SegmentIndex.Text.Basic

/-!
# Doc strings

What a body says about itself is the text literal that it begins with. Tabs move to the
next multiple of eight; the indentation that all lines but the first share is taken
away, and so are empty lines at both ends.
-/
namespace SegmentIndex.SourceCode

/-- The text with tabs replaced by blanks, from a column on. -/
def expandTabs (column : Nat) : List Char → List Char
  | [] => []
  | c :: rest =>
    if c = '\t' then
      let width := 8 - column % 8
      List.replicate width ' ' ++ expandTabs (column + width) rest
    else c :: expandTabs (if c = '\n' || c = '\r' then 0 else column + 1) rest

def splitLines : List Char → List (List Char)
  | [] => [[]]
  | c :: rest =>
    if c = '\n' then [] :: splitLines rest
    else
      match splitLines rest with
      | line :: more => (c :: line) :: more
      | [] => [[c]]

def indentation? (line : List Char) : Option Nat :=
  if line.all Text.isBlank then none else some (line.length - (Text.dropBlank line).length)

def trimLines (lines : List (List Char)) : List (List Char) :=
  ((lines.dropWhile List.isEmpty).reverse.dropWhile List.isEmpty).reverse

/-- A doc string as it is shown. -/
def tidy (doc : List Char) : List Char :=
  match splitLines (expandTabs 0 doc) with
  | [] => []
  | first :: rest =>
    let margin := ((rest.filterMap indentation?).min?).getD 0
    let lines := Text.dropBlank first :: rest.map (List.drop margin)
    ['\n'].intercalate (trimLines lines)

def docOf? : List Stmt → Option String
  | .expression (.text codes _) :: _ => some (String.ofList (tidy (codes.map Char.ofNat)))
  | _ => none

end SegmentIndex.SourceCode
