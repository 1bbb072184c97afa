import SegmentIndex.Value.Json
import SegmentIndex.Outer.Yaml.Cursor

/-!
# Scalars in a document

A scalar is written plain, between quotes, or as a block of lines. Lines of a plain
or quoted scalar are joined by a space, and empty lines between them stand for line
ends. A block keeps its lines or folds them.
-/
namespace SegmentIndex.Outer.Yaml

namespace Cursor

/-! ## Plain scalars -/

def flowMarks : List Char := [',', '?', '[', ']', '\x7b', '\x7d']

/-- The characters before which a colon ends a plain scalar inside brackets. -/
def flowEnds : List Char := [',', '[', ']', '\x7b', '\x7d']

def plainRun (flow : Bool) : List Char → List Char
  | [] => []
  | a :: rest =>
    let colonEnds := endsWord rest.head? || (flow && rest.head?.any (flowEnds.contains ·))
    if endsWord (some a) || (a = ':' && colonEnds) || (flow && flowMarks.contains a) then []
    else a :: plainRun flow rest

/-- Goes over empty lines; there is no text if a separator of documents comes. -/
def plainBreaks : Nat → Cursor → Option (List Char) × Cursor
  | 0, c => (some [], c)
  | fuel + 1, c =>
    let c := c.skipWhile (· = ' ')
    if c.peek.any isBreak then
      let (b, c) := c.skipBreak
      if c.atSeparator then (none, c)
      else let (more, c) := plainBreaks fuel c; (more.map (b ++ ·), c)
    else (some [], c)

/-- The text that the end of a line and the empty lines after it stand for. -/
def joint (b breaks : List Char) : List Char :=
  (if b ≠ ['\n'] then b else if breaks.isEmpty then [' '] else []) ++ breaks

/-- Goes over what stands between two parts of a plain scalar: its text, which is empty where the
scalar ends, and whether a line ended. -/
def plainGap (c : Cursor) : List Char × Bool × Cursor :=
  let blanks := c.run (· = ' ')
  let c := c.skipWhile (· = ' ')
  if c.peek.any isBreak then
    let (b, c) := c.skipBreak
    if c.atSeparator then ([], true, c)
    else
      match plainBreaks (c.rest.length + 1) c with
      | (none, c) => ([], true, c)
      | (some breaks, c) => (joint b breaks, true, c)
  else (blanks, false, c)

/-- Reads a plain scalar after a gap; says whether a line ended behind it. -/
def plainFrom (flow : Bool) (indent : Int) :
    Nat → List Char → Bool → Cursor → List Char × Bool × Cursor
  | 0, _, broken, c => ([], broken, c)
  | fuel + 1, gap, broken, c =>
    let part := plainRun flow c.rest
    if c.peek = some '#' || part.isEmpty then ([], broken, c)
    else
      let (next, broken, c) := (c.skip part.length).plainGap
      if next.isEmpty || c.peek = some '#' || (!flow && c.column < indent) then
        (gap ++ part, broken, c)
      else
        let (more, broken, c) := plainFrom flow indent fuel next broken c
        (gap ++ part ++ more, broken, c)

/-- Reads a plain scalar, whose further lines stand at a column at least. -/
def plain (flow : Bool) (indent : Int) (c : Cursor) : String × Bool × Cursor :=
  let (cs, broken, c) := plainFrom flow indent (c.rest.length + 1) [] false c
  (String.ofList cs, broken, c)

/-! ## Quoted scalars -/

def escapes : List (Char × Char) :=
  [('0', '\x00'), ('a', '\x07'), ('b', '\x08'), ('t', '\t'), ('\t', '\t'), ('n', '\n'),
   ('v', '\x0b'), ('f', '\x0c'), ('r', '\r'), ('e', '\x1b'), (' ', ' '), ('"', '"'), ('\\', '\\'),
   ('/', '/'), ('N', '\x85'), ('_', '\xa0'), ('L', '\u2028'), ('P', '\u2029')]

/-- The number of digits after a letter that gives a character by its number. -/
def escapeDigits : List (Char × Nat) := [('x', 2), ('u', 4), ('U', 8)]

def charOfDigits? (digits : List Char) : Option Char :=
  (digits.mapM Json.hexValue?).bind fun ns =>
    let n := ns.foldl (fun acc d => acc * 16 + d) 0
    if n.isValidChar then some (Char.ofNat n) else none

/-- Goes over empty lines inside quotes, where no separator of documents may stand. -/
def quotedBreaks : Nat → Cursor → Option (List Char × Cursor)
  | 0, _ => none
  | fuel + 1, c =>
    if c.atSeparator then none
    else
      let c := c.skipWhile fun a => a = ' ' || a = '\t'
      if c.peek.any isBreak then
        let (b, c) := c.skipBreak
        (quotedBreaks fuel c).map fun (more, c) => (b ++ more, c)
      else some ([], c)

def escape (c : Cursor) : Option (List Char × Cursor) :=
  match c.peek with
  | none => none
  | some a =>
    match escapes.lookup a, escapeDigits.lookup a with
    | some b, _ => some ([b], c.next)
    | none, some n =>
      let digits := c.next.rest.take n
      if digits.length < n then none
      else (charOfDigits? digits).map fun b => ([b], c.next.skip n)
    | none, none => if isBreak a then quotedBreaks c.rest.length c.skipBreak.2 else none

def isQuotedMark (a : Char) : Bool :=
  a = '\'' || a = '"' || a = '\\' || a = ' ' || a = '\t' || isBreak a

def quotedRun (double : Bool) : Nat → Cursor → Option (List Char × Cursor)
  | 0, _ => none
  | fuel + 1, c =>
    let part := c.run (!isQuotedMark ·)
    let c := c.skip part.length
    let goOn (cs : List Char) (c : Cursor) : Option (List Char × Cursor) :=
      (quotedRun double fuel c).map fun (more, c) => (part ++ cs ++ more, c)
    if double then
      match c.peek with
      | some '\'' => goOn ['\''] c.next
      | some '\\' => (escape c.next).bind fun (cs, c) => goOn cs c
      | _ => some (part, c)
    else
      match c.rest with
      | '\'' :: '\'' :: _ => goOn ['\''] (c.skip 2)
      | '"' :: _ => goOn ['"'] c.next
      | '\\' :: _ => goOn ['\\'] c.next
      | _ => some (part, c)

/-- Goes over the blanks and line ends inside quotes. -/
def quotedGap (c : Cursor) : Option (List Char × Cursor) :=
  let blank (a : Char) : Bool := a = ' ' || a = '\t'
  let blanks := c.run blank
  let c := c.skipWhile blank
  match c.peek with
  | none => none
  | some a =>
    if isBreak a then
      let (b, c) := c.skipBreak
      (quotedBreaks (c.rest.length + 1) c).map fun (breaks, c) => (joint b breaks, c)
    else some (blanks, c)

def quotedFrom (double : Bool) : Nat → Cursor → Option (List Char × Cursor)
  | 0, _ => none
  | fuel + 1, c =>
    (quotedRun double (c.rest.length + 1) c).bind fun (part, c) =>
      if c.peek = some (if double then '"' else '\'') then some (part, c.next)
      else
        c.quotedGap.bind fun (gap, c) =>
          (quotedFrom double fuel c).map fun (more, c) => (part ++ gap ++ more, c)

def quoted? (double : Bool) (c : Cursor) : Option (String × Cursor) :=
  (quotedFrom double (c.rest.length + 1) c.next).map fun (cs, c) => (String.ofList cs, c)

/-! ## Blocks -/

/-- What becomes of the line ends at the end of a block. -/
inductive Ending where
  | strip
  | clip
  | keep
  deriving DecidableEq, Repr

def ending (c : Cursor) : Ending × Cursor :=
  match c.peek with
  | some '+' => (.keep, c.next)
  | some '-' => (.strip, c.next)
  | _ => (.clip, c)

/-- Reads the mark of how far a block is indented, which must not be zero. -/
def indentMark (c : Cursor) : Option (Option Nat × Cursor) :=
  match c.peek with
  | some a =>
    if a.isDigit then
      if a = '0' then none else some (some (a.toNat - '0'.toNat), c.next)
    else some (none, c)
  | none => some (none, c)

/-- Reads the marks of a block, in either order, and the rest of their line. -/
def blockMarks? (c : Cursor) : Option (Ending × Option Nat × Cursor) :=
  let (first, c) := c.ending
  c.indentMark.bind fun (indent, c) =>
    let (last, c) := if first = .clip && indent.isSome then c.ending else (first, c)
    if endsField c.peek then c.skipRemark?.map fun c => (last, indent, c) else none

/-- Goes over the empty lines at the top of a block and finds the largest indentation. -/
def openingBreaks : Nat → Nat → Cursor → List Char × Nat × Cursor
  | 0, widest, c => ([], widest, c)
  | fuel + 1, widest, c =>
    let after := c.skipWhile (· = ' ')
    let widest := if c.peek = some ' ' then max widest after.column else widest
    if after.peek.any isBreak then
      let (b, c) := after.skipBreak
      let (more, widest, c) := openingBreaks fuel widest c
      (b ++ more, widest, c)
    else ([], widest, after)

/-- Goes over empty lines and up to a column. -/
def blockBreaks (indent : Nat) : Nat → Cursor → List Char × Cursor
  | 0, c => ([], c)
  | fuel + 1, c =>
    let c := c.skipSpacesTo indent
    if c.peek.any isBreak then
      let (b, c) := c.skipBreak
      let (more, c) := blockBreaks indent fuel c
      (b ++ more, c)
    else ([], c)

def atText (c : Cursor) : Bool := c.peek ≠ some ' ' && c.peek ≠ some '\t'

/-- Reads the lines of a block behind empty lines: the text, the last
line end, and the empty lines after it. -/
def blockLines (folded : Bool) (indent : Nat) :
    Nat → List Char → Cursor → List Char × List Char × List Char × Cursor
  | 0, breaks, c => ([], [], breaks, c)
  | fuel + 1, breaks, c =>
    if c.column = indent && c.peek.isSome then
      let line := c.run (!isBreak ·)
      let (b, after) := c.skipLine.skipBreak
      let (next, after) := blockBreaks indent (after.rest.length + 1) after
      if after.column = indent && after.peek.isSome then
        let folds := folded && b = ['\n'] && c.atText && after.atText
        let between := if !folds then b else if next.isEmpty then [' '] else []
        let (more, b, breaks', after) := blockLines folded indent fuel next after
        (breaks ++ line ++ between ++ more, b, breaks', after)
      else (breaks ++ line, b, next, after)
    else ([], [], breaks, c)

/-- Reads a block from its mark on; `indent` is the indentation around it. -/
def block? (folded : Bool) (indent : Int) (c : Cursor) : Option (String × Cursor) :=
  c.next.blockMarks?.map fun (ending, given, c) =>
    let least := max 1 (indent + 1).toNat
    let fuel := c.rest.length + 1
    let (breaks, column, c) := match given with
      | some n => let (breaks, c) := blockBreaks (least + n - 1) fuel c; (breaks, least + n - 1, c)
      | none => let (breaks, widest, c) := openingBreaks fuel 0 c; (breaks, max least widest, c)
    let (text, b, breaks, c) := blockLines folded column fuel breaks c
    let tail := match ending with
      | .strip => []
      | .clip => b
      | .keep => b ++ breaks
    (String.ofList (text ++ tail), c)

end Cursor

end SegmentIndex.Outer.Yaml
