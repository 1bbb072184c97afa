import SegmentIndex.Error

/-!
# Overlapping windows of a text

A text is cut into windows of at most `size` characters. A window that stops short of the end of the
text backs off to the last empty line, line end or space in its second half, and the next window
begins `overlap` characters before the previous one ended.
-/
namespace SegmentIndex.Chunk

/-- The place after the last occurrence of a separator in a text, if there is one. -/
def afterLast (separator : List Char) (cs : List Char) : Option Nat :=
  go 0 none cs
where
  /-- Scans from an offset on, with the place found so far. -/
  go (offset : Nat) (found : Option Nat) : List Char → Option Nat
    | [] => found
    | c :: rest =>
      go (offset + 1)
        (if separator.isPrefixOf (c :: rest) then some (offset + separator.length) else found) rest

/-- The separators of a text, the best first. -/
def separators : List (List Char) := [['\n', '\n'], ['\n'], [' ']]

/-- Where a window ends that may stop before the end of the text: `window` is the text from `lower`
on, up to the last place where it can end. -/
def softEnd (lower : Nat) (window : List Char) : Nat :=
  match separators.findSome? fun s => afterLast s window with
  | some n => lower + n
  | none => lower + window.length

/-- The first place, after the start of a window, where it may end early. -/
def earliestEnd (size overlap : Nat) : Nat := max (overlap + 1) (size / 2)

def windowLength (size overlap : Nat) (cs : List Char) : Nat :=
  let window := cs.take size
  if (cs.drop size).isEmpty then window.length
  else
    let lower := earliestEnd size overlap
    if lower ≥ size then size else softEnd lower (window.drop lower)

/-- The windows of the text `cs`, which begins at `offset`; the last one reaches beyond the text. -/
def windows (size overlap : Nat) : Nat → Nat → List Char → List (Nat × List Char)
  | 0, _, _ => []
  | fuel + 1, offset, cs =>
    if cs.isEmpty then []
    else
      let n := windowLength size overlap cs
      (offset, cs.take n) ::
        if (cs.drop (size - 1)).isEmpty then []
        else windows size overlap fuel (offset + (n - overlap)) (cs.drop (n - overlap))

/-- The windows of a text with their offsets. -/
def chunks (size overlap : Nat) (text : String) : List (Nat × String) :=
  (windows size overlap (text.length + 1) 0 text.toList).map fun (n, cs) => (n, String.ofList cs)

/-- The windows of a text, for sizes that may be out of range. -/
def chunkText (size overlap : Int) (text : String) : Except Failure (List (Nat × String)) :=
  if size ≤ 0 then .error (Failure.badValue "chunk_size must be > 0")
  else if overlap ≤ 0 then .error (Failure.badValue "chunk_overlap must be > 0")
  else if overlap ≥ size then .error (Failure.badValue "chunk_overlap must be < chunk_size")
  else .ok (chunks size.toNat overlap.toNat text)

end SegmentIndex.Chunk
