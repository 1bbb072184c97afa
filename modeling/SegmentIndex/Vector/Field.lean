import SegmentIndex.Text.Basic
import SegmentIndex.Text.Word
import SegmentIndex.Value.Equality

/-!
# Fields of payloads

A filter names a field by a path: keys with points between them, and numbers in brackets for items
of lists. A key of other characters than letters, digits, underscores and hyphens stands between
quotes. A field that is a list has each of its items as a value.
-/
namespace SegmentIndex.Vector

/-- A step into a payload. -/
inductive FieldStep where
  | key (name : String)
  | item (n : Int)
  | each
  deriving DecidableEq, Repr

namespace FieldPath

def readKey? (cs : List Char) : Option (FieldStep × List Char) :=
  match cs with
  | '"' :: rest =>
    let name := rest.takeWhile (· ≠ '"')
    if rest.contains '"' then some (.key (String.ofList name), rest.drop (name.length + 1))
    else none
  | _ =>
    let isKeyChar (c : Char) : Bool := Text.isAlphanumeric c || c = '_' || c = '-'
    let name := cs.takeWhile isKeyChar
    if name.isEmpty then none else some (.key (String.ofList name), cs.drop name.length)

/-- Reads what stands in brackets, as often as there are some. -/
def readItems? : Nat → List Char → Option (List FieldStep × List Char)
  | 0, _ => none
  | fuel + 1, cs =>
    match cs with
    | '[' :: rest =>
      if !rest.contains ']' then none
      else
        let inside := rest.takeWhile (· ≠ ']')
        let step := if inside.isEmpty then some .each
          else (Text.readInt? (String.ofList inside)).map .item
        step.bind fun s =>
          (readItems? fuel (rest.drop (inside.length + 1))).map fun (ss, rest) => (s :: ss, rest)
    | _ => some ([], cs)

def read? : Nat → List Char → Option (List FieldStep)
  | 0, _ => none
  | fuel + 1, cs =>
    (readKey? cs).bind fun (k, rest) =>
      (readItems? (rest.length + 1) rest).bind fun (items, rest) =>
        match rest with
        | [] => some (k :: items)
        | '.' :: c :: more => (read? fuel (c :: more)).map fun ss => k :: items ++ ss
        | _ => none

def ofText? (s : String) : Option (List FieldStep) := read? (s.length + 1) s.toList

/-- An item of a list; a negative number counts from the end. -/
def itemAt? (n : Int) (vs : List Value) : Option Value :=
  if n < 0 then (if n.natAbs ≤ vs.length then vs[vs.length - n.natAbs]? else none) else vs[n.toNat]?

def valuesAt : List FieldStep → Value → List Value
  | [], _ => []
  | [.key k], .map es =>
    match Entries.get? es k with
    | some (.list vs) => vs
    | some v => [v]
    | none => []
  | [.each], .list vs => vs
  | [.item n], .list vs => (itemAt? n vs).toList
  | .key k :: rest, .map es => ((Entries.get? es k).map (valuesAt rest)).getD []
  | .item n :: rest, .list vs => ((itemAt? n vs).map (valuesAt rest)).getD []
  | .each :: rest, .list vs => vs.flatMap (valuesAt rest)
  | _, _ => []

end FieldPath

end SegmentIndex.Vector
