import SegmentIndex.Table
import SegmentIndex.Vector.Client
import SegmentIndex.Vector.Field

/-!
# A database in memory

A client that keeps its collections itself. Points are given out in pages, in the order of
their ids, each page with the id of the first point that it leaves out. A query ranks points
by the cosine of the angle between vectors.
-/
namespace SegmentIndex.Vector

/-- Points with vectors of one length. -/
structure Collection where
  dimensions : Nat
  points : PointStore Coordinates := []

def isFilterValue : Value → Bool
  | .bool _ | .int _ | .str _ => true
  | _ => false

/-- Whether a payload has a value at the path that a key writes. -/
def hasValue (payload : Entries) (key : String) (v : Value) : Except Failure Bool :=
  match FieldPath.ofText? key with
  | none => .error (Failure.badValue "Invalid path")
  | some steps => .ok ((FieldPath.valuesAt steps (.map payload)).any (Value.same v))

/-- Whether a payload has all the given values; the first that it has not decides. -/
def hasAll (payload : Entries) : Entries → Except Failure Bool
  | [] => .ok true
  | (k, v) :: rest =>
    match hasValue payload k v with
    | .error f => .error f
    | .ok b => if b then hasAll payload rest else .ok false

def dot (a b : Coordinates) : Float := ((a.zip b).map fun (x, y) => x * y).foldl (· + ·) 0.0

def unit (a : Coordinates) : Coordinates :=
  let norm := (dot a a).sqrt
  if norm > 0.0 then a.map (· / norm) else a

namespace Collection

variable (c : Collection)

def selected (filters : Entries) : Except Failure (PointStore Coordinates) :=
  (c.points.mapM fun p => (hasAll p.payload filters).map fun b => (p, b)).map fun ps =>
    (ps.filter (·.2)).map (·.1)

def upsert (p : Point Coordinates) : Except Failure Collection :=
  if p.vector.length ≠ c.dimensions then
    .error (Failure.badValue ("could not broadcast input array from shape (" ++
      toString p.vector.length ++
      ",) into shape (" ++ toString c.dimensions ++ ",)"))
  else .ok { c with points := PointStore.upsert { p with vector := unit p.vector } c.points }

def delete (ids : List String) : Collection := { c with points := c.points.filter (·.id ∉ ids) }

/-- A page of points that have all the given values, from an id on. -/
def scroll (filters : Entries) (limit : Nat) (start : Option String) :
    Except Failure (PointStore Coordinates × Option String) :=
  (c.selected filters).map fun ps =>
    let ps := (PointStore.byId ps).filter fun p => start.all fun s => Value.textLe s p.id
    (ps.take limit, (ps[limit]?).map (·.id))

/-- The points that have all the given values, with their scores: the best come first, and of
equal ones those that were stored later. -/
def query (vector : Coordinates) (limit : Nat) (filters : Entries) :
    Except Failure (List (Point Coordinates × Float)) :=
  (c.selected filters).map fun ps =>
    let q := unit vector
    let scored := ps.map fun p => (p, dot p.vector q)
    ((scored.mergeSort fun a b => a.2 ≤ b.2).reverse).take limit

end Collection

/-- Collections under their names. -/
abbrev Memory := Table Collection

namespace Memory

def record (p : Point Coordinates) : Record := ⟨p.id, p.payload⟩

def badFilter : Failure := Failure.badValue "Invalid filter value"

def checked (filters : Entries) : Except Failure Unit :=
  if filters.all fun e => isFilterValue e.2 then .ok () else .error badFilter

def find (name : String) (m : Memory) : Except Failure Collection :=
  (Table.get? name m).elim (.error (Failure.badValue ("Collection " ++ name ++ " not found"))) .ok

def put (name : String) (m : Memory) (c : Collection) : Memory := Table.alter name (fun _ => c) m

/-- The client of collections in memory. -/
def client : Client Memory where
  connect := []
  collections m := m.map (·.1)
  create name dimensions m :=
    if (Table.get? name m).isSome then
      .error (Failure.badValue ("Collection " ++ name ++ " already exists"))
    else .ok (put name m { dimensions := dimensions })
  upsert name p m := (find name m).bind fun c => (c.upsert p).map (put name m)
  delete name ids m := (find name m).map fun c => put name m (c.delete ids)
  scroll name filters limit start m :=
    (checked filters).bind fun _ => (find name m).bind fun c =>
      (c.scroll filters limit start).map fun (page, next) => (page.map record, next)
  query name vector limit filters m :=
    (checked filters).bind fun _ => (find name m).bind fun c =>
      (c.query vector limit filters).map fun hits => hits.map fun (p, score) => (record p, score)
  count name m := (find name m).map fun c => c.points.length

end Memory

end SegmentIndex.Vector
