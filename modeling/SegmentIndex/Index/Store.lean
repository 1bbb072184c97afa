import SegmentIndex.Value.Equality

/-!
# Stored points

A store holds one point for each segment id: its vector and its payload. Points of a file are
found by the `file_id` of their payloads.
-/
namespace SegmentIndex

/-- What is stored for one segment. -/
structure Point (ν : Type) where
  id : String
  vector : ν
  payload : Entries
  deriving DecidableEq, Repr

/-- Points with distinct ids. -/
abbrev PointStore (ν : Type) := List (Point ν)

namespace PointStore

variable {ν : Type}

/-- Stores a point in the place of the one with its id, or behind all others. -/
def upsert (p : Point ν) : PointStore ν → PointStore ν
  | [] => [p]
  | q :: rest => if q.id = p.id then p :: rest else q :: upsert p rest

def isOf (file : String) (p : Point ν) : Bool := Entries.get? p.payload "file_id" = some (.str file)

def idsForFile (file : String) (s : PointStore ν) : List String :=
  Value.sortTexts ((s.filter (isOf file)).map (·.id))

def removeFile (file : String) (s : PointStore ν) : PointStore ν := s.filter (!isOf file ·)

def countFile (file : String) (s : PointStore ν) : Nat := (s.filter (isOf file)).length

def find? (id : String) (s : PointStore ν) : Option (Point ν) := List.find? (fun p => p.id = id) s

def matchesAll (filters : Entries) (p : Point ν) : Bool :=
  filters.all fun (k, v) => Value.same ((Entries.get? p.payload k).getD .null) v

def byId (s : PointStore ν) : List (Point ν) := s.mergeSort fun p q => Value.textLe p.id q.id

/-- The best points that have the given values: by falling score, then by id. -/
def search (score : Point ν → Int) (limit : Nat) (filters : Entries) (s : PointStore ν) :
    List (Point ν × Int) :=
  let scored := (s.byId.filter (matchesAll filters)).map fun p => (p, score p)
  (scored.mergeSort fun a b => a.2 ≥ b.2).take limit

theorem find?_upsert (p : Point ν) (id : String) (s : PointStore ν) :
    find? id (upsert p s) = if id = p.id then some p else find? id s := by
  induction s with
  | nil =>
    by_cases h : id = p.id
    · simp [upsert, find?, h]
    · have : ¬ p.id = id := fun e => h e.symm
      simp [upsert, find?, h, this]
  | cons q rest ih =>
    simp only [find?] at ih
    by_cases hq : q.id = p.id
    · by_cases h : id = p.id
      · simp [upsert, find?, hq, h]
      · have : ¬ p.id = id := fun e => h e.symm
        simp [upsert, find?, hq, h, this]
    · by_cases h : q.id = id
      · have : ¬ id = p.id := fun e => hq (h.trans e)
        simp [upsert, find?, h, this]
      · simp [upsert, find?, hq, h, ih]

end PointStore

end SegmentIndex
