import SegmentIndex.Error
import SegmentIndex.Index.Store

/-!
# Clients of a vector database

Points are kept by a database, to which the program has a client. A client is a
parameter of what follows: here stands what it is asked for, and which of its
documented properties the program relies on.
-/
namespace SegmentIndex.Vector

abbrev Coordinates := List Float

/-- A point as it is handed out, without its vector. -/
structure Record where
  id : String
  payload : Entries
  deriving DecidableEq, Repr

/-- What a client can be asked for. A connection is all that the client has of the database; filters
are keys with the values that a payload is to have there. -/
structure Client (κ : Type) where
  connect : κ
  collections : κ → List String
  create (name : String) (dimensions : Nat) : κ → Except Failure κ
  upsert (name : String) (p : Point Coordinates) : κ → Except Failure κ
  delete (name : String) (ids : List String) : κ → Except Failure κ
  scroll (name : String) (filters : Entries) (limit : Nat) (start : Option String) :
    κ → Except Failure (List Record × Option String)
  query (name : String) (vector : Coordinates) (limit : Nat) (filters : Entries) :
    κ → Except Failure (List (Record × Float))
  count (name : String) : κ → Except Failure Nat

/-- What a collection is known for: the length of its vectors, and its points. -/
structure Kept where
  dimensions : Nat
  records : List Record

def fileFilters (file : String) : Entries := [("file_id", .str file)]

/-- Whether a payload names a file, alone or in a list. -/
def belongsTo (file : String) (payload : Entries) : Bool :=
  match Entries.get? payload "file_id" with
  | some (.list files) => files.contains (.str file)
  | v => v = some (.str file)

/-- A client that does what the documentation of the database says; `kept` is what a
connection shows under a name, `taken` are the filters that are well formed, and
`meets` says which payloads meet them. -/
structure Client.Lawful {κ : Type} (client : Client κ) (kept : String → κ → Option Kept)
    (taken : Entries → Prop) (meets : Entries → Entries → Bool) : Prop where
  /-- The names of the collections are listed. -/
  listed (name : String) (k : κ) : name ∈ client.collections k ↔ (kept name k).isSome = true
  /-- A new collection is empty. -/
  create {name : String} {k : κ} (dimensions : Nat) (h : kept name k = none) :
    ∃ k', client.create name dimensions k = .ok k' ∧ kept name k' = some ⟨dimensions, []⟩
  /-- A point takes the place of the one with its id. -/
  upsert {name : String} {k : κ} {c : Kept} {p : Point Coordinates} (h : kept name k = some c)
    (hd : (c.records.map (·.id)).Nodup) (hp : p.vector.length = c.dimensions) :
    ∃ k' rs, client.upsert name p k = .ok k' ∧ kept name k' = some { c with records := rs } ∧
      rs.Perm (⟨p.id, p.payload⟩ :: c.records.filter (·.id ≠ p.id))
  /-- The points of the given ids are removed, and no others. -/
  delete {name : String} {k : κ} {c : Kept} (ids : List String) (h : kept name k = some c) :
    ∃ k' rs, client.delete name ids k = .ok k' ∧ kept name k' = some { c with records := rs } ∧
      rs.Perm (c.records.filter (·.id ∉ ids))
  /-- Of the points from the start on that meet the filters, in the order of their ids, a page has
  as many as the limit allows, and names the next one. -/
  scroll {name : String} {k : κ} {c : Kept} {filters : Entries} (limit : Nat)
    (start : Option String)
    (h : kept name k = some c) (hf : taken filters) :
    ∃ rs : List Record,
      client.scroll name filters limit start k = .ok (rs.take limit, (rs[limit]?).map (·.id)) ∧
      rs.Perm (c.records.filter fun r => meets filters r.payload && start.all (· ≤ r.id)) ∧
      rs.Pairwise (·.id ≤ ·.id)
  takes_file (file : String) : taken (fileFilters file)
  /-- A field meets a text that it is equal to; a list of values meets it if one of them does. -/
  meets_file (file : String) (payload : Entries) : meets (fileFilters file) payload =
    belongsTo file payload

end SegmentIndex.Vector
