import SegmentIndex.Index.Basic

/-!
# Searching

A search embeds its query and returns the stored contents whose vectors are nearest to it, among the
points that have all the given metadata values. It can be filtered by any metadata field that has
been seen; the schema of the filters offers the plain forms of the values that the field has had.
-/
namespace SegmentIndex

namespace Schema

/-- Drops texts that have come before, in sorted texts. -/
def dedup : List String → List String
  | a :: b :: rest => if a = b then dedup (b :: rest) else a :: dedup (b :: rest)
  | ss => ss

/-- The choices for a field: the distinct plain forms of its values, in order. -/
def choices (vs : List Value) : List String := dedup (Value.sortTexts (vs.map Value.plain))

def fields (values : Table (List Value)) : Table (List String) :=
  (Stats.byKey values).map fun (k, vs) => (k, choices vs)

def description : String := "Optional metadata filters; every given field must match exactly."

def property (texts : List String) : Value :=
  .map [("type", .str "string"), ("enum", .list (texts.map .str))]

/-- The schema of the filters, from a rendering of its fields. -/
def withProperties (properties : Value) : Value :=
  .map [("type", .str "object"), ("description", .str description), ("properties", properties),
    ("additionalProperties", .bool false)]

def ofValues (values : Table (List Value)) : Value :=
  withProperties (.map ((fields values).map fun (k, texts) => (k, property texts)))

end Schema

namespace Search

def defaultLimit : Int := 10

def maxLimit : Int := 100

structure Hit where
  content : Value
  score : Int
  deriving DecidableEq, Repr

/-- Checks what is asked: the number of hits and the filters. -/
def check (query : String) (limit : Int) (filters : Value) : Except Failure (Nat × Entries) :=
  if Text.allBlank query then .error (Failure.badValue "query must be a non-empty string")
  else if limit ≤ 0 || limit > maxLimit then
    .error (Failure.badValue ("limit must be between 1 and " ++ toString maxLimit))
  else
    match filters with
    | .null => .ok (limit.toNat, [])
    | .map entries => .ok (limit.toNat, entries)
    | _ => .error (Failure.badValue "metadata filters must be a mapping of field to value")

/-- Searches a store; `score` compares the vector of the query with that of a point. -/
def run {ν : Type} (e : Engine ν) (score : ν → ν → Int) (store : PointStore ν) (query : String)
    (limit : Int) (filters : Value) : Except Failure (List Hit) :=
  match check query limit filters with
  | .error f => .error f
  | .ok (limit, filters) =>
    (e.embed query).map fun v =>
      (PointStore.search (fun p => score v p.vector) limit filters store).map fun (p, n) =>
        ⟨(Entries.get? p.payload "content").getD (.str ""), n⟩

def toolDefinition (description : String) (schema : Value) : Value :=
  .map [("name", .str "search"), ("description", .str description),
    ("inputSchema", .map
      [("type", .str "object"),
       ("properties", .map
         [("query", .map [("type", .str "string"), ("description", .str "Text to search for")]),
          ("limit", .map
            [("type", .str "integer"), ("minimum", .int 1), ("maximum", .int maxLimit),
             ("default", .int defaultLimit)]),
          ("metadata", schema)]),
       ("required", .list [.str "query"])])]

end Search

end SegmentIndex
