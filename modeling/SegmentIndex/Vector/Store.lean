import SegmentIndex.Digest.Sha1
import SegmentIndex.Vector.Client

/-!
# The store of segments

A store keeps one point for each segment, in one collection, under an id that is derived from the id
of the segment: the first sixteen bytes of a digest of a fixed name space and the segment id, marked
as an id of this kind and written in five groups of digits. The segments of a file are found page by
page. A store that was closed connects again when it is next used.
-/
namespace SegmentIndex.Vector

/-! ## Ids of points -/

def nameSpace : List UInt8 :=
  [0x6b, 0xa7, 0xb8, 0x10, 0x9d, 0xad, 0x11, 0xd1, 0x80, 0xb4, 0x00, 0xc0, 0x4f, 0xd4, 0x30, 0xc8]

/-- Sets the version and the variant in the bytes of an id. -/
def marked (bytes : List UInt8) : List UInt8 :=
  (bytes.modify 6 fun b => (b &&& 0x0f) ||| 0x50).modify 8 fun b => (b &&& 0x3f) ||| 0x80

def hexByte (b : UInt8) : List Char :=
  let digit (n : Nat) : Char := (Nat.toDigits 16 n).headD '0'
  [digit (b.toNat / 16), digit (b.toNat % 16)]

def grouped : List Nat → List Char → List (List Char)
  | [], _ => []
  | n :: sizes, cs => cs.take n :: grouped sizes (cs.drop n)

/-- The id of the point of a segment. -/
def pointId (segmentId : String) : String :=
  let bytes := marked ((Digest.sha1 (nameSpace ++ segmentId.toUTF8.toList)).take 16)
  "-".intercalate ((grouped [8, 4, 4, 4, 12] (bytes.flatMap hexByte)).map String.ofList)

/-- The ids of the points of segments; an id of a segment has to be a text. -/
def pointIds : List Value → Except Failure (List String)
  | [] => .ok []
  | .str id :: rest => (pointIds rest).map (pointId id :: ·)
  | _ :: _ => .error (Failure.badType "encoding without a string argument")

/-! ## Stores -/

def pageSize : Nat := 256

/-- A collection and the connection to it, if there is one. -/
structure Store (κ : Type) where
  name : String
  connection : Option κ

structure StoreHit where
  id : Value
  score : Float
  content : Value
  metadata : Entries

def Record.segment (r : Record) : Option Value := Entries.get? r.payload "segment_id"

/-- A search on its way: where its next page starts, and the segment ids found so far. -/
structure Progress where
  start : Option String
  found : List Value

namespace Store

variable {κ : Type} (client : Client κ) (s : Store κ)

/-- The connection of a store, a new one if it has none. -/
def connected : κ := s.connection.getD client.connect

/-- A store that is just set up; its collection is created unless it is there. -/
def new (name : String) (dimensions : Nat) : Except Failure (Store κ) :=
  let k := client.connect
  if name ∈ client.collections k then .ok ⟨name, some k⟩
  else (client.create name dimensions k).map fun k => ⟨name, some k⟩

def upsert (id : String) (vector : Coordinates) (payload : Entries) :
    Except Failure (Store κ × String) :=
  let p : Point Coordinates := ⟨pointId id, vector, Entries.put "segment_id" (.str id) payload⟩
  (client.upsert s.name p (s.connected client)).map fun k => ({ s with connection := some k }, p.id)

/-- Removes segments and says how many were named. -/
def removeAll (ids : List Value) : Except Failure (Store κ × Nat) :=
  if ids.isEmpty then .ok (s, 0)
  else
    match pointIds ids with
    | .error f => .error f
    | .ok points =>
      (client.delete s.name points (s.connected client)).map fun k =>
        ({ s with connection := some k }, ids.length)

/-- Turns a page: the ids on it are found as well, and unless
it is the last one, the search goes on. -/
def turn (filters : Entries) (p : Progress) : Except Failure (Progress ⊕ List Value) :=
  (client.scroll s.name filters pageSize p.start (s.connected client)).map fun (page, next) =>
    let found := p.found ++ page.filterMap Record.segment
    if next.isSome then .inl ⟨next, found⟩ else .inr found

/-- The ids of the segments that meet filters, from page to page. Nothing is
known of a search without a last page. -/
def findIds (filters : Entries) : Except Failure (List Value) :=
  repeatM (s.turn client filters) ⟨none, []⟩

def idsForFile (file : String) : Except Failure (List Value) := s.findIds client (fileFilters file)

def removeFile (file : String) : Except Failure (Store κ × Nat) :=
  (s.idsForFile client file).bind (s.removeAll client)

def search (vector : Coordinates) (limit : Nat) (filters : Entries) :
    Except Failure (List StoreHit) :=
  (client.query s.name vector limit filters (s.connected client)).map fun found =>
    found.map fun (r, score) =>
      let rest := Entries.erase "content" (Entries.erase "segment_id" r.payload)
      ⟨r.segment.getD (.str ""), score, (Entries.get? r.payload "content").getD (.str ""), rest⟩

def count : Except Failure Nat := client.count s.name (s.connected client)

def close : Store κ := { s with connection := none }

end Store

end SegmentIndex.Vector
