import SegmentIndex.Error
import SegmentIndex.Value.Json

/-!
# Embedding by a server

A server gives the vector of a text on request. Its answer must be a success whose body holds a
vector of the right length; an answer of a shape that no server gives is an error of type.
-/
namespace SegmentIndex.Embedding

/-- A server that is asked for vectors. -/
structure Server where
  model : String
  dimensions : Int
  address : String
  deriving DecidableEq, Repr

structure Request where
  method : String
  address : String
  body : Value
  deriving DecidableEq, Repr

/-- What comes back: an answer, or no connection for a cause. -/
inductive Reply where
  | answered (status : Int) (body : String)
  | unreachable (cause : String)
  deriving DecidableEq, Repr

def embeddingPath : String := "/api/embeddings"

def dropSlashes (s : String) : String :=
  String.ofList (s.toList.reverse.dropWhile (· = '/')).reverse

def Server.at_ (model : String) (dimensions : Int) (address : String) : Server :=
  ⟨model, dimensions, dropSlashes address⟩

def isSuccess (status : Int) : Bool := 200 ≤ status && status < 300

def length? : Value → Option Nat
  | .str s => some s.length
  | .list vs => some vs.length
  | .map es => some es.length
  | _ => none

namespace Server

variable (s : Server)

def request (text : String) : Request :=
  ⟨"POST", s.address ++ embeddingPath, .map [("model", .str s.model), ("prompt", .str text)]⟩

def failed (cause : String) : Failure := .file (.serverFailed cause) none

def vectorIn (body : String) : Except Failure Value :=
  match Json.decode body with
  | none => .error (failed "the body is no JSON text")
  | some (.map es) => (Entries.get? es "embedding").elim (.error (failed "'embedding'")) .ok
  | some _ => .error (Failure.badType "the body holds no map")

def vectorOf (reply : Reply) : Except Failure Value :=
  match reply with
  | .unreachable cause => .error (failed cause)
  | .answered status body =>
    if !isSuccess status then .error (failed ("status " ++ toString status))
    else
      match vectorIn body with
      | .error f => .error f
      | .ok v =>
        match length? v with
        | none => .error (Failure.badType "a vector has a length")
        | some n =>
          if (n : Int) = s.dimensions then .ok v
          else .error (.file (.wrongDimensions n s.dimensions) none)

end Server

end SegmentIndex.Embedding
