import SegmentIndex.Config.Basic
import SegmentIndex.Embedding.Server

/-!
# Choosing how to embed

Texts are embedded by a model on this machine, if the configuration asks for one and
it can be used, and by a server otherwise.
-/
namespace SegmentIndex.Embedding

/-- How things stand with models on this machine. -/
inductive LocalModels where
  | usable
  | absent
  | broken (cause : String)
  deriving DecidableEq, Repr

inductive Backend where
  | machine (model : String) (dimensions : Int)
  | server (s : Server)
  deriving DecidableEq, Repr

def localProvider : String := "fastembed"

def serverOf (c : EmbeddingConfig) : Server :=
  Server.at_ (if c.ollamaModel = "" then c.model else c.ollamaModel) c.dimensions c.ollamaUrl

def brokenWarning (cause : String) : String :=
  "FastEmbed init failed: " ++ cause ++ "; falling back to Ollama"

/-- What embeds under a configuration, and the warnings about it. -/
def choose (c : EmbeddingConfig) (models : LocalModels) : Backend × List String :=
  if c.provider = localProvider then
    match models with
    | .usable => (.machine c.model c.dimensions, [])
    | .absent => (.server (serverOf c), [])
    | .broken cause => (.server (serverOf c), [brokenWarning cause])
  else (.server (serverOf c), [])

/-- The vector that a model on this machine gives; every failure is one of embedding. -/
def machineVector {α : Type} (r : Except Failure α) : Except Failure α :=
  match r with
  | .ok a => .ok a
  | .error f => .error (.file (.modelFailed f.message) none)

end SegmentIndex.Embedding
