import SegmentIndex.Config.Basic
import SegmentIndex.Table
import SegmentIndex.Text.Case
import SegmentIndex.Text.Basic

/-!
# Configuration by environment variables

Each variable sets one setting; a variable that is missing or blank leaves the default. A value that
does not denote what is asked for gives a warning and leaves the default.
-/
namespace SegmentIndex.Config

/-- A variable whose value was passed over. -/
inductive EnvWarning where
  | badFlag (name given : String) (default : Bool)
  | badWhole (name given : String) (minimum default : Int)
  deriving DecidableEq, Repr

def EnvWarning.message : EnvWarning → String
  | .badFlag name given default =>
    "Invalid " ++ name ++ " value '" ++ given ++ "'; expected a boolean. Using " ++
      (Value.bool default).plain ++ "."
  | .badWhole name given minimum default =>
    "Invalid " ++ name ++ " value '" ++ given ++ "'; expected integer >= " ++ toString minimum ++
      ". Using " ++ toString default ++ "."

namespace Environment

def onWords : List String := ["1", "true", "yes", "on"]

def offWords : List String := ["0", "false", "no", "off"]

def given? (name : String) (env : Table String) : Option String :=
  (Table.get? name env).filter (!Text.allBlank ·)

def flag (name : String) (default : Bool) (env : Table String) : Bool × List EnvWarning :=
  match given? name env with
  | none => (default, [])
  | some s =>
    let word := Text.lowerAscii (String.ofList (Text.trim s.toList))
    if onWords.contains word then (true, [])
    else if offWords.contains word then (false, [])
    else (default, [.badFlag name s default])

/-- The least whole number that a variable can set. -/
def minimum : Int := 1

def whole (name : String) (default : Int) (env : Table String) : Int × List EnvWarning :=
  match given? name env with
  | none => (default, [])
  | some s =>
    match Text.readInt? s with
    | some n => if n < minimum then (default, [.badWhole name s minimum default]) else (n, [])
    | none => (default, [.badWhole name s minimum default])

/-- The configuration that variables set, and the warnings about them. -/
def read (env : Table String) : Config × List EnvWarning :=
  let d : Config := {}
  let text (name default : String) : String := (Table.get? name env).getD default
  let (dimensions, w₁) := whole "DOCSIFT_EMBEDDING_DIMS" d.embedding.dimensions env
  let (enabled, w₂) := flag "DOCSIFT_WATCH" d.watch.enabled env
  let (debounceMs, w₃) := whole "DOCSIFT_DEBOUNCE_MS" d.watch.debounceMs env
  let (maxFailures, w₄) := whole "DOCSIFT_MAX_FAILURES" d.ingestion.maxFailures env
  let (maxSources, w₅) := whole "DOCSIFT_MAX_SOURCES" d.ingestion.maxSources env
  let embedding : EmbeddingConfig :=
    { d.embedding with
      provider := text "DOCSIFT_EMBEDDING_PROVIDER" d.embedding.provider
      model := text "DOCSIFT_EMBEDDING_MODEL" d.embedding.model
      dimensions := dimensions
      ollamaUrl := text "DOCSIFT_OLLAMA_URL" d.embedding.ollamaUrl
      ollamaModel := text "DOCSIFT_OLLAMA_MODEL" d.embedding.ollamaModel }
  let path := (Table.get? "DOCSIFT_VECTOR_PATH" env).filter (· ≠ "")
  ({ d with
      embedding := embedding
      vector := { d.vector with path := path }
      watch := ⟨enabled, debounceMs⟩
      ingestion := { d.ingestion with maxFailures := maxFailures, maxSources := maxSources } },
    w₁ ++ w₂ ++ w₃ ++ w₄ ++ w₅)

end Environment

end SegmentIndex.Config
