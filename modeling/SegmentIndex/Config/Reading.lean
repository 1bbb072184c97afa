import SegmentIndex.Config.Basic
import SegmentIndex.Config.Data

/-!
# Reading a configuration

A configuration is read from data as a whole: all settings that are refused are reported, with
their places, in the order in which a configuration lists its settings. Unknown settings are
passed over, but in a source they are its extras.
-/
namespace SegmentIndex.Config

/-- Why a setting is refused. -/
inductive Refusal where
  | missing
  | notText
  | notWhole
  | unreadWhole
  | wholeTooLong
  | fraction
  | notFinite
  | tooSmall
  | notFlag
  | unreadFlag
  | notDecimal
  | unreadDecimal
  | notMapping
  | notList
  | badKey
  deriving DecidableEq, Repr

def Refusal.code : Refusal → String
  | .missing => "missing"
  | .notText => "string_type"
  | .notWhole => "int_type"
  | .unreadWhole => "int_parsing"
  | .wholeTooLong => "int_parsing_size"
  | .fraction => "int_from_float"
  | .notFinite => "finite_number"
  | .tooSmall => "greater_than_equal"
  | .notFlag => "bool_type"
  | .unreadFlag => "bool_parsing"
  | .notDecimal => "float_type"
  | .unreadDecimal => "float_parsing"
  | .notMapping => "model_type"
  | .notList => "list_type"
  | .badKey => "invalid_key"

/-- A step on the way to a setting. -/
inductive Step where
  | setting (name : String)
  | item (n : Int)
  deriving DecidableEq, Repr

/-- How single settings are read; the place of a key that is
no text comes from the reader as well. -/
structure Reader where
  text : Data → Except Refusal String
  whole : Data → Except Refusal Int
  flag : Data → Except Refusal Bool
  decimal : Data → Except Refusal Float
  keyStep : Data → Step

namespace Reader

variable (r : Reader)

def positive (d : Data) : Except Refusal Int :=
  match r.whole d with
  | .ok n => if n < 1 then .error .tooSmall else .ok n
  | .error e => .error e

def optional {α : Type} (read : Data → Except Refusal α) : Data → Except Refusal (Option α)
  | .null => .ok none
  | d => (read d).map some

end Reader

/-- A setting that is refused, with its place. -/
structure Problem where
  place : List Step
  refusal : Refusal
  deriving DecidableEq, Repr

/-- What was read, or all that was refused. -/
inductive Checked (α : Type) where
  | ok (a : α)
  | refused (problems : List Problem)

namespace Checked

variable {α β : Type}

/-- Applies a function that was read to what was read; both sides report what they refuse. -/
def apply (f : Checked (α → β)) (a : Checked α) : Checked β :=
  match f, a with
  | .ok f, .ok a => .ok (f a)
  | .ok _, .refused ps => .refused ps
  | .refused ps, .ok _ => .refused ps
  | .refused ps, .refused qs => .refused (ps ++ qs)

instance : Applicative Checked where
  pure := .ok
  seq f a := apply f (a ())

def within (s : Step) : Checked α → Checked α
  | .ok a => .ok a
  | .refused ps => .refused (ps.map fun p => { p with place := s :: p.place })

def ofReading : Except Refusal α → Checked α
  | .ok a => .ok a
  | .error e => .refused [⟨[], e⟩]

end Checked

variable {α : Type}

def setting (name : String) (default : α) (read : Data → Checked α) (entries : List (Data × Data)) :
    Checked α :=
  match Data.get? name entries with
  | some d => (read d).within (.setting name)
  | none => .ok default

def plainSetting (name : String) (default : α) (read : Data → Except Refusal α) :
    List (Data × Data) → Checked α :=
  setting name default fun d => .ofReading (read d)

def required (name : String) (read : Data → Except Refusal α) (entries : List (Data × Data)) :
    Checked α :=
  match Data.get? name entries with
  | some d => (Checked.ofReading (read d)).within (.setting name)
  | none => .refused [⟨[.setting name], .missing⟩]

/-- Reads the entries of a map. -/
def mapping (read : List (Data × Data) → Checked α) : Data → Checked α
  | .map entries => read entries
  | _ => .refused [⟨[], .notMapping⟩]

/-- Reads the items of a list, the first of which has a given number. -/
def itemsFrom (read : Data → Checked α) : Nat → List Data → Checked (List α)
  | _, [] => .ok []
  | n, d :: rest => (· :: ·) <$> (read d).within (.item n) <*> itemsFrom read (n + 1) rest

def listing (read : Data → Checked α) : Data → Checked (List α)
  | .list items => itemsFrom read 0 items
  | _ => .refused [⟨[], .notList⟩]

variable (r : Reader)

def readEmbedding (entries : List (Data × Data)) : Checked EmbeddingConfig :=
  let d : EmbeddingConfig := {}
  EmbeddingConfig.mk <$> plainSetting "provider" d.provider r.text entries
    <*> plainSetting "model" d.model r.text entries
    <*> plainSetting "dimensions" d.dimensions r.whole entries
    <*> plainSetting "ollama_url" d.ollamaUrl r.text entries
    <*> plainSetting "ollama_model" d.ollamaModel r.text entries
    <*> plainSetting "timeout_seconds" d.timeoutSeconds r.decimal entries

def readVector (entries : List (Data × Data)) : Checked VectorConfig :=
  let d : VectorConfig := {}
  VectorConfig.mk <$> plainSetting "location" d.location r.text entries
    <*> plainSetting "path" d.path (Reader.optional r.text) entries
    <*> plainSetting "collection" d.collection r.text entries

def readWatch (entries : List (Data × Data)) : Checked WatchConfig :=
  let d : WatchConfig := {}
  WatchConfig.mk <$> plainSetting "enabled" d.enabled r.flag entries
    <*> plainSetting "debounce_ms" d.debounceMs r.positive entries

def readIngestion (entries : List (Data × Data)) : Checked IngestionConfig :=
  let d : IngestionConfig := {}
  IngestionConfig.mk <$> plainSetting "max_failures" d.maxFailures r.positive entries
    <*> plainSetting "max_sources" d.maxSources r.positive entries
    <*> plainSetting "encoding" d.encoding r.text entries

def sourceSettings : List String := ["path", "ingest", "watch"]

/-- The extras of a source, whose keys must be texts. -/
def readExtras : List (Data × Data) → Checked Entries
  | [] => .ok []
  | (.text k, d) :: rest =>
    if sourceSettings.contains k then readExtras rest
    else ((k, d.toValue) :: ·) <$> readExtras rest
  | (k, _) :: rest =>
    Checked.apply (.refused [⟨[r.keyStep k], .badKey⟩] : Checked (Entries → Entries))
      (readExtras rest)

def readSource (entries : List (Data × Data)) : Checked Source :=
  Source.mk <$> required "path" r.text entries
    <*> plainSetting "ingest" "whole-document" r.text entries
    <*> plainSetting "watch" none (Reader.optional r.flag) entries
    <*> readExtras r entries

def read (entries : List (Data × Data)) : Checked Config :=
  let d : Config := {}
  Config.mk <$> plainSetting "description" d.description r.text entries
    <*> setting "embedding" d.embedding (mapping (readEmbedding r)) entries
    <*> setting "vector" d.vector (mapping (readVector r)) entries
    <*> setting "watch" d.watch (mapping (readWatch r)) entries
    <*> setting "ingestion" d.ingestion (mapping (readIngestion r)) entries
    <*> setting "sources" d.sources (listing (mapping (readSource r))) entries

end SegmentIndex.Config
