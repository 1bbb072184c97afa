import SegmentIndex.Pattern.Reader
import SegmentIndex.Value.Equality

/-!
# Failures

A failure is a cause with the data that its message shows. Faults of a configuration stop the
configuration; faults of one file are recorded under a kind and the run goes on. A failure raised by
a collaborator keeps its class and its text.
-/
namespace SegmentIndex

/-- Why the file system refused. -/
inductive SystemFault where
  | notFound
  | exists
  | notDirectory
  | isDirectory
  | nameTooLong
  | linkLoop
  | notEmpty
  deriving DecidableEq, Repr

namespace SystemFault

def number : SystemFault → Nat
  | .notFound => 2
  | .exists => 17
  | .notDirectory => 20
  | .isDirectory => 21
  | .nameTooLong => 36
  | .notEmpty => 39
  | .linkLoop => 40

def words : SystemFault → String
  | .notFound => "No such file or directory"
  | .exists => "File exists"
  | .notDirectory => "Not a directory"
  | .isDirectory => "Is a directory"
  | .nameTooLong => "File name too long"
  | .notEmpty => "Directory not empty"
  | .linkLoop => "Too many levels of symbolic links"

def message (f : SystemFault) (path : String) : String :=
  "[Errno " ++ toString f.number ++ "] " ++ f.words ++ ": " ++ Text.quoted path

end SystemFault

/-- What is wrong with a path spec. -/
inductive PathFault where
  | notText (kind : String)
  | missingNameEnd
  | emptyName
  | badName (name : String)
  | unclosed (name : String)
  | badPattern (pattern name detail : String)
  | duplicateName (name : String)
  | reported (message : String)
  deriving DecidableEq, Repr

namespace PathFault

def message : PathFault → String
  | .notText kind => "Path spec must be a string, got " ++ kind
  | .missingNameEnd => "Capture is missing '>' after its name"
  | .emptyName => "Capture name must not be empty"
  | .badName name => "Invalid capture name " ++ Text.quoted name
  | .unclosed name => "Capture " ++ Text.quoted name ++ " has no matching ')'"
  | .badPattern pattern name detail =>
    "Invalid regex " ++ Text.quoted pattern ++ " in capture " ++ Text.quoted name ++ ": " ++ detail
  | .duplicateName name => "Duplicate capture name " ++ Text.quoted name
  | .reported message => message

end PathFault

/-- What is wrong with options or with a configuration. -/
inductive OptionFault where
  | notPositive (key : String) (given : Value)
  | overlapTooLarge (overlap size : Int)
  | badVisibility (given : Value)
  | kindsNotListed
  | unknownKinds (given : List Value)
  | unknownEmbedding (given : Value)
  | unknownContent (given : Value)
  | notMapping (path : String)
  | reported (message : String)
  deriving DecidableEq, Repr

def elementKinds : List String :=
  ["namespace", "function", "class", "method", "constructor", "field"]

def embedChoices : List String := ["namespace-doc", "whole-document"]

def contentChoices : List String := ["file-path", "whole-document"]

def visibilityChoices : List String := ["all", "public-only"]

namespace OptionFault

def listed (names : List String) : String := (Value.list (names.map .str)).quoted

def message : OptionFault → String
  | .notPositive key v => "Invalid " ++ key ++ " " ++ v.quoted ++ ": must be a positive integer"
  | .overlapTooLarge overlap size =>
    "Invalid chunk configuration: chunk_overlap (" ++ toString overlap ++
      ") must be less than chunk_size (" ++ toString size ++ ")"
  | .badVisibility v =>
    "Invalid visibility " ++ v.quoted ++ ": expected one of " ++ ", ".intercalate visibilityChoices
  | .kindsNotListed => "element_types must be a list of element kinds"
  | .unknownKinds vs =>
    "Unknown element_types " ++ (Value.list vs).quoted ++ ": expected any of " ++
      ", ".intercalate elementKinds
  | .unknownEmbedding v =>
    "Unknown embedding strategy " ++ v.quoted ++ "; expected one of " ++ listed embedChoices
  | .unknownContent v =>
    "Unknown content strategy " ++ v.quoted ++ "; expected one of " ++ listed contentChoices
  | .notMapping path => "Config file " ++ path ++ " must contain a mapping at the top level"
  | .reported message => message

end OptionFault

/-- The kinds under which the failure of one file is recorded. -/
inductive FaultKind where
  | ingest
  | read
  | parse
  | validation
  | analysis
  | embedding
  | store
  deriving DecidableEq, Repr

namespace FaultKind

def name : FaultKind → String
  | .ingest => "ingest-error"
  | .read => "read-error"
  | .parse => "parse-error"
  | .validation => "validation-error"
  | .analysis => "analysis-error"
  | .embedding => "embedding-error"
  | .store => "store-error"

end FaultKind

/-- What went wrong with one file. -/
inductive FileFault where
  | unreadable (path cause : String)
  | noForm (detail : Option String)
  | noName
  | noDoc
  | notSegment (kind : String)
  | missingFields (names : List String)
  | emptyText (id : Value) (field : String)
  | badMetadata (id : Value)
  | noAnalyzer (suffix : String)
  | analysisFailed (path cause : String)
  | embeddingFailed (cause : String)
  | modelFailed (cause : String)
  | serverFailed (cause : String)
  | wrongDimensions (got expected : Int)
  | storeFailed (id cause : String)
  | reported (kind : FaultKind) (message : String)
  deriving DecidableEq, Repr

namespace FileFault

def kind : FileFault → FaultKind
  | .unreadable .. => .read
  | .noForm _ | .noName | .noDoc => .parse
  | .notSegment _ | .missingFields _ | .emptyText .. | .badMetadata _ => .validation
  | .noAnalyzer _ | .analysisFailed .. => .analysis
  | .embeddingFailed _ | .modelFailed _ | .serverFailed _ | .wrongDimensions .. => .embedding
  | .storeFailed .. => .store
  | .reported k _ => k

def message : FileFault → String
  | .unreadable path cause => "Unable to read " ++ path ++ ": " ++ cause
  | .noForm none => "No ns form found"
  | .noForm (some detail) => "No ns form found: " ++ detail
  | .noName => "Could not extract namespace"
  | .noDoc => "No namespace docstring found"
  | .notSegment kind => "Expected a SegmentDescriptor, got " ++ kind
  | .missingFields names =>
    "Segment descriptor missing required fields: " ++ ", ".intercalate names
  | .emptyText id field => "Segment " ++ id.quoted ++ " has empty or non-string " ++ field
  | .badMetadata id => "Segment " ++ id.quoted ++ " metadata must be a mapping"
  | .noAnalyzer suffix =>
    "No analyzer for " ++ (if suffix = "" then "extensionless" else suffix) ++ " files"
  | .analysisFailed path cause => "Analysis failed for " ++ path ++ ": " ++ cause
  | .embeddingFailed cause => "Embedding failed: " ++ cause
  | .modelFailed cause => "fastembed failed: " ++ cause
  | .serverFailed cause => "Ollama embedding failed: " ++ cause
  | .wrongDimensions got expected =>
    "Ollama returned " ++ toString got ++ " dims, expected " ++ toString expected
  | .storeFailed id cause => "Failed to store segment " ++ id ++ ": " ++ cause
  | .reported _ message => message

end FileFault

/-- The classes of failures that collaborators raise. -/
inductive RaisedKind where
  | runtime
  | value
  | type
  | system
  | permission
  | notFound
  | timeout
  | key
  | unicode
  | undecodable
  | lookup
  deriving DecidableEq, Repr

namespace RaisedKind

def isSystem : RaisedKind → Bool
  | .system | .permission | .notFound | .timeout => true
  | _ => false

end RaisedKind

/-- A cause that stops a step. -/
inductive Failure where
  | path (fault : PathFault) (spec : Option String) (position : Option Nat)
  | options (fault : OptionFault)
  | unknownStrategy (name : Value) (available : List String)
  | file (fault : FileFault) (path : Option String)
  | system (fault : SystemFault) (path : String)
  | pattern (fault : Pattern.Fault)
  | raised (kind : RaisedKind) (message : String)
  deriving DecidableEq, Repr

namespace Failure

def message : Failure → String
  | .path fault spec position =>
    fault.message ++ (position.map fun n => " at position " ++ toString n).getD "" ++
      (spec.map fun s => " in path spec " ++ Text.quoted s).getD ""
  | .options fault => fault.message
  | .unknownStrategy name available =>
    "Unknown ingest strategy: " ++ name.quoted ++
      if available.isEmpty then "" else " (available: " ++ ", ".intercalate available ++ ")"
  | .file fault _ => fault.message
  | .system fault at_ => fault.message at_
  | .pattern (.malformed reason) => reason
  | .pattern .repeatTooLarge => "the repetition number is too large"
  | .pattern .mixedAlphabets => "ASCII and UNICODE flags are incompatible"
  | .pattern .verboseStart => "verbose mode at the start"
  | .raised _ message => message

def kind : Failure → FaultKind
  | .file fault _ => fault.kind
  | .system .. => .read
  | .raised k _ => if k.isSystem then .read else .ingest
  | _ => .ingest

/-- A value that an operation has no meaning for. -/
def badType (message : String) : Failure := .raised .type message

/-- A value outside the range of an operation. -/
def badValue (message : String) : Failure := .raised .value message

/-- The refusal of a path with a null character, whatever was to be done with it. -/
def nullInPath : Failure := badValue "embedded null byte"

end Failure

end SegmentIndex
