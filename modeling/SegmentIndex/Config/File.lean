import SegmentIndex.Config.Environment
import SegmentIndex.Config.Reading
import SegmentIndex.FileTree.Text

/-!
# Configuration files

A configuration file holds one map, or nothing, which leaves all defaults. If the
file does not exist, the environment takes its place. How a text is parsed, and how
single settings are read, is a parameter.
-/
namespace SegmentIndex.Config

/-- Why a configuration file cannot be used. -/
inductive LoadFault where
  | malformed
  | refused (problems : List Problem)
  | failure (f : Failure)

/-- A warning about a configuration file or the environment in its place. -/
inductive LoadWarning where
  | missing (path : String)
  | environment (w : EnvWarning)
  deriving DecidableEq, Repr

def LoadWarning.message : LoadWarning → String
  | .missing path => "Config file not found: " ++ path ++ "; using environment defaults"
  | .environment w => w.message

variable (parse : String → Except ParseFault Data) (r : Reader)

def ofData (path : String) (d : Data) : Except LoadFault Config :=
  match if d.truthy then d else .map [] with
  | .map entries =>
    if entries.any fun (k, _) => match k with
      | .text _ => false
      | _ => true
    then .error (.failure (Failure.badType "the names of settings must be texts"))
    else
      match read r entries with
      | .ok c => .ok c
      | .refused ps => .error (.refused ps)
  | _ => .error (.failure (.options (.notMapping path)))

def ofText (path text : String) : Except LoadFault Config :=
  match parse text with
  | .ok d => ofData r path d
  | .error .malformed => .error .malformed
  | .error (.badValue reason) => .error (.failure (Failure.badValue reason))

/-- The configuration of the file at a path, with the warnings about it. -/
def load (t : FileTree) (env : Table String) (path : String) :
    Except LoadFault (Config × List LoadWarning) :=
  match t.bytesAt path with
  | .error (.system .notFound _) =>
    let (c, warnings) := Environment.read env
    .ok (c, .missing path :: warnings.map .environment)
  | .error f => .error (.failure f)
  | .ok bytes =>
    match Text.Encoding.utf8.decode bytes with
    | some s =>
      (ofText parse r path (String.ofList (Text.uniformLines s.toList))).map fun c => (c, [])
    | none => .error (.failure (.raised .undecodable ((Text.faultMessage? bytes).getD "")))

end SegmentIndex.Config
