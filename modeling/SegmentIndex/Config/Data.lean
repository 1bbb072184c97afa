import SegmentIndex.Value.Equality

/-!
# Data of a configuration

A configuration is given as data, whose maps may have keys of any simple kind, and which may
hold points in time. The values that metadata can have are data as well; data become a value
when keys and times are written as texts.
-/
namespace SegmentIndex.Config

/-- What a configuration can hold; a point in time is known by its text. -/
inductive Data where
  | null
  | bool (b : Bool)
  | int (n : Int)
  | float (x : Float)
  | text (s : String)
  | time (s : String)
  | list (items : List Data)
  | map (entries : List (Data × Data))
  deriving Inhabited, Repr

/-- Why a text has no data: its form is wrong, or a part of it has a form
of its own but no value, for a reason. -/
inductive ParseFault where
  | malformed
  | badValue (reason : String)
  deriving DecidableEq, Repr

namespace Data

mutual

def ofValue : Value → Data
  | .null => .null
  | .bool b => .bool b
  | .int n => .int n
  | .float x => .float x
  | .str s => .text s
  | .list items => .list (ofItems items)
  | .map entries => .map (ofEntries entries)

def ofItems : List Value → List Data
  | [] => []
  | v :: rest => ofValue v :: ofItems rest

def ofEntries : List (String × Value) → List (Data × Data)
  | [] => []
  | (k, v) :: rest => (.text k, ofValue v) :: ofEntries rest

end

def keyText : Data → String
  | .null => "null"
  | .bool b => if b then "true" else "false"
  | .int n => toString n
  | .float x => Decimal.text Decimal.plain x
  | .text s | .time s => s
  | .list _ | .map _ => ""

mutual

/-- Data as a value: keys and times become texts. -/
def toValue : Data → Value
  | .null => .null
  | .bool b => .bool b
  | .int n => .int n
  | .float x => .float x
  | .text s | .time s => .str s
  | .list items => .list (toItems items)
  | .map entries => .map (toEntries entries)

def toItems : List Data → List Value
  | [] => []
  | d :: rest => toValue d :: toItems rest

def toEntries : List (Data × Data) → List (String × Value)
  | [] => []
  | (k, d) :: rest => (keyText k, toValue d) :: toEntries rest

end

def get? (key : String) : List (Data × Data) → Option Data
  | [] => none
  | (.text k, d) :: rest => if k = key then some d else get? key rest
  | _ :: rest => get? key rest

/-- Whether data count as present: not null, false, zero or empty. -/
def truthy : Data → Bool
  | .time _ => true
  | d => d.toValue.truthy

end Data

end SegmentIndex.Config
