import SegmentIndex.Decimal.Text
import SegmentIndex.Text.Quoted
import SegmentIndex.Value.Basic

/-!
# Values as text

Messages show a value in quoted form; metadata filters use the plain form, in which a text stands
for itself and every other value looks as it does when quoted.
-/
namespace SegmentIndex.Value

def kindName : Value → String
  | .null => "NoneType"
  | .bool _ => "bool"
  | .int _ => "int"
  | .float _ => "float"
  | .str _ => "str"
  | .list _ => "list"
  | .map _ => "dict"

def joinWith (separator : String) (parts : List String) : String := separator.intercalate parts

mutual

/-- A value in quoted form. -/
def quoted : Value → String
  | .null => "None"
  | .bool true => "True"
  | .bool false => "False"
  | .int n => toString n
  | .float x => Decimal.text Decimal.plain x
  | .str s => Text.quoted s
  | .list items => "[" ++ joinWith ", " (quotedItems items) ++ "]"
  | .map entries => "\x7b" ++ joinWith ", " (quotedEntries entries) ++ "\x7d"

def quotedItems : List Value → List String
  | [] => []
  | v :: rest => quoted v :: quotedItems rest

def quotedEntries : List (String × Value) → List String
  | [] => []
  | (k, v) :: rest => (Text.quoted k ++ ": " ++ quoted v) :: quotedEntries rest

end

/-- A value in plain form. -/
def plain : Value → String
  | .str s => s
  | v => quoted v

@[simp] theorem plain_str (s : String) : plain (.str s) = s := rfl

end SegmentIndex.Value
