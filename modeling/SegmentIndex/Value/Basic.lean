/-!
# Values

Metadata, options and configuration hold values of any shape. A map keeps its entries in the
order in which their keys were first added.
-/
namespace SegmentIndex

/-- A value of any shape. -/
inductive Value where
  | null
  | bool (b : Bool)
  | int (n : Int)
  | float (x : Float)
  | str (s : String)
  | list (items : List Value)
  | map (entries : List (String × Value))
  deriving Inhabited, Repr

/-- The entries of a map, in the order in which their keys were first added. -/
abbrev Entries := List (String × Value)

namespace Value

mutual

def decEq : (a b : Value) → Decidable (a = b)
  | .null, .null => isTrue rfl
  | .bool a, .bool b => decidable_of_iff (a = b) (by simp)
  | .int a, .int b => decidable_of_iff (a = b) (by simp)
  | .float a, .float b => decidable_of_iff (a = b) (by simp)
  | .str a, .str b => decidable_of_iff (a = b) (by simp)
  | .list a, .list b =>
    match decEqList a b with
    | isTrue h => isTrue (by simp [h])
    | isFalse h => isFalse (by simp [h])
  | .map a, .map b =>
    match decEqEntries a b with
    | isTrue h => isTrue (by simp [h])
    | isFalse h => isFalse (by simp [h])
  | .null, .bool _ | .null, .int _ | .null, .float _ | .null, .str _ | .null, .list _
    | .null, .map _
  | .bool _, .null | .bool _, .int _ | .bool _, .float _ | .bool _, .str _ | .bool _, .list _
  | .bool _, .map _ | .int _, .null | .int _, .bool _ | .int _, .float _ | .int _, .str _
  | .int _, .list _ | .int _, .map _ | .float _, .null | .float _, .bool _ | .float _, .int _
  | .float _, .str _ | .float _, .list _ | .float _, .map _ | .str _, .null | .str _, .bool _
  | .str _, .int _ | .str _, .float _ | .str _, .list _ | .str _, .map _ | .list _, .null
  | .list _, .bool _ | .list _, .int _ | .list _, .float _ | .list _, .str _ | .list _, .map _
  | .map _, .null | .map _, .bool _ | .map _, .int _ | .map _, .float _ | .map _, .str _
  | .map _, .list _ => isFalse (by simp)

def decEqList : (a b : List Value) → Decidable (a = b)
  | [], [] => isTrue rfl
  | [], _ :: _ | _ :: _, [] => isFalse (by simp)
  | a :: as, b :: bs =>
    match decEq a b, decEqList as bs with
    | isTrue h, isTrue h' => isTrue (by simp [h, h'])
    | isFalse h, _ => isFalse (by simp [h])
    | _, isFalse h => isFalse (by simp [h])

/-- Decides whether two maps have the same entries in the same order. -/
def decEqEntries : (a b : List (String × Value)) → Decidable (a = b)
  | [], [] => isTrue rfl
  | [], _ :: _ | _ :: _, [] => isFalse (by simp)
  | (k, a) :: as, (l, b) :: bs =>
    match (inferInstance : Decidable (k = l)), decEq a b, decEqEntries as bs with
    | isTrue h, isTrue h', isTrue h'' => isTrue (by simp [h, h', h''])
    | isFalse h, _, _ => isFalse (by simp [h])
    | _, isFalse h, _ => isFalse (by simp [h])
    | _, _, isFalse h => isFalse (by simp [h])

end

instance : DecidableEq Value := decEq

def str? : Value → Option String
  | .str s => some s
  | _ => none

def map? : Value → Option Entries
  | .map entries => some entries
  | _ => none

def int? : Value → Option Int
  | .int n => some n
  | _ => none

def list? : Value → Option (List Value)
  | .list items => some items
  | _ => none

/-- Whether a value counts as present: not null, false, zero or empty. -/
def truthy : Value → Bool
  | .null => false
  | .bool b => b
  | .int n => n ≠ 0
  | .float x => x != 0
  | .str s => s ≠ ""
  | .list items => !items.isEmpty
  | .map entries => !entries.isEmpty

end Value

namespace Entries

variable (entries : Entries)

def get? (key : String) : Option Value := entries.lookup key

def has (key : String) : Bool := (get? entries key).isSome

/-- Sets the value at a key: in place if the key is present, at the end if not. -/
def put (key : String) (v : Value) : Entries → Entries
  | [] => [(key, v)]
  | (k, w) :: rest => if k = key then (k, v) :: rest else (k, w) :: put key v rest

/-- Sets the values at the keys of a second map, in its order. -/
def putAll (entries more : Entries) : Entries := more.foldl (fun acc (k, v) => put k v acc) entries

def erase (key : String) (entries : Entries) : Entries := entries.filter fun e => e.1 ≠ key

@[simp] theorem get?_nil (key : String) : get? [] key = none := rfl

theorem get?_cons (key k : String) (v : Value) (rest : Entries) :
    get? ((k, v) :: rest) key = if key = k then some v else get? rest key := by
  show (match key == k with
    | true => some v
    | false => get? rest key) = _
  by_cases h : key = k
  · simp [h]
  · have hk : (key == k) = false := by simpa using h
    simp [h, hk]

theorem get?_put (key key' : String) (v : Value) (entries : Entries) :
    get? (put key v entries) key' = if key' = key then some v else get? entries key' := by
  induction entries with
  | nil => simp [put, get?_cons]
  | cons e rest ih =>
    obtain ⟨k, w⟩ := e
    by_cases h : k = key
    · subst h
      simp only [put, if_true, get?_cons]
      split <;> simp_all
    · simp only [put, h, if_false, get?_cons, ih]
      by_cases h' : key' = k
      · subst h'; simp [h]
      · simp [h']

end Entries

end SegmentIndex
