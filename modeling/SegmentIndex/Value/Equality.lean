import SegmentIndex.Value.Text

/-!
# Equal values and sets of values

Numbers are equal when they denote the same number, and the truth values count as one and zero.
Lists and maps cannot be members of a set. A set keeps the first of several equal values.
-/
namespace SegmentIndex.Value

/-- A number in lowest terms as sign, odd part and power of
two; `none` for what is no finite number. -/
def numberParts : Value → Option (Bool × Nat × Int)
  | .bool b => some (false, if b then 1 else 0, 0)
  | .int n => some (n < 0, n.natAbs, 0)
  | .float x =>
    match Decimal.partsOf x with
    | .zero _ => some (false, 0, 0)
    | .finite negative size => some (negative, size.mantissa, size.exponent)
    | _ => none
  | _ => none

def sameNumber : Bool × Nat × Int → Bool × Nat × Int → Bool
  | (s, m, p), (t, n, q) =>
    let low := min p q
    (s = t || (m = 0 && n = 0)) && m * Decimal.twos (p - low).toNat =
      n * Decimal.twos (q - low).toNat

def isNumber : Value → Bool
  | .bool _ | .int _ | .float _ => true
  | _ => false

mutual

def same : Value → Value → Bool
  | .null, .null => true
  | .str a, .str b => a = b
  | .list a, .list b => sameList a b
  | .map a, .map b => a.length = b.length && sameEntries a b
  | .float a, .float b => a == b
  | a, b =>
    match numberParts a, numberParts b with
    | some p, some q => sameNumber p q
    | _, _ => false

def sameList : List Value → List Value → Bool
  | [], [] => true
  | a :: as, b :: bs => same a b && sameList as bs
  | _, _ => false

def sameEntries : List (String × Value) → List (String × Value) → Bool
  | [], _ => true
  | (k, a) :: as, bs =>
    (match bs.lookup k with
      | some b => same a b
      | none => false) && sameEntries as bs

end

/-- Whether a value can be a member of a set. -/
def hashable : Value → Bool
  | .list _ | .map _ => false
  | _ => true

def addTo (set : List Value) (v : Value) : List Value :=
  if set.any (same v) then set else set ++ [v]

/-- Whether two texts stand in the order of their code points. -/
def textLe (a b : String) : Bool := a < b || a = b

/-- The order of a list of known values: by kind, then by plain form. -/
def kindLe (a b : Value) : Bool :=
  if kindName a = kindName b then textLe (plain a) (plain b) else kindName a < kindName b

/-- A number as a whole number of units of `2 ^ low`. -/
def scaled (low : Int) : Bool × Nat × Int → Int
  | (negative, m, p) => let n : Int := m * Decimal.twos (p - low).toNat; if negative then -n else n

def toDouble : Value → Float
  | .bool b => if b then 1.0 else 0.0
  | .int n => Float.ofInt n
  | .float x => x
  | _ => 0.0

def numberLe (a b : Value) : Bool :=
  match numberParts a, numberParts b with
  | some p, some q => let low := min p.2.2 q.2.2; scaled low p ≤ scaled low q
  | _, _ => toDouble a ≤ toDouble b

/-- Values in their order: all numbers or all texts; others have none unless they stand alone. -/
def sorted? (vs : List Value) : Option (List Value) :=
  if vs.length ≤ 1 then some vs
  else if vs.all isNumber then some (vs.mergeSort numberLe)
  else if vs.all fun v => v.str?.isSome then
    some (vs.mergeSort fun a b => textLe (plain a) (plain b))
  else none

def sortTexts (ss : List String) : List String := ss.mergeSort textLe

end SegmentIndex.Value
