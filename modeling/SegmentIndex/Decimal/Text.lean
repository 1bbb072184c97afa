/-!
# Decimal text of a binary number

A finite double is `m * 2 ^ q`. Among the decimals that round back to it the shortest are found on
grids of one, two, … seventeen digits: on each grid only the two neighbours of the value need to be
tried, and of two hits the nearer is taken. All comparisons are between natural numbers.

With a fixed number of places it is rounded from its exact size, and a size that lies halfway goes to
the even neighbour.
-/
namespace SegmentIndex.Decimal

def tens (n : Nat) : Nat := Nat.pow 10 n

def twos (n : Nat) : Nat := Nat.pow 2 n

@[simp] theorem twos_zero : twos 0 = 1 := rfl

/-- A positive binary number; `narrow` says that the neighbour
below is half as far as the one above. -/
structure Binary where
  mantissa : Nat
  exponent : Int
  narrow : Bool
  deriving DecidableEq, Repr

/-- A positive decimal: the number `digits` with the point placed after its first `point` digits. -/
structure Digits where
  digits : List Char
  point : Int
  deriving DecidableEq, Repr

def natDigits (n : Nat) : List Char := Nat.toDigits 10 n

def trimZeros (ds : List Char) : List Char :=
  match (ds.reverse.dropWhile (· = '0')).reverse with
  | [] => ['0']
  | kept => kept

/-- The factors that compare `a` units of the grid `10 ^ g` with `x` quarter steps of the number. -/
def scales (b : Binary) (g : Int) : Nat × Nat :=
  let e := b.exponent - 2
  (tens g.toNat * twos (-e).toNat, twos e.toNat * tens (-g).toNat)

/-- Whether `a` units of the grid round to the number; the ends count when the mantissa is even. -/
def roundsTo (b : Binary) (g : Int) (a : Nat) : Bool :=
  let (unit, step) := scales b g
  let value := a * unit
  let low := (4 * b.mantissa - if b.narrow then 1 else 2) * step
  let high := (4 * b.mantissa + 2) * step
  if b.mantissa % 2 = 0 then low ≤ value && value ≤ high else low < value && value < high

/-- The neighbour of the number on the grid `10 ^ g` that rounds to it, the nearer of two. -/
def hitOn (b : Binary) (g : Int) : Option Nat :=
  let (unit, step) := scales b g
  let v := 4 * b.mantissa * step
  let a := v / unit
  match roundsTo b g a, roundsTo b g (a + 1) with
  | true, true => if 2 * v ≤ (2 * a + 1) * unit then some a else some (a + 1)
  | true, false => some a
  | false, true => some (a + 1)
  | false, false => none

/-- The number of digits before the point; negative when zeros follow the point. -/
def magnitude (b : Binary) : Int :=
  let scaled := b.mantissa * tens 400 * twos b.exponent.toNat / twos (-b.exponent).toNat
  ((natDigits scaled).length : Int) - 400

/-- The first grid with a hit, of the grids with `count`, `count + 1`, … digits. -/
def firstHit (b : Binary) (top : Int) : Nat → Nat → Nat × Int
  | 0, count => (4 * b.mantissa, top - count)
  | fuel + 1, count =>
    match hitOn b (top - count) with
    | some a => (a, top - count)
    | none => firstHit b top fuel (count + 1)

/-- The shortest decimal that rounds to the number. -/
def shortest (b : Binary) : Digits :=
  let (a, g) := firstHit b (magnitude b) 17 1
  let ds := natDigits a
  ⟨trimZeros ds, ds.length + g⟩

/-- The parts of a double: its sign, and its size if it is finite. -/
inductive Parts where
  | zero (negative : Bool)
  | finite (negative : Bool) (size : Binary)
  | infinite (negative : Bool)
  | undefined
  deriving DecidableEq, Repr

def partsOf (x : Float) : Parts :=
  let bits := x.toBits.toNat
  let negative := bits / twos 63 = 1
  let e : Nat := bits / twos 52 % twos 11
  let f : Nat := bits % twos 52
  if e = 2047 then (if f = 0 then .infinite negative else .undefined)
  else if e = 0 then
    (if f = 0 then .zero negative else .finite negative ⟨f, -1074, false⟩)
  else .finite negative ⟨f + twos 52, (e : Int) - 1075, f = 0 && e > 1⟩

/-- How numbers are laid out: positional up to and from these
places of the point, else with an exponent. -/
structure Layout where
  lowest : Int
  highest : Int
  exponentDigits : Nat
  infinity : String
  undefined : String

/-- The digits of an exponent, padded with zeros. -/
def exponentText (layout : Layout) (e : Int) : List Char :=
  let ds := natDigits e.natAbs
  (if e < 0 then '-' else '+') :: (List.replicate (layout.exponentDigits - ds.length) '0' ++ ds)

def Digits.text (layout : Layout) (d : Digits) : List Char :=
  let n : Int := d.digits.length
  if layout.lowest ≤ d.point && d.point ≤ layout.highest then
    if d.point ≤ 0 then
      ['0', '.'] ++ List.replicate (-d.point).toNat '0' ++ d.digits
    else if n ≤ d.point then
      d.digits ++ List.replicate (d.point - n).toNat '0' ++ ['.', '0']
    else d.digits.take d.point.toNat ++ '.' :: d.digits.drop d.point.toNat
  else
    let mantissa := match d.digits with
      | [] => ['0']
      | [c] => [c]
      | c :: rest => c :: '.' :: rest
    mantissa ++ 'e' :: exponentText layout (d.point - 1)

def text (layout : Layout) (x : Float) : String :=
  let signed (negative : Bool) (s : String) := if negative then "-" ++ s else s
  match partsOf x with
  | .zero negative => signed negative "0.0"
  | .finite negative size => signed negative (String.ofList ((shortest size).text layout))
  | .infinite negative => signed negative layout.infinity
  | .undefined => layout.undefined

/-- Positional between 0.0001 and 10 ^ 16, else with an exponent of at least two digits. -/
def plain : Layout := ⟨-3, 16, 2, "inf", "nan"⟩

/-! ## A fixed number of places -/

/-- A quotient rounded to the nearest whole number, halves to the even one. -/
def roundDiv (num den : Nat) : Nat :=
  let q := num / den
  let r := num % den
  if 2 * r > den || (2 * r = den && q % 2 = 1) then q + 1 else q

def unitsOf (places : Nat) (b : Binary) : Nat :=
  roundDiv (b.mantissa * tens places * twos b.exponent.toNat) (twos (-b.exponent).toNat)

/-- Units of the last of some places, with a point. -/
def placed (places n : Nat) : String :=
  let ds := Nat.toDigits 10 n
  let ds := List.replicate (places + 1 - ds.length) '0' ++ ds
  String.ofList (ds.take (ds.length - places) ++ '.' :: ds.drop (ds.length - places))

def fixed (places : Nat) (x : Float) : String :=
  let signed (negative : Bool) (s : String) : String := if negative then "-" ++ s else s
  match partsOf x with
  | .zero negative => signed negative (placed places 0)
  | .finite negative size => signed negative (placed places (unitsOf places size))
  | .infinite negative => signed negative "inf"
  | .undefined => "nan"

end SegmentIndex.Decimal
