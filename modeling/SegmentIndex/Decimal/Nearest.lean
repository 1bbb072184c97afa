import SegmentIndex.Decimal.Text

/-!
# The double nearest to a decimal

A decimal is a whole number times a power of ten. Sizes far outside the range of doubles are decided
by the place of the first digit alone, so that no power of ten grows without bound.
-/
namespace SegmentIndex.Decimal

def infinite : Float := 1.0 / 0.0

def undefined : Float := 0.0 / 0.0

/-- The double nearest to `n * 10 ^ scale`. -/
def nearest (n : Nat) (scale : Int) : Float :=
  let place : Int := (natDigits n).length + scale
  if n = 0 || place < -400 then 0.0
  else if place > 400 then infinite
  else Float.ofScientific n (scale < 0) scale.natAbs

def digitsValue (ds : List Char) : Nat := ds.foldl (fun n c => n * 10 + (c.toNat - '0'.toNat)) 0

/-- Splits off an exponent: a mark, a sign that may be missing, and digits to the end. -/
def readExponent : List Char → Option Int
  | [] => some 0
  | e :: rest =>
    if e = 'e' || e = 'E' then
      let (negative, ds) := match rest with
        | '-' :: ds => (true, ds)
        | '+' :: ds => (false, ds)
        | ds => (false, ds)
      if ds.isEmpty || !ds.all Char.isDigit then none
      else some (if negative then -(digitsValue ds : Int) else digitsValue ds)
    else none

/-- Reads an unsigned decimal with a point, an exponent, both or neither; digits
stand on one side of the point at least. -/
def readUnsigned (cs : List Char) : Option Float :=
  let whole := cs.takeWhile Char.isDigit
  let rest := cs.dropWhile Char.isDigit
  let (fraction, rest) := match rest with
    | '.' :: more => (more.takeWhile Char.isDigit, more.dropWhile Char.isDigit)
    | _ => ([], rest)
  if whole.isEmpty && fraction.isEmpty then none
  else (readExponent rest).map fun e =>
    nearest (digitsValue (whole ++ fraction)) (e - fraction.length)

end SegmentIndex.Decimal
