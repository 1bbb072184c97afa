import SegmentIndex.Value.Equality
import Mathlib

/-!
# Doubles as numbers

The parts that a double is taken apart into are those that it is compared by: two doubles are equal
exactly if both are zero, or both are infinite with the same sign, or both have the same sign,
mantissa and exponent. A finite double has only one mantissa and exponent, so equal doubles are
equal as rational numbers and the other way round.
-/
namespace SegmentIndex.Decimal

open Float.Model Float.Model.UnpackedFloat

/-! ## The fields of a double -/

theorem toNat_unpackMantissa (b : BitVec Format.binary64.numBits) :
    (unpackMantissa b).toNat = b.toNat % twos 52 := by
  simp [unpackMantissa, BitVec.extractLsb, twos]

theorem toNat_unpackExponent (b : BitVec Format.binary64.numBits) :
    (unpackExponent b).toNat = b.toNat / twos 52 % twos 11 := by
  simp [unpackExponent, BitVec.extractLsb, Nat.shiftRight_eq_div_pow, twos]

theorem toNat_unpackSign (b : BitVec Format.binary64.numBits) :
    (unpackSign b).toNat = b.toNat / twos 63 := by
  have hlt : b.toNat < 2 ^ 64 := b.isLt
  simp [unpackSign, BitVec.extractLsb, Nat.shiftRight_eq_div_pow, twos]
  omega

def isNegative : Sign → Bool
  | .negative => true
  | .positive => false

/-- The parts of a double and the form that it is compared in say the same. -/
inductive Unpacks : Parts → UnpackedFloat → Prop where
  | zero (s : Sign) : Unpacks (.zero (isNegative s)) (.zero s)
  | finite (s : Sign) (size : Binary) (h : 0 < size.mantissa) :
      Unpacks (.finite (isNegative s) size) (.finite s size.mantissa size.exponent h)
  | infinite (s : Sign) : Unpacks (.infinite (isNegative s)) (.infinity s)
  | undefined : Unpacks .undefined .notANumber

theorem isNegative_unpackSign (b : BitVec Format.binary64.numBits) :
    decide (b.toNat / twos 63 = 1) = isNegative (Sign.ofBitVec (unpackSign b)) := by
  rw [← toNat_unpackSign]
  generalize unpackSign b = v
  revert v
  decide

theorem toNat_one_append (v : BitVec 52) : (1#1 ++ v).toNat = v.toNat + twos 52 := by
  rw [BitVec.toNat_append, ← Nat.shiftLeft_add_eq_or_of_lt v.isLt, Nat.shiftLeft_eq, Nat.add_comm]
  rfl

theorem unpacks_of_bits {x : Float} {b : BitVec Format.binary64.numBits}
    (hbits : x.toBits.toNat = b.toNat) :
    Unpacks (partsOf x) (UnpackedFloat.unpack Format.binary64 b) := by
  have hall : unpackExponent b = -1#_ ↔ (unpackExponent b).toNat = 2047 := by
    rw [← BitVec.toNat_inj]
    rfl
  have hnone : unpackExponent b = 0#_ ↔ (unpackExponent b).toNat = 0 := by
    rw [← BitVec.toNat_inj]
    rfl
  have hfraction : unpackMantissa b = 0#_ ↔ (unpackMantissa b).toNat = 0 := by
    rw [← BitVec.toNat_inj]
    rfl
  simp only [partsOf, hbits, ← toNat_unpackExponent, ← toNat_unpackMantissa, isNegative_unpackSign]
  unfold UnpackedFloat.unpack
  dsimp only
  generalize Sign.ofBitVec (unpackSign b) = s
  by_cases hinf : (unpackExponent b).toNat = 2047
  · rw [if_pos hinf, if_pos (hall.mpr hinf)]
    by_cases hzero : (unpackMantissa b).toNat = 0
    · rw [if_pos hzero, if_pos (hfraction.mpr hzero)]
      exact .infinite s
    · rw [if_neg hzero, if_neg (mt hfraction.mp hzero)]
      exact .undefined
  rw [if_neg hinf, if_neg (mt hall.mp hinf)]
  by_cases hsub : (unpackExponent b).toNat = 0
  · rw [if_pos hsub, if_pos (hnone.mpr hsub)]
    by_cases hzero : (unpackMantissa b).toNat = 0
    · rw [if_pos hzero, dif_pos (hfraction.mpr hzero)]
      exact .zero s
    · rw [if_neg hzero, dif_neg (mt hfraction.mp hzero)]
      simp only [hsub]
      exact .finite s ⟨_, -1074, false⟩ _
  · rw [if_neg hsub, if_neg (mt hnone.mp hsub)]
    simp only [toNat_one_append]
    exact .finite s ⟨_, _, _⟩ _

theorem unpacks (x : Float) : Unpacks (partsOf x) x.toModel.unpack := unpacks_of_bits rfl

/-! ## Equal doubles -/

/-- Whether parts are those of equal doubles. -/
def Alike : Parts → Parts → Prop
  | .zero _, .zero _ => True
  | .finite s a, .finite t b => s = t ∧ a.mantissa = b.mantissa ∧ a.exponent = b.exponent
  | .infinite s, .infinite t => s = t
  | _, _ => False

theorem isNegative_inj {s t : Sign} : isNegative s = isNegative t ↔ s = t := by
  cases s <;> cases t <;> simp [isNegative]

theorem eq_or_opposite (s t : Sign) :
    s = t ∨ s = .positive ∧ t = .negative ∨ s = .negative ∧ t = .positive := by
  cases s <;> cases t <;> simp

theorem alike_of_unpacks {p q : Parts} {u v : UnpackedFloat} (hp : Unpacks p u) (hq : Unpacks q v) :
    u.beq v = true ↔ Alike p q := by
  rw [beq_iff_ne_notANumber_and_eq]
  cases hp with
  | zero s =>
    cases hq with
    | zero t => simpa [Alike] using eq_or_opposite s t
    | _ => simp [Alike]
  | finite s =>
    cases hq with
    | finite t => simp [Alike, isNegative_inj]
    | _ => simp [Alike]
  | infinite s =>
    cases hq with
    | infinite t => simp [Alike, isNegative_inj]
    | _ => simp [Alike]
  | undefined => simp [Alike]

theorem beq_iff (x y : Float) : (x == y) = true ↔ Alike (partsOf x) (partsOf y) :=
  alike_of_unpacks (unpacks x) (unpacks y)

/-! ## Rational numbers -/

theorem twos_eq (n : Nat) : twos n = 2 ^ n := rfl

theorem twos_ne_zero (n : Nat) : twos n ≠ 0 := (Nat.two_pow_pos n).ne'

/-- The form that the size of a double has: 53 places, or fewer with the least exponent. -/
structure Binary.Normal (size : Binary) : Prop where
  pos : 0 < size.mantissa
  lt : size.mantissa < 2 ^ 53
  le : -1074 ≤ size.exponent
  full : -1074 < size.exponent → 2 ^ 52 ≤ size.mantissa

theorem normal_of_partsOf {x : Float} {s : Bool} {size : Binary} (h : partsOf x = .finite s size) :
    size.Normal := by
  have hfraction := Nat.mod_lt x.toBits.toNat (show 0 < 2 ^ 52 by decide)
  simp only [partsOf] at h
  split_ifs at h with hinf hzero hsub hzero
  · obtain ⟨-, rfl⟩ := Parts.finite.inj h
    rw [twos_eq] at hzero
    constructor <;> simp only [twos_eq] <;> omega
  · obtain ⟨-, rfl⟩ := Parts.finite.inj h
    rw [twos_eq, twos_eq] at hsub
    constructor <;> simp only [twos_eq] <;> omega

theorem mul_zpow_eq {e low : Int} (h : low ≤ e) (m : Nat) :
    (m : ℚ) * 2 ^ e = (m * twos (e - low).toNat : Nat) * 2 ^ low := by
  have hsum : e = ((e - low).toNat : Int) + low := by omega
  have hpower : (2 : ℚ) ^ e = 2 ^ (e - low).toNat * 2 ^ low := by
    conv_lhs => rw [hsum]
    rw [zpow_add₀ (by norm_num), zpow_natCast]
  rw [hpower, twos_eq]
  push_cast
  ring

theorem eq_mul_twos {e low : Int} (h : low ≤ e) {m n : Nat}
    (hsame : (n : ℚ) * 2 ^ low = m * 2 ^ e) :
    n = m * twos (e - low).toNat := by
  rw [mul_zpow_eq h] at hsame
  have hpos : (2 : ℚ) ^ low ≠ 0 := zpow_ne_zero _ (by norm_num)
  exact_mod_cast mul_right_cancel₀ hpos hsame

theorem Binary.Normal.value_pos {size : Binary} (h : size.Normal) :
    (0 : ℚ) < size.mantissa * 2 ^ size.exponent :=
  mul_pos (Nat.cast_pos.mpr h.pos) (zpow_pos (by norm_num) _)

/-- The size of a double is not the same number as one with a greater exponent. -/
theorem Binary.Normal.exponent_le {a b : Binary} (ha : a.Normal) (hb : b.Normal)
    (h : (a.mantissa : ℚ) * 2 ^ a.exponent = b.mantissa * 2 ^ b.exponent) :
    b.exponent ≤ a.exponent := by
  by_contra hlt
  rw [not_le] at hlt
  have hmantissa := eq_mul_twos hlt.le h
  have hfull := hb.full (by have := ha.le; omega)
  have htwo : 2 ≤ twos (b.exponent - a.exponent).toNat := by
    rw [twos_eq]
    exact Nat.le_self_pow (by omega) 2
  have hbound := Nat.mul_le_mul hfull htwo
  have := ha.lt
  omega

/-- Sizes of doubles that are the same number have the same mantissa and exponent. -/
theorem Binary.Normal.unique {a b : Binary} (ha : a.Normal) (hb : b.Normal)
    (h : (a.mantissa : ℚ) * 2 ^ a.exponent = b.mantissa * 2 ^ b.exponent) :
    a.mantissa = b.mantissa ∧ a.exponent = b.exponent := by
  have hexponent : a.exponent = b.exponent :=
    le_antisymm (hb.exponent_le ha h.symm) (ha.exponent_le hb h)
  refine ⟨?_, hexponent⟩
  have hmantissa := eq_mul_twos hexponent.le h
  rwa [hexponent, Int.sub_self, Int.toNat_zero, twos_zero, Nat.mul_one] at hmantissa

end SegmentIndex.Decimal
