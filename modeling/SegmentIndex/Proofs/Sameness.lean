import SegmentIndex.Proofs.Doubles

/-!
# What equal values have in common

Two values that can be members of a set are equal exactly if they denote the same: nothing, a text,
a rational number, or an infinity. So equality of such values is symmetric and transitive, whichever
of them are truth values, whole numbers and doubles; only what is no number at all is not equal to
itself.
-/
namespace SegmentIndex.Value

/-! ## Numbers -/

/-- The rational number that a sign, a mantissa and an exponent stand for. -/
def rational : Bool × Nat × Int → ℚ
  | (negative, m, e) => if negative then -(m * 2 ^ e) else m * 2 ^ e

/-- Multiples of one unit are equal exactly if they are so many units of one sign, or none. -/
theorem signed_eq_iff {unit : ℚ} (hunit : 0 < unit) (s t : Bool) (m n : Nat) :
    (if s then -((m : ℚ) * unit) else m * unit) = (if t then -((n : ℚ) * unit) else n * unit) ↔
      (s = t ∨ m = 0) ∧ m = n := by
  have hcancel : (m : ℚ) * unit = n * unit ↔ m = n := by
    rw [mul_left_inj' hunit.ne', Nat.cast_inj]
  have hopposite : (m : ℚ) * unit + n * unit = 0 ↔ m = 0 ∧ m = n := by
    rw [← add_mul, mul_eq_zero, or_iff_left hunit.ne', ← Nat.cast_add, Nat.cast_eq_zero]
    omega
  cases s <;> cases t
  · simpa using hcancel
  · simpa [eq_neg_iff_add_eq_zero] using hopposite
  · simpa [neg_eq_iff_add_eq_zero] using hopposite
  · simpa using hcancel

theorem sameNumber_iff {p q : Bool × Nat × Int} :
    sameNumber p q = true ↔ rational p = rational q := by
  obtain ⟨s, m, e⟩ := p
  obtain ⟨t, n, f⟩ := q
  have hzero : ∀ k k' : Nat, k * Decimal.twos k' = 0 ↔ k = 0 := by
    intro k k'
    rw [Nat.mul_eq_zero, or_iff_left (Decimal.twos_ne_zero k')]
  simp only [rational, Decimal.mul_zpow_eq (min_le_left e f),
    Decimal.mul_zpow_eq (min_le_right e f)]
  rw [signed_eq_iff (zpow_pos (by norm_num) _), hzero]
  simp only [sameNumber, Bool.and_eq_true, Bool.or_eq_true, decide_eq_true_eq]
  refine and_congr_left ?_
  intro hsame
  have hboth : m = 0 ↔ n = 0 := by rw [← hzero m, hsame, hzero]
  rw [← hboth, and_self]

/-! ## What a value denotes -/

/-- What a value that can be a member of a set denotes. -/
inductive Denoted where
  | nothing
  | text (s : String)
  | number (q : ℚ)
  | infinity (negative : Bool)

/-- What a double denotes, by its parts. -/
def denotedParts : Decimal.Parts → Option Denoted
  | .zero _ => some (.number 0)
  | .finite negative size => some (.number (rational (negative, size.mantissa, size.exponent)))
  | .infinite negative => some (.infinity negative)
  | .undefined => none

/-- What a value denotes; lists, maps and what is no number denote nothing that can be compared. -/
def denoted? : Value → Option Denoted
  | .null => some .nothing
  | .bool b => some (.number (if b then 1 else 0))
  | .int n => some (.number n)
  | .float x => denotedParts (Decimal.partsOf x)
  | .str s => some (.text s)
  | .list _ | .map _ => none

theorem rational_int (n : Int) : rational (decide (n < 0), n.natAbs, 0) = n := by
  rcases lt_or_ge n 0 with hneg | hpos
  · simp [rational, hneg, abs_of_neg hneg]
  · simp [rational, not_lt.mpr hpos, abs_of_nonneg hpos]

theorem denoted?_eq_number {v : Value} {q : ℚ} :
    denoted? v = some (.number q) ↔ ∃ p, numberParts v = some p ∧ rational p = q := by
  cases v with
  | bool b => cases b <;> simp [denoted?, numberParts, rational]
  | int n => simp [denoted?, numberParts, rational_int]
  | float x =>
    simp only [denoted?, numberParts]
    cases Decimal.partsOf x <;> simp [denotedParts, rational]
  | _ => simp [denoted?, numberParts]

/-- Whether parts are there and are those of the same number. -/
def sameParts : Option (Bool × Nat × Int) → Option (Bool × Nat × Int) → Bool
  | some p, some q => sameNumber p q
  | _, _ => false

/-- Values that are compared as numbers are equal exactly if they denote the same number. -/
theorem sameParts_iff {a b : Value} : sameParts (numberParts a) (numberParts b) = true ↔
    ∃ q, denoted? a = some (.number q) ∧ denoted? b = some (.number q) := by
  simp only [denoted?_eq_number]
  cases numberParts a with
  | none => simp [sameParts]
  | some p =>
    cases numberParts b with
    | none => simp [sameParts]
    | some q =>
      rw [sameParts, sameNumber_iff, eq_comm]
      simp

/-! ## Doubles -/

/-- Sizes of doubles with signs are equal numbers exactly if
sign, mantissa and exponent are the same. -/
theorem rational_eq_iff {s t : Bool} {a b : Decimal.Binary} (ha : a.Normal) (hb : b.Normal) :
    rational (s, a.mantissa, a.exponent) = rational (t, b.mantissa, b.exponent) ↔
      s = t ∧ a.mantissa = b.mantissa ∧ a.exponent = b.exponent := by
  constructor
  · intro h
    have hsigns : s = t ∧ (a.mantissa : ℚ) * 2 ^ a.exponent = b.mantissa * 2 ^ b.exponent := by
      have hpos := ha.value_pos
      have hpos' := hb.value_pos
      simp only [rational] at h
      cases s <;> cases t
      · exact ⟨rfl, h⟩
      · simp only [Bool.false_eq_true, if_false, if_true] at h
        linarith
      · simp only [Bool.false_eq_true, if_false, if_true] at h
        linarith
      · exact ⟨rfl, neg_inj.mp h⟩
    exact ⟨hsigns.1, ha.unique hb hsigns.2⟩
  · rintro ⟨rfl, hm, he⟩
    rw [hm, he]

theorem rational_ne_zero {s : Bool} {size : Decimal.Binary} (h : size.Normal) :
    rational (s, size.mantissa, size.exponent) ≠ 0 := by
  have hpos := h.value_pos
  cases s
  · exact hpos.ne'
  · exact (neg_neg_of_pos hpos).ne

theorem alike_iff {p q : Decimal.Parts} (hp : ∀ s a, p = .finite s a → a.Normal)
    (hq : ∀ s a, q = .finite s a → a.Normal) :
    Decimal.Alike p q ↔ ∃ d, denotedParts p = some d ∧ denotedParts q = some d := by
  cases p with
  | zero s =>
    cases q with
    | finite t b =>
      have hnonzero := rational_ne_zero (s := t) (hq _ _ rfl)
      simp [Decimal.Alike, denotedParts, hnonzero]
    | _ => simp [Decimal.Alike, denotedParts]
  | finite s a =>
    cases q with
    | zero t =>
      have hnonzero := rational_ne_zero (s := s) (hp _ _ rfl)
      simp [Decimal.Alike, denotedParts, hnonzero.symm]
    | finite t b =>
      rw [Decimal.Alike, ← rational_eq_iff (hp _ _ rfl) (hq _ _ rfl), eq_comm]
      simp [denotedParts]
    | _ => simp [Decimal.Alike, denotedParts]
  | infinite s =>
    cases q with
    | infinite t =>
      rw [Decimal.Alike, eq_comm]
      simp [denotedParts]
    | _ => simp [Decimal.Alike, denotedParts]
  | undefined => simp [Decimal.Alike, denotedParts]

theorem same_float_iff (x y : Float) : same (.float x) (.float y) = true ↔
    ∃ d, denoted? (.float x) = some d ∧ denoted? (.float y) = some d := by
  have heq : same (.float x) (.float y) = (x == y) := by rw [same]
  rw [heq, Decimal.beq_iff]
  exact alike_iff (fun s a => Decimal.normal_of_partsOf) (fun s a => Decimal.normal_of_partsOf)

/-! ## Equality -/

theorem same_bool (a b : Bool) :
    same (.bool a) (.bool b) = sameParts (numberParts (.bool a)) (numberParts (.bool b)) :=
  rfl

theorem same_int (m n : Int) :
    same (.int m) (.int n) = sameParts (numberParts (.int m)) (numberParts (.int n)) := rfl

theorem same_of_kindName_ne {a b : Value} (h : a.kindName ≠ b.kindName) :
    same a b = sameParts (numberParts a) (numberParts b) := by
  cases a <;> cases b <;> first | rfl | exact absurd rfl h

/-- The kind of the values that denote what is no number. -/
def Denoted.kindName : Denoted → String
  | nothing => "NoneType"
  | text _ => "str"
  | infinity _ => "float"
  | number _ => ""

theorem kindName_of_denoted {v : Value} {d : Denoted} (h : denoted? v = some d) :
    (∃ q, d = .number q) ∨ v.kindName = d.kindName := by
  cases v with
  | null =>
    obtain rfl := Option.some.inj h
    exact .inr rfl
  | bool b => exact .inl ⟨_, (Option.some.inj h).symm⟩
  | int n => exact .inl ⟨_, (Option.some.inj h).symm⟩
  | float x =>
    rw [denoted?] at h
    cases hx : Decimal.partsOf x with
    | zero s =>
      rw [hx] at h
      exact .inl ⟨_, (Option.some.inj h).symm⟩
    | finite s a =>
      rw [hx] at h
      exact .inl ⟨_, (Option.some.inj h).symm⟩
    | infinite s =>
      rw [hx] at h
      obtain rfl := Option.some.inj h
      exact .inr rfl
    | undefined => simp [hx, denotedParts] at h
  | str s =>
    obtain rfl := Option.some.inj h
    exact .inr rfl
  | list items => cases h
  | map entries => cases h

/-- Values that can be members of a set are equal exactly if they denote the same. -/
theorem same_iff {a b : Value} (ha : a.hashable = true) (hb : b.hashable = true) :
    same a b = true ↔ ∃ d, denoted? a = some d ∧ denoted? b = some d := by
  by_cases hkind : a.kindName = b.kindName
  · cases a <;> cases b <;> simp only [kindName, String.reduceEq] at hkind
    case null => simp [same, denoted?]
    case bool => simp [same_bool, sameParts_iff, denoted?]
    case int => simp [same_int, sameParts_iff, denoted?]
    case float => exact same_float_iff _ _
    case str => simp [same, denoted?, eq_comm]
    case list => cases ha
    case map => cases ha
  · rw [same_of_kindName_ne hkind, sameParts_iff]
    constructor
    · rintro ⟨q, hq⟩
      exact ⟨_, hq⟩
    · rintro ⟨d, hda, hdb⟩
      rcases kindName_of_denoted hda with ⟨q, rfl⟩ | hkinda
      · exact ⟨q, hda, hdb⟩
      rcases kindName_of_denoted hdb with ⟨q, rfl⟩ | hkindb
      · exact ⟨q, hda, hdb⟩
      exact absurd (hkinda.trans hkindb.symm) hkind

theorem eq_of_denoted {a b : Value} {d : Denoted} (ha : denoted? a = some d)
    (hb : denoted? b = some d)
    (hkind : a.kindName = b.kindName) (hdouble : a.kindName ≠ "float") : a = b := by
  have hsame := ha.trans hb.symm
  cases a <;> cases b <;> simp only [kindName, String.reduceEq] at hkind
  case null => rfl
  case bool x y => cases x <;> cases y <;> simp [denoted?] at hsame ⊢
  case int => simpa [denoted?] using hsame
  case float => exact absurd rfl hdouble
  case str => simpa [denoted?] using hsame
  case list => cases ha
  case map => cases ha

theorem isNumber_of_denoted {v : Value} {q : ℚ} (h : denoted? v = some (.number q)) :
    v.isNumber = true := by
  cases v <;> first | rfl | cases h

theorem isNumber_of_kindName {v : Value} (h : v.kindName = "float") : v.isNumber = true := by
  cases v <;> first | rfl | simp [kindName] at h

/-- Equal values are the same, unless they are numbers of two kinds or doubles. -/
theorem eq_or_numbers_of_same {a b : Value} (ha : a.hashable = true) (hb : b.hashable = true)
    (h : same a b = true) :
    a = b ∨ a.isNumber = true ∧ b.isNumber = true ∧
    (a.kindName = b.kindName → a.kindName = "float") := by
  by_cases hkind : a.kindName = b.kindName
  · by_cases hdouble : a.kindName = "float"
    · exact .inr ⟨isNumber_of_kindName hdouble, isNumber_of_kindName (hkind ▸ hdouble),
        fun _ => hdouble⟩
    · obtain ⟨d, hda, hdb⟩ := (same_iff ha hb).mp h
      exact .inl (eq_of_denoted hda hdb hkind hdouble)
  · rw [same_of_kindName_ne hkind, sameParts_iff] at h
    obtain ⟨q, hqa, hqb⟩ := h
    exact .inr ⟨isNumber_of_denoted hqa, isNumber_of_denoted hqb, fun heq => absurd heq hkind⟩

theorem same_trans {a b c : Value} (ha : a.hashable = true) (hb : b.hashable = true)
    (hc : c.hashable = true) (hab : same a b = true) (hbc : same b c = true) : same a c = true := by
  obtain ⟨d, hda, hdb⟩ := (same_iff ha hb).mp hab
  obtain ⟨d', hdb', hdc⟩ := (same_iff hb hc).mp hbc
  obtain rfl := Option.some.inj (hdb.symm.trans hdb')
  exact (same_iff ha hc).mpr ⟨d, hda, hdc⟩

end SegmentIndex.Value
