/-
Words as shares of the greatest one.  The greatest word is rounded to a power of two, so dividing
a rounded word by it moves the exponent only and is exact.  The last words are rounded to the same
power, and their quotient is one.
-/
import CatalogQuery.Proofs.Binary64.Integers
import CatalogQuery.Word64

namespace CatalogQuery.Binary64

section Order

variable {x y z : Binary64}

theorem isBelow_iff :
    x.isBelow y = true ↔ x.isNaN = false ∧ y.isNaN = false ∧ x.signedUnits < y.signedUnits := by
  unfold isBelow compare?
  cases x.isNaN <;> cases y.isNaN <;> simp [Int.compare_eq_lt]

theorem isAtMost_iff :
    x.isAtMost y = true ↔ x.isNaN = false ∧ y.isNaN = false ∧ x.signedUnits ≤ y.signedUnits := by
  unfold isAtMost compare?
  cases x.isNaN <;> cases y.isNaN <;> simp [Int.compare_eq_gt]

theorem equals_iff :
    x.equals y = true ↔ x.isNaN = false ∧ y.isNaN = false ∧ x.signedUnits = y.signedUnits := by
  unfold equals compare?
  cases x.isNaN <;> cases y.isNaN <;> simp

theorem isAtMost_self (h : x.isNaN = false) : x.isAtMost x = true :=
  isAtMost_iff.mpr ⟨h, h, Int.le_refl _⟩

theorem equals_self (h : x.isNaN = false) : x.equals x = true :=
  equals_iff.mpr ⟨h, h, rfl⟩

theorem isBelow_of_isAtMost (hbelow : x.isBelow y = true) (h : y.isAtMost z = true) :
    x.isBelow z = true := by
  rw [isBelow_iff] at hbelow ⊢
  obtain ⟨-, hz, hle⟩ := isAtMost_iff.mp h
  exact ⟨hbelow.1, hz, Int.lt_of_lt_of_le hbelow.2.2 hle⟩

theorem isBelow_congr (h : y.equals z = true) : x.isBelow y = x.isBelow z := by
  obtain ⟨hy, hz, heq⟩ := equals_iff.mp h
  rw [Bool.eq_iff_iff, isBelow_iff, isBelow_iff, hy, hz, heq]

end Order

/-- So many binades further a number is so many times doubled. -/
theorem unitsOf_add_mul {m : Nat} (h : binade ≤ m) (s : Nat) :
    unitsOf (m + s * binade) = unitsOf m * 2 ^ s := by
  have hone : 0 < m / binade := Nat.div_pos h (by decide)
  have hstep : (m + s * binade) / binade - 1 = m / binade - 1 + s := by
    rw [Nat.add_mul_div_right _ _ (by decide)]
    omega
  simp only [unitsOf, Nat.shiftLeft_eq]
  rw [hstep, Nat.add_mul, Nat.add_sub_add_right, Nat.pow_add, Nat.mul_assoc]

/-- A word that is not zero is rounded to one or more. -/
theorem le_roundedMagnitude {k : Nat} (h : k ≠ 0) : 1023 * binade ≤ roundedMagnitude k := by
  have hstep : (k * unitsInOne).log2 - 52 = k.log2 + 1022 := by
    rw [log2_units h]
    omega
  have hquotient : binade ≤ k * unitsInOne / (1 <<< (k.log2 + 1022)) := by
    have hexponents : 52 + (k.log2 + 1022) = k.log2 + 1074 := by omega
    have hbinade : binade = 2 ^ 52 := by decide
    rw [Nat.one_shiftLeft, Nat.le_div_iff_mul_le (Nat.two_pow_pos _), hbinade, ← Nat.pow_add,
      hexponents, Nat.pow_add, unitsInOne_eq]
    exact Nat.mul_le_mul_right _ (Nat.log2_self_le h)
  have hrounded := div_le_roundToEven (k * unitsInOne) (1 <<< (k.log2 + 1022))
  rw [roundedMagnitude, nearest, Nat.div_one, hstep]
  calc 1023 * binade
    _ ≤ (k.log2 + 1023) * binade := Nat.mul_le_mul_right _ (by omega)
    _ = binade + (k.log2 + 1022) * binade := by ring
    _ ≤ _ := Nat.add_le_add_right (hquotient.trans hrounded) _

/-- Only the last words are rounded up to two to the power of sixty-four. -/
theorem roundedMagnitude_lt_iff {k : Nat} (h : k < 2 ^ 64) :
    roundedMagnitude k < 1087 * binade ↔ k < 2 ^ 64 - 1024 := by
  by_cases hlow : k < 2 ^ 63
  · have hle : roundedMagnitude k ≤ (63 + 1023) * binade := roundedMagnitude_le hlow
    exact iff_of_true (hle.trans_lt (by decide)) (by omega)
  · have hlog : k.log2 = 11 + 52 := (Nat.log2_eq_iff (by omega)).mpr ⟨by omega, by omega⟩
    have hdigits : roundToEven k (2 ^ 11) < 2 ^ 53 ↔ k < 2 ^ 64 - 1024 := by
      simp only [roundToEven]
      split_ifs <;> omega
    rw [roundedMagnitude_of_log2 hlog, ← hdigits]
    simp only [binade]
    omega

theorem ofInt_maxUInt64 : ofInt maxUInt64 = ofMagnitude false (1087 * binade) := by
  have hrounded : roundedMagnitude (2 ^ 64 - 1) = 1087 * binade := by
    have hlog : (2 ^ 64 - 1).log2 = 11 + 52 := rfl
    rw [roundedMagnitude_of_log2 hlog]
    rfl
  rw [← hrounded]
  exact ofInt_natCast (by decide)

theorem signedUnits_ofInt_zero : (ofInt 0).signedUnits = 0 := by
  decide

theorem signedUnits_ofInt_one : (ofInt 1).signedUnits = unitsOf (1023 * binade) := by
  have hrounded : roundedMagnitude 1 = 1023 * binade := by
    have hunits : 1 * unitsInOne = unitsOf (1023 * binade) := rfl
    rw [roundedMagnitude, hunits, nearest_unitsOf]
  rw [← hrounded]
  exact signedUnits_ofInt_natCast (by decide)

/-- Sixty-four binades less are a division by `2 ^ 64`, which leaves nothing to be rounded. -/
theorem nearest_unitsOf_roundedMagnitude (k : Nat) :
    nearest (unitsOf (roundedMagnitude k)) (2 ^ 64) = roundedMagnitude k - 64 * binade := by
  by_cases hk : k = 0
  · subst hk
    decide
  · have hmagnitude := le_roundedMagnitude hk
    obtain ⟨m, hm⟩ : ∃ m, roundedMagnitude k = m + 64 * binade :=
      ⟨roundedMagnitude k - 64 * binade, by omega⟩
    have hbinade : binade ≤ m := by omega
    rw [hm, unitsOf_add_mul hbinade, Nat.add_sub_cancel]
    calc nearest (unitsOf m * 2 ^ 64) (2 ^ 64)
      _ = nearest (unitsOf m * 2 ^ 64) (1 * 2 ^ 64) := by rw [Nat.one_mul]
      _ = m := by rw [nearest_mul_right _ _ (Nat.two_pow_pos 64), nearest_unitsOf]

/-- A word is divided by the greatest one without another rounding. -/
theorem quotient_maxUInt64 {k : Nat} (h : k < 2 ^ 64) :
    (ofInt k).quotient (ofInt maxUInt64) =
      ofMagnitude false (roundedMagnitude k - 64 * binade) := by
  have hsmall := roundedMagnitude_le_infinite h
  have hinfinite : 1087 * binade ≤ infiniteMagnitude := by decide
  have hword : (ofInt k).units = unitsOf (roundedMagnitude k) := by
    rw [ofInt_natCast h, units, magnitude_ofMagnitude hsmall]
  have hgreatest : (ofInt maxUInt64).units = 2 ^ 64 * unitsInOne := by
    rw [ofInt_maxUInt64, units, magnitude_ofMagnitude hinfinite]
    rfl
  rw [quotient, ofUnits, hword, hgreatest, nearest_mul_right _ _ unitsInOne_pos,
    nearest_unitsOf_roundedMagnitude, Nat.min_eq_left ((Nat.sub_le _ _).trans hsmall),
    ofInt_natCast h, ofInt_maxUInt64, isNegative_ofMagnitude hsmall,
    isNegative_ofMagnitude hinfinite]
  rfl

theorem isBelow_quotient_iff {k : Nat} (h : k < 2 ^ 64) {x : Binary64} :
    ((ofInt k).quotient (ofInt maxUInt64)).isBelow x = true ↔
      x.isNaN = false ∧ (unitsOf (roundedMagnitude k - 64 * binade) : Int) < x.signedUnits := by
  have hsmall : roundedMagnitude k - 64 * binade ≤ infiniteMagnitude :=
    (Nat.sub_le _ _).trans (roundedMagnitude_le_infinite h)
  rw [quotient_maxUInt64 h, isBelow_iff, isNaN_ofMagnitude hsmall,
    signedUnits_ofMagnitude_false hsmall]
  exact and_iff_right rfl

theorem not_isBelow_zero {k : Nat} (h : k < 2 ^ 64) :
    ((ofInt k).quotient (ofInt maxUInt64)).isBelow (ofInt 0) = false := by
  rw [Bool.eq_false_iff, Ne, isBelow_quotient_iff h, signedUnits_ofInt_zero]
  rintro ⟨-, hnegative⟩
  exact absurd hnegative (Int.not_lt.mpr (Int.natCast_nonneg _))

theorem isBelow_one_iff {k : Nat} (h : k < 2 ^ 64) :
    ((ofInt k).quotient (ofInt maxUInt64)).isBelow (ofInt 1) = true ↔ k < 2 ^ 64 - 1024 := by
  rw [isBelow_quotient_iff h, signedUnits_ofInt_one, isNaN_ofInt, Int.ofNat_lt,
    unitsOf_strictMono.lt_iff_lt, ← roundedMagnitude_lt_iff h]
  constructor
  · rintro ⟨-, hlt⟩
    omega
  · intro hlt
    exact ⟨rfl, by simp only [binade] at hlt ⊢; omega⟩

end CatalogQuery.Binary64
