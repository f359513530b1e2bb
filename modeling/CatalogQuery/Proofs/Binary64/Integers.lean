/-
Integers as floating point numbers.  An integer of more than fifty-three binary digits is rounded
in steps of the power of two that leaves fifty-three of them, so rounded integers are in order
but need not differ.
-/
import CatalogQuery.Proofs.Binary64.ReadBack
import Mathlib.Order.Monotone.Basic
import Mathlib.Tactic.SplitIfs

namespace CatalogQuery

theorem div_le_roundToEven (n d : Nat) : n / d ≤ roundToEven n d := by
  simp only [roundToEven]
  split
  · exact Nat.le_refl _
  · split
    · exact Nat.le_succ _
    · split
      · exact Nat.le_refl _
      · exact Nat.le_succ _

theorem roundToEven_le (n d : Nat) : roundToEven n d ≤ n / d + 1 := by
  simp only [roundToEven]
  split
  · exact Nat.le_succ _
  · split
    · exact Nat.le_refl _
    · split
      · exact Nat.le_succ _
      · exact Nat.le_refl _

namespace Binary64

/-- The next magnitude stands for a greater number, also where the step between them doubles. -/
theorem unitsOf_lt_succ (m : Nat) : unitsOf m < unitsOf (m + 1) := by
  have hpos : 0 < binade := by decide
  have hle : (m / binade - 1) * binade ≤ m :=
    (Nat.mul_le_mul_right _ (Nat.sub_le _ _)).trans (Nat.div_mul_le_self m binade)
  simp only [unitsOf, Nat.shiftLeft_eq]
  by_cases hsame : (m + 1) / binade = m / binade
  · rw [hsame]
    exact Nat.mul_lt_mul_of_pos_right (by omega) (Nat.two_pow_pos _)
  · have hdvd : binade ∣ m + 1 := by
      by_contra hnot
      exact hsame (Nat.succ_div_of_not_dvd hnot)
    have hnext : (m + 1) / binade = m / binade + 1 := Nat.succ_div_of_dvd hdvd
    have hwhole : m + 1 = (m / binade + 1) * binade := by
      rw [← hnext, Nat.div_mul_cancel hdvd]
    rw [hnext, Nat.add_sub_cancel]
    cases hexponent : m / binade with
    | zero => simp
    | succ e =>
        rw [hexponent] at hwhole hle
        rw [Nat.add_sub_cancel] at hle ⊢
        -- The number below has one unit less than twice the digits, with half the step.
        have hbelow : m - e * binade < 2 * binade := by
          simp only [Nat.add_mul] at hwhole
          omega
        have habove : m + 1 - (e + 1) * binade = binade := by
          simp only [Nat.add_mul] at hwhole ⊢
          omega
        calc (m - e * binade) * 2 ^ e
          _ < 2 * binade * 2 ^ e := Nat.mul_lt_mul_of_pos_right hbelow (Nat.two_pow_pos e)
          _ = binade * 2 ^ (e + 1) := by ring
          _ = (m + 1 - (e + 1) * binade) * 2 ^ (e + 1) := by rw [habove]

/-- Numbers are in the order of their magnitudes. -/
theorem unitsOf_strictMono : StrictMono unitsOf := strictMono_nat_of_lt_succ unitsOf_lt_succ

/-- The magnitude that an integer without a sign is rounded to. -/
def roundedMagnitude (k : Nat) : Nat := nearest (k * unitsInOne) 1

theorem two_binades : 2 * binade = 2 ^ 53 := by decide

theorem unitsInOne_pos : 0 < unitsInOne := by
  rw [unitsInOne_eq]
  exact Nat.two_pow_pos 1074

theorem log2_units {k : Nat} (hk : k ≠ 0) : (k * unitsInOne).log2 = k.log2 + 1074 := by
  rw [Nat.log2_eq_iff (Nat.mul_ne_zero hk unitsInOne_pos.ne'), unitsInOne_eq]
  constructor
  · rw [Nat.pow_add]
    exact Nat.mul_le_mul_right _ (Nat.log2_self_le hk)
  · rw [Nat.add_right_comm, Nat.pow_add]
    exact Nat.mul_lt_mul_of_pos_right Nat.lt_log2_self (Nat.two_pow_pos _)

/-- An integer of more than fifty-three digits is rounded to fifty-three. -/
theorem roundedMagnitude_of_log2 {k s : Nat} (h : k.log2 = s + 52) :
    roundedMagnitude k = roundToEven k (2 ^ s) + (s + 1074) * binade := by
  have hk : k ≠ 0 := by
    rintro rfl
    simp at h
  have hstep : (k * unitsInOne).log2 - 52 = s + 1074 := by
    rw [log2_units hk]
    omega
  have hdivisor : 1 <<< (s + 1074) = 2 ^ s * unitsInOne := by
    rw [Nat.one_shiftLeft, Nat.pow_add, unitsInOne_eq]
  rw [roundedMagnitude, nearest, Nat.div_one, hstep, hdivisor,
    roundToEven_mul_right _ _ unitsInOne_pos]

/-- Below a power of two integers are rounded to numbers that are no greater. -/
theorem roundedMagnitude_le {k e : Nat} (h : k < 2 ^ e) :
    roundedMagnitude k ≤ (e + 1023) * binade := by
  by_cases hk : k = 0
  · subst hk
    rw [roundedMagnitude, Nat.zero_mul, nearest_of_lt (by decide)]
    exact Nat.zero_le _
  · have hlog : k.log2 < e := (Nat.log2_lt hk).mpr h
    have hstep : (k * unitsInOne).log2 - 52 = k.log2 + 1022 := by
      rw [log2_units hk]
      omega
    have hquotient : k * unitsInOne / (1 <<< (k.log2 + 1022)) < 2 * binade := by
      have hexponents : k.log2 + 1 + 1074 = 53 + (k.log2 + 1022) := by omega
      rw [Nat.one_shiftLeft, Nat.div_lt_iff_lt_mul (Nat.two_pow_pos _), two_binades]
      calc k * unitsInOne
        _ < 2 ^ (k.log2 + 1) * unitsInOne :=
          Nat.mul_lt_mul_of_pos_right Nat.lt_log2_self unitsInOne_pos
        _ = 2 ^ 53 * 2 ^ (k.log2 + 1022) := by
          rw [unitsInOne_eq, ← Nat.pow_add, ← Nat.pow_add, hexponents]
    have hrounded := roundToEven_le (k * unitsInOne) (1 <<< (k.log2 + 1022))
    rw [roundedMagnitude, nearest, Nat.div_one, hstep]
    calc roundToEven (k * unitsInOne) (1 <<< (k.log2 + 1022)) + (k.log2 + 1022) * binade
      _ ≤ 2 * binade + (k.log2 + 1022) * binade := by omega
      _ = (k.log2 + 1024) * binade := by ring
      _ ≤ (e + 1023) * binade := Nat.mul_le_mul_right _ (by omega)

/-- Up to half a step below, an integer is rounded to the power itself. -/
theorem roundedMagnitude_eq_iff_below {k : Nat} (h : k < 2 ^ 63) :
    roundedMagnitude k = 1086 * binade ↔ 2 ^ 63 - 512 ≤ k := by
  by_cases hlow : k < 2 ^ 62
  · have hle : roundedMagnitude k ≤ (62 + 1023) * binade := roundedMagnitude_le hlow
    constructor
    · intro heq
      rw [heq] at hle
      exact absurd hle (by decide)
    · omega
  · have hlog : k.log2 = 10 + 52 := (Nat.log2_eq_iff (by omega)).mpr ⟨by omega, by omega⟩
    have hdigits : roundToEven k (2 ^ 10) = 2 ^ 53 ↔ 2 ^ 63 - 512 ≤ k := by
      simp only [roundToEven]
      split_ifs <;> omega
    rw [roundedMagnitude_of_log2 hlog, ← hdigits]
    simp only [binade]
    omega

/-- From the power on integers are rounded to it or to something above. -/
theorem le_roundedMagnitude_above {k : Nat} (hlow : 2 ^ 63 ≤ k) (hhigh : k < 2 ^ 64) :
    1086 * binade ≤ roundedMagnitude k ∧
      (roundedMagnitude k = 1086 * binade ↔ k ≤ 2 ^ 63 + 1024) := by
  have hlog : k.log2 = 11 + 52 := (Nat.log2_eq_iff (by omega)).mpr ⟨by omega, by omega⟩
  have hquotient := div_le_roundToEven k (2 ^ 11)
  have hdigits : roundToEven k (2 ^ 11) = 2 ^ 52 ↔ k ≤ 2 ^ 63 + 1024 := by
    simp only [roundToEven]
    split_ifs <;> omega
  rw [roundedMagnitude_of_log2 hlog, ← hdigits]
  simp only [binade]
  omega

theorem magnitude_ofMagnitude {negative : Bool} {m : Nat} (h : m ≤ infiniteMagnitude) :
    (ofMagnitude negative m).magnitude = m := by
  have hsmall : m < signBit := Nat.lt_of_le_of_lt h (by decide)
  simp only [magnitude, ofMagnitude, UInt64.toNat_ofNat']
  simp only [signBit] at hsmall ⊢
  cases negative
  · simp only [Bool.false_eq_true, if_false]
    omega
  · simp only [if_true]
    omega

theorem isNegative_ofMagnitude {negative : Bool} {m : Nat} (h : m ≤ infiniteMagnitude) :
    (ofMagnitude negative m).isNegative = negative := by
  have hsmall : m < signBit := Nat.lt_of_le_of_lt h (by decide)
  simp only [isNegative, ofMagnitude, UInt64.toNat_ofNat']
  simp only [signBit] at hsmall ⊢
  cases negative
  · simp only [Bool.false_eq_true, if_false, decide_eq_false_iff_not]
    omega
  · simp only [if_true, decide_eq_true_eq]
    omega

theorem isNaN_ofMagnitude {negative : Bool} {m : Nat} (h : m ≤ infiniteMagnitude) :
    (ofMagnitude negative m).isNaN = false := by
  simp only [isNaN, magnitude_ofMagnitude h, decide_eq_false_iff_not]
  exact Nat.not_lt_of_le h

theorem isNaN_ofInt (n : Int) : (ofInt n).isNaN = false :=
  isNaN_ofMagnitude (Nat.min_le_right _ _)

theorem compare?_ofInt (m n : Int) :
    (ofInt m).compare? (ofInt n) = some (compare (ofInt m).signedUnits (ofInt n).signedUnits) := by
  rw [compare?, isNaN_ofInt, isNaN_ofInt]
  rfl

theorem roundedMagnitude_le_infinite {k : Nat} (h : k < 2 ^ 64) :
    roundedMagnitude k ≤ infiniteMagnitude :=
  (roundedMagnitude_le h).trans (by decide)

theorem ofInt_natCast {k : Nat} (h : k < 2 ^ 64) :
    ofInt k = ofMagnitude false (roundedMagnitude k) := by
  have hsign : ¬(k : Int) < 0 := Int.not_lt.mpr (Int.natCast_nonneg k)
  rw [ofInt, ofUnits, Int.natAbs_natCast, ← roundedMagnitude,
    Nat.min_eq_left (roundedMagnitude_le_infinite h), decide_eq_false hsign]

theorem signedUnits_ofMagnitude_false {m : Nat} (h : m ≤ infiniteMagnitude) :
    (ofMagnitude false m).signedUnits = unitsOf m := by
  rw [signedUnits, isNegative_ofMagnitude h, units, magnitude_ofMagnitude h]
  rfl

theorem signedUnits_ofInt_natCast {k : Nat} (h : k < 2 ^ 64) :
    (ofInt k).signedUnits = unitsOf (roundedMagnitude k) := by
  rw [ofInt_natCast h, signedUnits_ofMagnitude_false (roundedMagnitude_le_infinite h)]

theorem signedUnits_ofInt_of_neg {n : Int} (h : n < 0) : (ofInt n).signedUnits ≤ 0 := by
  rw [ofInt, ofUnits, decide_eq_true h, signedUnits, isNegative_ofMagnitude (Nat.min_le_right _ _)]
  simp

/-- Rounded integers without a sign are in the order of their magnitudes. -/
theorem compare?_ofInt_natCast {a b : Nat} (ha : a < 2 ^ 64) (hb : b < 2 ^ 64) :
    (ofInt a).compare? (ofInt b) = some (compare (roundedMagnitude a) (roundedMagnitude b)) := by
  rw [compare?_ofInt, signedUnits_ofInt_natCast ha, signedUnits_ofInt_natCast hb]
  rcases Nat.lt_trichotomy (roundedMagnitude a) (roundedMagnitude b) with h | h | h
  · rw [Nat.compare_eq_lt.mpr h, Int.compare_eq_lt.mpr (Int.ofNat_lt.mpr (unitsOf_strictMono h))]
  · rw [h, Nat.compare_eq_eq.mpr rfl, Int.compare_eq_eq.mpr rfl]
  · rw [Nat.compare_eq_gt.mpr h, Int.compare_eq_gt.mpr (Int.ofNat_lt.mpr (unitsOf_strictMono h))]

end Binary64

end CatalogQuery
