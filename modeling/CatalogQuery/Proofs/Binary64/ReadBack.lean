/-
Decimals that are read back.  What a decimal is read as depends on its value alone, not
on how the coefficient and the exponent share it, and the shortest decimal of a finite
number is read as that number.
-/
import CatalogQuery.Binary64.Notation
import Mathlib.Tactic.Ring

namespace CatalogQuery

theorem roundToEven_mul_right (n d : Nat) {k : Nat} (hk : 0 < k) :
    roundToEven (n * k) (d * k) = roundToEven n d := by
  have hquotient : n * k / (d * k) = n / d := Nat.mul_div_mul_right n d hk
  have hrest : 2 * (n * k % (d * k)) = 2 * (n % d) * k := by
    rw [Nat.mul_mod_mul_right, Nat.mul_assoc]
  simp only [roundToEven, hquotient, hrest, Nat.mul_lt_mul_right hk]

/-- A quotient without a rest is not rounded. -/
theorem roundToEven_mul_self (n : Nat) {d : Nat} (hd : 0 < d) : roundToEven (n * d) d = n := by
  simp [roundToEven, Nat.mul_div_cancel n hd, hd]

theorem roundToEven_of_lt {n d : Nat} (h : 2 * n < d) : roundToEven n d = 0 := by
  have hlt : n < d := by omega
  simp [roundToEven, Nat.div_eq_of_lt hlt, Nat.mod_eq_of_lt hlt, h]

namespace Binary64

/-- Rounding looks at the value of a quotient only. -/
theorem nearest_mul_right (n d : Nat) {k : Nat} (hk : 0 < k) :
    nearest (n * k) (d * k) = nearest n d := by
  have hshift (s : Nat) : (d * k) <<< s = (d <<< s) * k := by
    simp only [Nat.shiftLeft_eq]
    ring
  simp only [nearest, Nat.mul_div_mul_right n d hk, hshift, roundToEven_mul_right _ _ hk]

/-- Of a magnitude above the first binade, its units have as many binary digits as its
exponent says. -/
theorem log2_unitsOf {m : Nat} (h : binade ≤ m) :
    (unitsOf m).log2 = 52 + (m / binade - 1) := by
  have hbinade : binade = 2 ^ 52 := by decide
  have hlow : 2 ^ 52 ≤ m - (m / binade - 1) * binade := by
    have := Nat.div_mul_le_self m binade
    have := Nat.div_pos h (by decide)
    rw [← hbinade, Nat.sub_mul]
    omega
  have hhigh : m - (m / binade - 1) * binade < 2 ^ 53 := by
    have := Nat.lt_div_mul_add (a := m) (b := binade) (by decide)
    have := Nat.div_pos h (by decide)
    have : (2 : Nat) ^ 53 = binade + binade := by decide
    rw [this, Nat.sub_mul]
    omega
  have hpos : unitsOf m ≠ 0 := by
    simp only [unitsOf, Nat.shiftLeft_eq]
    exact Nat.mul_ne_zero (by omega) (by simp)
  refine (Nat.log2_eq_iff hpos).2 ⟨?_, ?_⟩
  · simp only [unitsOf, Nat.shiftLeft_eq, Nat.pow_add]
    exact Nat.mul_le_mul_right _ hlow
  · simp only [unitsOf, Nat.shiftLeft_eq]
    rw [show 52 + (m / binade - 1) + 1 = 53 + (m / binade - 1) by omega, Nat.pow_add]
    exact Nat.mul_lt_mul_of_pos_right hhigh (by simp)

/-- The units of a magnitude are rounded to that magnitude. -/
theorem nearest_unitsOf (m : Nat) : nearest (unitsOf m) 1 = m := by
  by_cases h : binade ≤ m
  · have hone : 0 < m / binade := Nat.div_pos h (by decide)
    have hstep : (unitsOf m).log2 - 52 = m / binade - 1 := by rw [log2_unitsOf h]; omega
    have hexact : roundToEven (unitsOf m) (1 <<< (m / binade - 1)) =
        m - (m / binade - 1) * binade := by
      simp only [unitsOf, Nat.shiftLeft_eq, Nat.one_mul]
      exact roundToEven_mul_self _ (by simp)
    have hle : (m / binade - 1) * binade ≤ m := by
      have := Nat.div_mul_le_self m binade
      rw [Nat.sub_mul]
      omega
    simp only [nearest, Nat.div_one, hstep, hexact]
    omega
  · have hzero : m / binade = 0 := Nat.div_eq_of_lt (by omega)
    have hunits : unitsOf m = m := by simp [unitsOf, hzero]
    have hlog : m.log2 - 52 = 0 := by
      by_cases hm : m = 0
      · simp [hm]
      · have := (Nat.log2_lt hm (k := 52)).2 (by simpa [binade] using h)
        omega
    simp only [nearest, hunits, Nat.div_one, hlog, Nat.shiftLeft_zero, Nat.zero_mul, Nat.add_zero]
    simpa using roundToEven_mul_self m (d := 1) (by decide)

theorem nearest_of_lt {n d : Nat} (h : 2 * n < d) : nearest n d = 0 := by
  have hzero : n / d = 0 := Nat.div_eq_of_lt (by omega)
  simp [nearest, hzero, roundToEven_of_lt h]

theorem unitsInOne_eq : unitsInOne = 2 ^ 1074 := Nat.one_shiftLeft 1074

theorem tenTo_eq (e : Nat) : tenTo e = 10 ^ e := rfl

theorem two_pow_le_ten_pow (e : Nat) : 2 ^ (3 * e) ≤ 10 ^ e := by
  rw [Nat.pow_mul]
  exact Nat.pow_le_pow_left (by decide) e

/-- A factor of ten may stand in the coefficient or in the exponent. -/
theorem nearestDecimal_mul_ten (c : Nat) (e : Int) :
    nearestDecimal (c * 10) e = nearestDecimal c (e + 1) := by
  cases e with
  | ofNat e =>
    have hvalue : c * 10 * 10 ^ e * unitsInOne = c * 10 ^ (e + 1) * unitsInOne := by
      rw [Nat.pow_succ]
      ring
    exact congrArg (nearest · 1) hvalue
  | negSucc e =>
    have hcancel (d : Nat) : nearest (c * 10 * unitsInOne) (d * 10) =
        nearest (c * unitsInOne) d := by
      rw [Nat.mul_right_comm]
      exact nearest_mul_right _ _ (by decide)
    cases e with
    | zero =>
      refine (hcancel 1).trans ?_
      simp [Int.negSucc_eq, nearestDecimal, tenTo_eq]
    | succ e =>
      have hnext : Int.negSucc (e + 1) + 1 = Int.negSucc e := by omega
      rw [hnext]
      exact hcancel (10 ^ (e + 1))

theorem nearestDecimal_mul_ten_pow (c k : Nat) (e : Int) :
    nearestDecimal (c * 10 ^ k) e = nearestDecimal c (e + k) := by
  induction k generalizing e with
  | zero => simp
  | succ k ih =>
    rw [Nat.pow_succ, ← Nat.mul_assoc, nearestDecimal_mul_ten, ih]
    congr 1
    omega

@[simp] theorem nearestDecimal_zero (e : Int) : nearestDecimal 0 e = 0 := by
  cases e with
  | ofNat e => exact nearest_of_lt (by simp)
  | negSucc e => exact nearest_of_lt (by simp [tenTo_eq])

/-- A decimal far above one is not finite. -/
theorem infiniteMagnitude_le_nearestDecimal {c : Nat} {e : Int} (hc : c ≠ 0)
    (he : (farExponent : Int) < e) : infiniteMagnitude ≤ nearestDecimal c e := by
  obtain ⟨k, rfl⟩ : ∃ k : Nat, e = k := ⟨e.toNat, by omega⟩
  have hk : 401 ≤ k := by
    simp only [farExponent] at he
    omega
  let n := c * 10 ^ k * unitsInOne
  have hpow : 2 ^ (1203 + 1074) ≤ n := by
    have hten : 2 ^ 1203 ≤ 10 ^ k :=
      (Nat.pow_le_pow_right (by decide) (by omega)).trans (two_pow_le_ten_pow k)
    have hcoefficient : 10 ^ k ≤ c * 10 ^ k := Nat.le_mul_of_pos_left _ (by omega)
    rw [Nat.pow_add, ← unitsInOne_eq]
    exact Nat.mul_le_mul_right _ (hten.trans hcoefficient)
  have hn : n ≠ 0 := by
    have := Nat.two_pow_pos (1203 + 1074)
    omega
  have hlog : 1203 + 1074 ≤ n.log2 := (Nat.le_log2 hn).2 hpow
  have hsteps : (1203 + 1074 - 52) * binade ≤ nearest n 1 := by
    simp only [nearest, Nat.div_one]
    exact (Nat.mul_le_mul_right _ (by omega)).trans (Nat.le_add_left _ _)
  exact (by decide : infiniteMagnitude ≤ (1203 + 1074 - 52) * binade).trans hsteps

/-- A decimal far below the smallest number is read as zero. -/
theorem nearestDecimal_of_lt {c : Nat} {e : Int}
    (he : e < -((farExponent + c.log2 : Nat) : Int)) : nearestDecimal c e = 0 := by
  obtain ⟨k, rfl⟩ : ∃ k, e = Int.negSucc k := ⟨(-e - 1).toNat, by omega⟩
  have hk : 400 + c.log2 ≤ k := by
    simp only [farExponent] at he
    omega
  refine nearest_of_lt ?_
  have hcoefficient : c < 2 ^ (c.log2 + 1) := Nat.lt_log2_self
  calc 2 * (c * unitsInOne)
    _ < 2 * (2 ^ (c.log2 + 1) * unitsInOne) := by
      have hpos : 0 < unitsInOne := by
        rw [unitsInOne_eq]
        exact Nat.two_pow_pos _
      exact Nat.mul_lt_mul_of_pos_left (Nat.mul_lt_mul_of_pos_right hcoefficient hpos) (by decide)
    _ = 2 ^ (c.log2 + 1 + 1074 + 1) := by
      rw [unitsInOne_eq, ← Nat.pow_add, Nat.mul_comm, ← Nat.pow_succ]
    _ ≤ 2 ^ (3 * (k + 1)) := Nat.pow_le_pow_right (by decide) (by omega)
    _ ≤ tenTo (k + 1) := two_pow_le_ten_pow (k + 1)

/-- A decimal whose value is nearest to a finite magnitude is read as it: the bounds on
the exponent settle nothing in another way. -/
theorem ofDecimal?_of_nearestDecimal {negative : Bool} {c m : Nat} {e : Int}
    (h : nearestDecimal c e = m) (hfinite : m < infiniteMagnitude) :
    ofDecimal? ⟨negative, c, e⟩ = some (ofMagnitude negative m) := by
  subst h
  by_cases hc : c = 0
  · simp [ofDecimal?, hc]
  have hnear : ¬(farExponent : Int) < e := fun hfar =>
    absurd (infiniteMagnitude_le_nearestDecimal hc hfar) (by omega)
  by_cases hsmall : e < -((farExponent + c.log2 : Nat) : Int)
  · simp only [ofDecimal?, hc, hnear, hsmall, if_true, if_false, nearestDecimal_of_lt hsmall]
  · simp only [ofDecimal?, hc, hnear, hsmall, hfinite, if_true, if_false]

theorem isNaN_of_isFinite {x : Binary64} (h : x.isFinite = true) : x.isNaN = false := by
  simp only [isFinite, decide_eq_true_eq] at h
  simp only [isNaN, decide_eq_false_iff_not]
  omega

theorem ofMagnitude_magnitude (x : Binary64) : ofMagnitude x.isNegative x.magnitude = x := by
  obtain ⟨bits⟩ := x
  have hlt := bits.toNat_lt
  have hsum : bits.toNat % signBit + (if signBit ≤ bits.toNat then signBit else 0) =
      bits.toNat := by
    unfold signBit
    by_cases h : 0x8000000000000000 ≤ bits.toNat
    · rw [if_pos h]
      omega
    · rw [if_neg h]
      omega
  simp only [ofMagnitude, isNegative, magnitude, decide_eq_true_eq, hsum, UInt64.ofNat_toNat]

theorem nearestDecimal_stripZeros (fuel c : Nat) (e : Int) :
    nearestDecimal (stripZeros fuel c e).1 (stripZeros fuel c e).2 = nearestDecimal c e := by
  induction fuel generalizing c e with
  | zero => rfl
  | succ fuel ih =>
    rw [stripZeros]
    split
    · rename_i hzero
      rw [ih, ← nearestDecimal_mul_ten, Nat.div_mul_cancel (Nat.dvd_of_mod_eq_zero hzero.2)]
    · rfl

theorem nearestDecimal_of_onGrid? {tie : Tie} {m c : Nat} {e : Int}
    (h : onGrid? tie m e = some c) : nearestDecimal c e = m := by
  simpa using List.find?_some h

theorem nearestDecimal_of_firstGrid? {tie : Tie} {m c : Nat} {e : Int}
    (h : firstGrid? tie m = some (c, e)) : nearestDecimal c e = m := by
  obtain ⟨n, -, hn⟩ := List.exists_of_findSome?_eq_some h
  obtain ⟨c', hc, heq⟩ := Option.map_eq_some_iff.1 hn
  simp only [Prod.mk.injEq] at heq
  obtain ⟨rfl, rfl⟩ := heq
  exact nearestDecimal_of_onGrid? hc

/-- The exact expansion of a number, which stands in where no grid holds a decimal. -/
theorem nearestDecimal_exact (m : Nat) {k : Nat} (hk : 0 < k) (hunit : unitsInOne = 2 ^ k) :
    nearestDecimal (unitsOf m * Nat.pow 5 k) (-(k : Int)) = m := by
  obtain ⟨e, rfl⟩ : ∃ e, k = e + 1 := ⟨k - 1, by omega⟩
  have hten : tenTo (e + 1) = 1 * (5 ^ (e + 1) * unitsInOne) := by
    rw [hunit, ← Nat.mul_pow, Nat.one_mul, tenTo_eq]
  calc nearest (unitsOf m * 5 ^ (e + 1) * unitsInOne) (tenTo (e + 1))
    _ = nearest (unitsOf m * (5 ^ (e + 1) * unitsInOne)) (1 * (5 ^ (e + 1) * unitsInOne)) := by
      rw [hten, Nat.mul_assoc]
    _ = nearest (unitsOf m) 1 := by
      refine nearest_mul_right _ _ (Nat.mul_pos (Nat.pow_pos (by decide)) ?_)
      rw [hunit]
      exact Nat.two_pow_pos _
    _ = m := nearest_unitsOf m

/-- The value of the shortest decimal is nearest to the number. -/
theorem nearestDecimal_shortest (tie : Tie) (x : Binary64) :
    nearestDecimal (shortest tie x).coefficient (shortest tie x).exponent = x.magnitude := by
  unfold shortest
  split
  · rename_i hzero
    simp [hzero]
  · split
    rename_i c e hfound
    split
    rename_i c' e' hstrip
    have hvalue : nearestDecimal c' e' = nearestDecimal c e := by
      rw [← nearestDecimal_stripZeros (digitCount c) c e, hstrip]
    refine hvalue.trans ?_
    cases h : firstGrid? tie x.magnitude with
    | none =>
      rw [h, Option.getD_none] at hfound
      obtain ⟨rfl, rfl⟩ := Prod.mk.inj hfound
      exact nearestDecimal_exact x.magnitude (k := 1074) (by decide) unitsInOne_eq
    | some found =>
      rw [h, Option.getD_some] at hfound
      exact nearestDecimal_of_firstGrid? (h.trans (congrArg some hfound))

/-- Every decimal whose value is nearest to a finite number is read as that number, with
the sign of a zero kept. -/
theorem ofDecimal?_of_isFinite {x : Binary64} {c : Nat} {e : Int} (hfinite : x.isFinite = true)
    (h : nearestDecimal c e = x.magnitude) : ofDecimal? ⟨x.isNegative, c, e⟩ = some x := by
  rw [ofDecimal?_of_nearestDecimal h (by simpa [isFinite] using hfinite), ofMagnitude_magnitude]

end Binary64

end CatalogQuery
