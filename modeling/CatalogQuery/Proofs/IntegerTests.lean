/-
Tests of integers.  Integers of sixty-four signed bits are compared as they are.  A greater one is
rounded together with the constant, which makes a difference only if both end up at the power of
two between them; everywhere else a test of an integer with integer operands says what it says
of the numbers themselves.
-/
import CatalogQuery.Predicate.Atom
import CatalogQuery.Proofs.Comparing

namespace CatalogQuery

namespace Constant

variable {m : Int}

/-- An integer and a constant below it that are rounded to the same floating point number. -/
def IsBlurred (m : Int) (n : Int64) : Prop :=
  maxInt64 < m ∧ m ≤ maxInt64 + 1025 ∧ maxInt64 - 511 ≤ n.toInt

instance (m : Int) (n : Int64) : Decidable (IsBlurred m n) :=
  inferInstanceAs (Decidable (_ ∧ _))

/-- A rounded integer beyond those with a sign is no less than a rounded constant. -/
theorem compare?_ofInt_of_lt (hlow : maxInt64 < m) (hhigh : m ≤ maxUInt64) (n : Int64) :
    (Binary64.ofInt m).compare? (.ofInt n.toInt) = some (if IsBlurred m n then .eq else .gt) := by
  have hbound := n.toInt_lt
  simp only [maxInt64] at hlow
  simp only [maxUInt64] at hhigh
  obtain ⟨k, rfl⟩ : ∃ k : Nat, m = k := ⟨m.toNat, by omega⟩
  obtain ⟨hle, heq⟩ := Binary64.le_roundedMagnitude_above (k := k) (by omega) (by omega)
  by_cases hnegative : n.toInt < 0
  · have hblurred : ¬IsBlurred k n := by
      simp only [IsBlurred, maxInt64]
      omega
    have hpositive : 0 < Binary64.unitsOf (Binary64.roundedMagnitude k) :=
      Nat.zero_lt_of_lt (Binary64.unitsOf_strictMono
        (Nat.lt_of_lt_of_le (by decide : 0 < 1086 * Binary64.binade) hle))
    rw [if_neg hblurred, Binary64.compare?_ofInt,
      Binary64.signedUnits_ofInt_natCast (by omega), Int.compare_eq_gt.mpr]
    exact Int.lt_of_le_of_lt (Binary64.signedUnits_ofInt_of_neg hnegative)
      (Int.natCast_pos.mpr hpositive)
  · obtain ⟨c, hc⟩ : ∃ c : Nat, n.toInt = c := ⟨n.toInt.toNat, by omega⟩
    have hbelow := Binary64.roundedMagnitude_eq_iff_below (k := c) (by omega)
    have hmost : Binary64.roundedMagnitude c ≤ 1086 * Binary64.binade :=
      Binary64.roundedMagnitude_le (e := 63) (by omega)
    -- Both are at the power of two, or one of them is on its own side of it.
    have hblurred : IsBlurred k n ↔
        Binary64.roundedMagnitude k = Binary64.roundedMagnitude c := by
      have hboth : Binary64.roundedMagnitude k = Binary64.roundedMagnitude c ↔
          Binary64.roundedMagnitude k = 1086 * Binary64.binade ∧
            Binary64.roundedMagnitude c = 1086 * Binary64.binade := by omega
      rw [hboth, heq, hbelow]
      simp only [IsBlurred, maxInt64]
      omega
    rw [hc, Binary64.compare?_ofInt_natCast (by omega) (by omega)]
    split
    · rename_i h
      rw [Nat.compare_eq_eq.mpr (hblurred.mp h)]
    · rename_i h
      have hne := mt hblurred.mpr h
      rw [Nat.compare_eq_gt.mpr (by omega)]

/-- An integer compares with an integer constant as the numbers do, unless they are blurred. -/
theorem order?_int (hm : fitsInt64 m = true ∨ fitsUInt64 m = true) (n : Int64) :
    (Constant.int n).order? (.int m) =
      some (if IsBlurred m n then .eq else compare m n.toInt) := by
  by_cases hsigned : fitsInt64 m = true
  · have hblurred : ¬IsBlurred m n := fun h =>
      absurd (fitsInt64_iff.mp hsigned).2 (Int.not_le.mpr h.1)
    simp only [Json.int, order?, hsigned, if_true, if_neg hblurred]
  · have hunsigned := fitsUInt64_iff.mp (hm.resolve_left hsigned)
    have hlow : maxInt64 < m := by
      rw [fitsInt64_iff, minInt64] at hsigned
      omega
    have hgreater : compare m n.toInt = .gt := by
      have hbound := n.toInt_lt
      rw [Int.compare_eq_gt]
      simp only [maxInt64] at hlow
      omega
    simp only [Json.int, order?, hsigned, Bool.false_eq_true, if_false, hgreater]
    exact compare?_ofInt_of_lt hlow hunsigned.2 n

theorem order?_of_not_isBlurred (hm : fitsInt64 m = true ∨ fitsUInt64 m = true) {n : Int64}
    (h : ¬IsBlurred m n) : (Constant.int n).order? (.int m) = some (compare m n.toInt) := by
  rw [order?_int hm, if_neg h]

theorem isEqualTo_of_not_isBlurred (hm : fitsInt64 m = true ∨ fitsUInt64 m = true) {n : Int64}
    (h : ¬IsBlurred m n) : (Constant.int n).isEqualTo (.int m) = true ↔ m = n.toInt := by
  rw [isEqualTo, order?_of_not_isBlurred hm h, beq_iff_eq, Option.some_inj, Int.compare_eq_eq]

end Constant

theorem Constant.isInt_iff {v : Constant} : v.isInt = true ↔ ∃ n, v = .int n := by
  cases v <;> simp [isInt]

/-- The comparison holds of two integers. -/
def Comparison.Relates (c : Comparison) (m n : Int) : Prop :=
  match c with
  | .eq => m = n
  | .ne => m ≠ n
  | .lt => m < n
  | .le => m ≤ n
  | .gt => n < m
  | .ge => n ≤ m

theorem Comparison.accepts_compare (c : Comparison) (m n : Int) :
    c.accepts (compare m n) = true ↔ c.Relates m n := by
  rcases Int.lt_trichotomy m n with h | rfl | h
  · rw [Int.compare_eq_lt.mpr h]
    cases c <;> simp [accepts, Relates] <;> omega
  · rw [Int.compare_eq_eq.mpr rfl]
    cases c <;> simp [accepts, Relates]
  · rw [Int.compare_eq_gt.mpr h]
    cases c <;> simp [accepts, Relates] <;> omega

namespace ScalarTest

def operands : ScalarTest → List Constant
  | .compare _ v => [v]
  | .matching _ _ => []
  | .inRange low high | .notInRange low high => [low, high]
  | .inSet vs | .notInSet vs => vs

/-- What a test with integer operands says of an integer. -/
def IsTrueOf (m : Int) : ScalarTest → Prop
  | .compare c (.int n) => c.Relates m n.toInt
  | .inRange (.int low) (.int high) => low.toInt ≤ m ∧ m ≤ high.toInt
  | .notInRange (.int low) (.int high) => m < low.toInt ∨ high.toInt < m
  | .inSet vs => ∃ n, .int n ∈ vs ∧ m = n.toInt
  | .notInSet vs => ∀ n, .int n ∈ vs → m ≠ n.toInt
  | _ => False

/-- The integer is not blurred with an operand of the test. -/
def IsSharp (m : Int) (t : ScalarTest) : Prop :=
  ∀ n, .int n ∈ t.operands → ¬Constant.IsBlurred m n

section Passes

variable {m : Int} (hm : fitsInt64 m = true ∨ fitsUInt64 m = true)

include hm

theorem passes_compare_int_iff (c : Comparison) {n : Int64} (h : ¬Constant.IsBlurred m n) :
    (compare c (.int n)).passes (.int m) = true ↔ c.Relates m n.toInt := by
  simp only [passes, Constant.order?_of_not_isBlurred hm h]
  exact Comparison.accepts_compare c m n.toInt

theorem any_isEqualTo_int_iff {vs : List Constant} (hint : vs.all Constant.isInt = true)
    (hsharp : ∀ n, .int n ∈ vs → ¬Constant.IsBlurred m n) :
    (vs.any fun v => v.isEqualTo (.int m)) = true ↔ ∃ n, .int n ∈ vs ∧ m = n.toInt := by
  rw [List.any_eq_true]
  constructor
  · rintro ⟨v, hv, hequal⟩
    obtain ⟨n, rfl⟩ := Constant.isInt_iff.mp (List.all_eq_true.mp hint v hv)
    exact ⟨n, hv, (Constant.isEqualTo_of_not_isBlurred hm (hsharp n hv)).mp hequal⟩
  · rintro ⟨n, hv, hequal⟩
    exact ⟨_, hv, (Constant.isEqualTo_of_not_isBlurred hm (hsharp n hv)).mpr hequal⟩

/-- A test with integer operands is passed by the integers of which it is true. -/
theorem passes_int_iff {t : ScalarTest} (hint : t.isIntegral = true) (hsharp : t.IsSharp m) :
    t.passes (.int m) = true ↔ t.IsTrueOf m := by
  cases t with
  | compare c v =>
      obtain ⟨n, rfl⟩ := Constant.isInt_iff.mp hint
      exact passes_compare_int_iff hm c (hsharp n List.mem_cons_self)
  | matching p negated => cases hint
  | inRange low high =>
      obtain ⟨hlow, hhigh⟩ := Bool.and_eq_true_iff.mp hint
      obtain ⟨a, rfl⟩ := Constant.isInt_iff.mp hlow
      obtain ⟨b, rfl⟩ := Constant.isInt_iff.mp hhigh
      rw [passes_inRange, Bool.and_eq_true,
        passes_compare_int_iff hm .ge (hsharp a List.mem_cons_self),
        passes_compare_int_iff hm .le (hsharp b (List.mem_cons_of_mem _ List.mem_cons_self))]
      rfl
  | notInRange low high =>
      obtain ⟨hlow, hhigh⟩ := Bool.and_eq_true_iff.mp hint
      obtain ⟨a, rfl⟩ := Constant.isInt_iff.mp hlow
      obtain ⟨b, rfl⟩ := Constant.isInt_iff.mp hhigh
      rw [passes_notInRange ⟨rfl, rfl, rfl⟩, Bool.or_eq_true,
        passes_compare_int_iff hm .lt (hsharp a List.mem_cons_self),
        passes_compare_int_iff hm .gt (hsharp b (List.mem_cons_of_mem _ List.mem_cons_self))]
      rfl
  | inSet vs => exact any_isEqualTo_int_iff hm hint hsharp
  | notInSet vs =>
      have hany := any_isEqualTo_int_iff hm hint hsharp
      rw [passes, Bool.not_eq_true', ← Bool.not_eq_true, hany, IsTrueOf]
      simp

end Passes

end ScalarTest

/-- Integers compare with integer constants as the numbers do exactly if they are not blurred, and
then the tests of integer fields with integer operands say what they say of the numbers. -/
theorem order?_int_eq_compare_iff {m : Int} (hm : fitsInt64 m = true ∨ fitsUInt64 m = true) :
    (∀ n : Int64, (Constant.int n).order? (.int m) = some (compare m n.toInt) ↔
      ¬Constant.IsBlurred m n) ∧
    ∀ t : ScalarTest, t.isIntegral = true → t.IsSharp m →
      (t.passes (.int m) = true ↔ t.IsTrueOf m) ∧
      ∀ (field : String) (metadata : Metadata), Assoc.get? field metadata = some (.int m) →
        ((⟨field, .scalar .value t⟩ : Atom).holds metadata = true ↔ t.IsTrueOf m) := by
  refine ⟨fun n => ?_, fun t hint hsharp => ?_⟩
  · rw [Constant.order?_int hm]
    split
    · rename_i hblurred
      have hbound := n.toInt_lt
      have hne : compare m n.toInt ≠ .eq := by
        rw [ne_eq, Int.compare_eq_eq]
        have hlow := hblurred.1
        simp only [maxInt64] at hlow
        omega
      simp [hblurred, hne.symm]
    · rename_i hsharp
      simp [hsharp]
  · have hpasses := ScalarTest.passes_int_iff hm hint hsharp
    refine ⟨hpasses, fun field metadata hfield => ?_⟩
    rw [Atom.holds, hfield]
    exact hpasses

/-- The first integer that is rounded away from the greatest constant. -/
theorem order?_int_eq_compare_iff_beyond :
    (Constant.int 0x7FFFFFFFFFFFFFFF).order? (.int 0x8000000000000401) = some .gt ∧
      ScalarTest.passes (.inRange (.int 0) (.int 0x7FFFFFFFFFFFFFFF)) (.int 0x8000000000000401) =
        false ∧
      Atom.holds ⟨"x", .scalar .value (.notInSet [.int 0x7FFFFFFFFFFFFFFF])⟩
        [("x", .int 0x8000000000000401)] = true := by
  have hfits : fitsInt64 0x8000000000000401 = true ∨ fitsUInt64 0x8000000000000401 = true :=
    Or.inr (by decide)
  obtain ⟨horder, htests⟩ := order?_int_eq_compare_iff hfits
  have hsharp : ∀ n : Int64, ¬Constant.IsBlurred 0x8000000000000401 n :=
    fun _ h => absurd h.2.1 (by decide)
  refine ⟨(horder _).mpr (hsharp _), ?_, ?_⟩
  · rw [← Bool.not_eq_true, (htests _ rfl fun n _ => hsharp n).1]
    exact fun h => absurd h.2 (by decide)
  · refine ((htests _ rfl fun n _ => hsharp n).2 "x" _ rfl).mpr fun n hn => ?_
    cases List.mem_singleton.mp hn
    decide

/-- The least integer beyond those with a sign passes for the greatest of them. -/
theorem order?_int_ne_compare :
    (Constant.int 0x7FFFFFFFFFFFFFFF).order? (.int 0x8000000000000000) ≠
        some (compare 0x8000000000000000 (0x7FFFFFFFFFFFFFFF : Int64).toInt) ∧
      Atom.holds ⟨"x", .scalar .value (.compare .eq (.int 0x7FFFFFFFFFFFFFFF))⟩
        [("x", .int 0x8000000000000000)] = true := by
  decide +kernel

end CatalogQuery
