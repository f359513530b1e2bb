/-
Integers of sixty-four bits, with a sign and without.
-/

namespace CatalogQuery

/-- The least integer of sixty-four bits with a sign. -/
def minInt64 : Int := -0x8000000000000000

/-- The greatest integer of sixty-four bits with a sign. -/
def maxInt64 : Int := 0x7FFFFFFFFFFFFFFF

/-- The greatest integer of sixty-four bits without a sign. -/
def maxUInt64 : Int := 0xFFFFFFFFFFFFFFFF

/-- Whether an integer fits sixty-four bits with a sign. -/
def fitsInt64 (n : Int) : Bool := minInt64 ≤ n && n ≤ maxInt64

theorem fitsInt64_iff {n : Int} : fitsInt64 n = true ↔ minInt64 ≤ n ∧ n ≤ maxInt64 := by
  rw [fitsInt64, Bool.and_eq_true, decide_eq_true_eq, decide_eq_true_eq]

theorem fitsInt64_toInt (n : Int64) : fitsInt64 n.toInt = true := by
  have := n.le_toInt
  have := n.toInt_lt
  rw [fitsInt64_iff, minInt64, maxInt64]
  omega

/-- Whether an integer fits sixty-four bits without a sign. -/
def fitsUInt64 (n : Int) : Bool := 0 ≤ n && n ≤ maxUInt64

theorem fitsUInt64_iff {n : Int} : fitsUInt64 n = true ↔ 0 ≤ n ∧ n ≤ maxUInt64 := by
  rw [fitsUInt64, Bool.and_eq_true, decide_eq_true_eq, decide_eq_true_eq]

theorem fitsUInt64_toNat (n : UInt64) : fitsUInt64 n.toNat = true := by
  have := n.toNat_lt
  rw [fitsUInt64_iff, maxUInt64]
  omega

/-- The integer of sixty-four bits with a sign nearest to a given one. -/
def clampToInt64 (n : Int) : Int64 := Int64.ofInt (max minInt64 (min n maxInt64))

end CatalogQuery
