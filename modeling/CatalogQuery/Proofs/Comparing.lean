/-
Values that fit constants.  A test passes only values of the type of its constant, and
which numbers can be compared with a finite one does not depend on that one.
-/
import CatalogQuery.Proofs.Binary64.Integers
import CatalogQuery.Proofs.Validation

namespace CatalogQuery

namespace Binary64

theorem isSome_compare? (x y : Binary64) :
    (x.compare? y).isSome = (!x.isNaN && !y.isNaN) := by
  unfold compare?
  cases x.isNaN <;> cases y.isNaN <;> rfl

end Binary64

namespace Constant

/-- Whether a value has the type of a constant. -/
def fits : Constant → Json → Bool
  | .bool _, .bool _ | .int _, .number _ | .float _, .number _ | .text _, .string _ => true
  | _, _ => false

/-- Whether a number is a pattern that stands for no number. -/
def isUndefined : Json.Number → Bool
  | .int _ => false
  | .float x => x.isNaN

theorem order?_of_not_fits {c : Constant} {v : Json} (h : c.fits v = false) :
    c.order? v = none := by
  cases c <;> cases v <;> simp_all [fits, order?]

theorem fits_eq_of_areAlike {low high : Constant} (h : low.areAlike high = true) (v : Json) :
    low.fits v = high.fits v := by
  cases low <;> cases high <;> cases v <;> simp_all [fits, areAlike, isNumeric]

/-- Whether a number can be compared with a proper constant does not depend on the
constant. -/
theorem isSome_order?_number {c : Constant} {n : Json.Number} (hproper : c.isProper = true)
    (hfits : c.fits (.number n) = true) : (c.order? (.number n)).isSome = !isUndefined n := by
  cases c with
  | bool b => cases hfits
  | text s => cases hfits
  | int m =>
      cases n with
      | int k =>
          simp only [order?]
          split
          · rfl
          · simp [isUndefined, Binary64.isSome_compare?, Binary64.isNaN_ofInt]
      | float x => simp [order?, isUndefined, Binary64.isSome_compare?, Binary64.isNaN_ofInt]
  | float y =>
      have hy := Binary64.isNaN_of_isFinite hproper
      cases n with
      | int k => simp [order?, isUndefined, Binary64.isSome_compare?, Binary64.isNaN_ofInt, hy]
      | float x => simp [order?, isUndefined, Binary64.isSome_compare?, hy]

theorem isSome_order?_congr {low high : Constant} (hlow : low.isProper = true)
    (hhigh : high.isProper = true) (halike : low.areAlike high = true) (v : Json) :
    (low.order? v).isSome = (high.order? v).isSome := by
  have hfits := fits_eq_of_areAlike halike v
  cases hv : low.fits v with
  | false => rw [order?_of_not_fits hv, order?_of_not_fits (hfits ▸ hv)]
  | true =>
      cases v with
      | number n =>
          rw [isSome_order?_number hlow hv, isSome_order?_number hhigh (hfits ▸ hv)]
      | string s =>
          cases low <;> cases high <;> first | rfl | cases halike
      | bool b =>
          cases low <;> cases high <;> first | rfl | cases halike
      | null => cases low <;> cases hv
      | array items => cases low <;> cases hv
      | object members => cases low <;> cases hv

end Constant

namespace ScalarTest

variable {low high : Constant} {v : Json}

theorem passes_compare_eq (c : Constant) :
    (compare .eq c).passes = fun v => c.isEqualTo v := by
  funext v
  simp only [passes, Constant.isEqualTo]
  cases c.order? v with
  | none => rfl
  | some o => cases o <;> rfl

theorem not_passes_compare_of_not_fits {op : Comparison} {c : Constant} (h : c.fits v = false) :
    (compare op c).passes v = false := by
  simp only [passes, Constant.order?_of_not_fits h]

theorem passes_inRange (low high : Constant) (v : Json) :
    (inRange low high).passes v = ((compare .ge low).passes v && (compare .le high).passes v) := by
  simp only [passes, Comparison.accepts]
  cases low.order? v <;> cases high.order? v <;> simp

/-- A value that can be compared with one bound can be compared with the other. -/
theorem passes_notInRange (h : (notInRange low high).IsValid) (v : Json) :
    (notInRange low high).passes v =
      ((compare .lt low).passes v || (compare .gt high).passes v) := by
  have hsome := Constant.isSome_order?_congr h.1 h.2.1 h.2.2 v
  simp only [passes, Comparison.accepts]
  cases hlow : low.order? v <;> cases hhigh : high.order? v <;> simp_all

end ScalarTest

end CatalogQuery
