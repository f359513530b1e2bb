/-
Three truth values.  What is unknown may turn out either way, so `and` and `or` are
settled by one operand where that is enough; an unknown operand is unknown otherwise.
-/

namespace CatalogQuery

/-- A truth value. -/
inductive Truth
  | no
  | unknown
  | yes
deriving DecidableEq, Inhabited

namespace Truth

/-- The truth value of something that is settled. -/
def ofBool (b : Bool) : Truth := if b then .yes else .no

/-- The negation, which leaves the unknown as it is. -/
def not : Truth → Truth
  | .no => .yes
  | .unknown => .unknown
  | .yes => .no

/-- The conjunction: one false operand settles it. -/
def and : Truth → Truth → Truth
  | .no, _ => .no
  | .yes, t => t
  | .unknown, .no => .no
  | .unknown, _ => .unknown

/-- The disjunction: one true operand settles it. -/
def or : Truth → Truth → Truth
  | .yes, _ => .yes
  | .no, t => t
  | .unknown, .yes => .yes
  | .unknown, _ => .unknown

/-- Whether the value is the true one. -/
def isYes (t : Truth) : Bool := t == .yes

/-- Whether the value is the false one. -/
def isNo (t : Truth) : Bool := t == .no

@[simp]
theorem isYes_not (t : Truth) : t.not.isYes = t.isNo := by
  cases t <;> rfl

@[simp]
theorem isNo_not (t : Truth) : t.not.isNo = t.isYes := by
  cases t <;> rfl

@[simp]
theorem isYes_and (s t : Truth) : (s.and t).isYes = (s.isYes && t.isYes) := by
  cases s <;> cases t <;> rfl

@[simp]
theorem isNo_and (s t : Truth) : (s.and t).isNo = (s.isNo || t.isNo) := by
  cases s <;> cases t <;> rfl

@[simp]
theorem isYes_or (s t : Truth) : (s.or t).isYes = (s.isYes || t.isYes) := by
  cases s <;> cases t <;> rfl

@[simp]
theorem isNo_or (s t : Truth) : (s.or t).isNo = (s.isNo && t.isNo) := by
  cases s <;> cases t <;> rfl

theorem ofBool_not (a : Bool) : ofBool (!a) = (ofBool a).not := by
  cases a <;> rfl

theorem ofBool_and (a b : Bool) : ofBool (a && b) = (ofBool a).and (ofBool b) := by
  cases a <;> cases b <;> rfl

theorem ofBool_or (a b : Bool) : ofBool (a || b) = (ofBool a).or (ofBool b) := by
  cases a <;> cases b <;> rfl

/-- No value is both. -/
theorem not_isYes_and_isNo (t : Truth) : ¬(t.isYes = true ∧ t.isNo = true) := by
  cases t <;> decide

end Truth

end CatalogQuery
