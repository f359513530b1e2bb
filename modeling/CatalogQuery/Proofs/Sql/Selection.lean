/-
What conditions select.  A condition selects exactly where something holds if it is true
there and false or unknown everywhere else; it never raises an error.  Where the values it
is about are known it must not be unknown either, since `not` leaves the unknown as it is.
-/
import CatalogQuery.Proofs.Sql.Evaluation
import CatalogQuery.Sql.Condition

namespace CatalogQuery.Sql

/-- The condition has a truth value that is true exactly if `b` and, where so much is
known, not unknown. -/
def Expr.Selects (db : Database) (scope : Scope) (known b : Bool) (e : Expr) : Prop :=
  ∃ t, e.truth db scope = some t ∧ t.isYes = b ∧ (known = true → t ≠ .unknown)

namespace Expr

variable {db : Database} {scope : Scope} {e f : Expr} {t u : Truth} {known b c : Bool}

theorem truth_of_eval (h : e.eval db scope = some (.ofTruth t)) :
    e.truth db scope = some t := by
  rw [truth, h, Option.bind_some, Value.truth?_ofTruth]

theorem truth_of_eval_truth (h : e.eval db scope = some (.truth b)) :
    e.truth db scope = some (.ofBool b) := by
  rw [truth, h]
  rfl

theorem truth_group : (Expr.group e).truth db scope = e.truth db scope := by
  simp only [truth, eval]

theorem truth_and (he : e.truth db scope = some t) (hf : f.truth db scope = some u) :
    (e.and f).truth db scope = some (t.and u) := by
  obtain ⟨v, hv, ht⟩ := Option.bind_eq_some_iff.mp he
  obtain ⟨w, hw, hu⟩ := Option.bind_eq_some_iff.mp hf
  apply truth_of_eval
  simp [Expr.and, eval, BinaryOp.apply, hv, hw, ht, hu]

theorem truth_or (he : e.truth db scope = some t) (hf : f.truth db scope = some u) :
    (Expr.binary .or e f).truth db scope = some (t.or u) := by
  obtain ⟨v, hv, ht⟩ := Option.bind_eq_some_iff.mp he
  obtain ⟨w, hw, hu⟩ := Option.bind_eq_some_iff.mp hf
  apply truth_of_eval
  simp [eval, BinaryOp.apply, hv, hw, ht, hu]

theorem truth_not (he : e.truth db scope = some t) :
    (Expr.not e).truth db scope = some t.not := by
  obtain ⟨v, hv, ht⟩ := Option.bind_eq_some_iff.mp he
  apply truth_of_eval
  simp [eval, hv, ht]

theorem truth_guarded_yes (he : e.truth db scope = some .yes) :
    (Expr.guarded e f).truth db scope = f.truth db scope := by
  obtain ⟨v, hv, ht⟩ := Option.bind_eq_some_iff.mp he
  simp [truth, eval, hv, ht]

theorem truth_guarded_ne (he : e.truth db scope = some t) (ht : t ≠ .yes) :
    (Expr.guarded e f).truth db scope = some .no := by
  obtain ⟨v, hv, htruth⟩ := Option.bind_eq_some_iff.mp he
  apply truth_of_eval_truth (b := false)
  simp [eval, hv, htruth, ht]

namespace Selects

theorem of_truth (h : e.truth db scope = some (.ofBool b)) : e.Selects db scope known b := by
  refine ⟨_, h, ?_, ?_⟩ <;> cases b <;> simp [Truth.ofBool, Truth.isYes]

theorem of_unknown (h : e.truth db scope = some .unknown) : e.Selects db scope false false :=
  ⟨_, h, rfl, nofun⟩

/-- A condition that is known is true or false. -/
theorem truth_eq (h : e.Selects db scope true b) : e.truth db scope = some (.ofBool b) := by
  obtain ⟨t, ht, hb, hknown⟩ := h
  rw [ht, ← hb]
  cases t with
  | no => rfl
  | unknown => exact absurd rfl (hknown rfl)
  | yes => rfl

theorem weaken (h : e.Selects db scope known b) : e.Selects db scope false b := by
  obtain ⟨t, ht, hb, -⟩ := h
  exact ⟨t, ht, hb, nofun⟩

theorem group (h : e.Selects db scope known b) : (Expr.group e).Selects db scope known b := by
  obtain ⟨t, ht, hb, hknown⟩ := h
  exact ⟨t, truth_group.trans ht, hb, hknown⟩

theorem and (he : e.Selects db scope known b) (hf : f.Selects db scope known c) :
    (e.and f).Selects db scope known (b && c) := by
  obtain ⟨t, ht, rfl, hknown⟩ := he
  obtain ⟨u, hu, rfl, hknown'⟩ := hf
  refine ⟨_, truth_and ht hu, Truth.isYes_and t u, fun h => ?_⟩
  have ht' := hknown h
  have hu' := hknown' h
  cases t <;> cases u <;> simp_all [Truth.and]

theorem or (he : e.Selects db scope known b) (hf : f.Selects db scope known c) :
    (Expr.binary .or e f).Selects db scope known (b || c) := by
  obtain ⟨t, ht, rfl, hknown⟩ := he
  obtain ⟨u, hu, rfl, hknown'⟩ := hf
  refine ⟨_, truth_or ht hu, Truth.isYes_or t u, fun h => ?_⟩
  have ht' := hknown h
  have hu' := hknown' h
  cases t <;> cases u <;> simp_all [Truth.or]

/-- Only what is known can be negated. -/
theorem not (h : e.Selects db scope true b) : (Expr.not e).Selects db scope known (!b) := by
  apply of_truth
  rw [truth_not h.truth_eq]
  cases b <;> rfl

/-- A guard in front of a test that has a value wherever the guard fails. -/
theorem guard_and (he : e.Selects db scope known b)
    (hfalse : b = false → ∃ u, f.truth db scope = some u)
    (htrue : b = true → f.Selects db scope known c) :
    (e.and f).Selects db scope known (b && c) := by
  cases b with
  | true => exact he.and (htrue rfl)
  | false =>
      obtain ⟨t, ht, hb, hknown⟩ := he
      obtain ⟨u, hu⟩ := hfalse rfl
      refine ⟨_, truth_and ht hu, ?_, fun h => ?_⟩
      · rw [Truth.isYes_and, hb, Bool.false_and, Bool.false_and]
      · have ht' := hknown h
        cases t <;> simp_all [Truth.and, Truth.isYes]

/-- A guard in front of a test that is not made where the guard fails. -/
theorem guarded (he : e.Selects db scope known b)
    (htrue : b = true → f.Selects db scope known c) :
    (Expr.guarded e f).Selects db scope known (b && c) := by
  obtain ⟨t, ht, rfl, -⟩ := he
  by_cases hyes : t = .yes
  · subst hyes
    obtain ⟨u, hu, hc, hknown⟩ := htrue rfl
    exact ⟨u, (truth_guarded_yes ht).trans hu, hc, hknown⟩
  · have hfalse : t.isYes = false := by simp [Truth.isYes, hyes]
    rw [hfalse, Bool.false_and]
    exact of_truth (b := false) (truth_guarded_ne ht hyes)

end Selects

theorem selects_joined_or {α : Type} {none : Expr} {condition : α → Expr} {holds : α → Bool}
    (hnone : none.Selects db scope known false) {xs : List α}
    (h : ∀ x ∈ xs, (condition x).Selects db scope known (holds x)) :
    (Slot.joined .or none (xs.map condition)).Selects db scope known (xs.any holds) := by
  induction xs with
  | nil => exact hnone
  | cons x rest ih =>
      have hx := h x List.mem_cons_self
      have hrest := ih fun y hy => h y (List.mem_cons_of_mem x hy)
      cases rest with
      | nil => simpa [Slot.joined] using hx
      | cons y rest => exact hx.or hrest

theorem selects_joined_and {α : Type} {none : Expr} {condition : α → Expr} {holds : α → Bool}
    (hnone : none.Selects db scope known true) {xs : List α}
    (h : ∀ x ∈ xs, (condition x).Selects db scope known (holds x)) :
    (Slot.joined .and none (xs.map condition)).Selects db scope known (xs.all holds) := by
  induction xs with
  | nil => exact hnone
  | cons x rest ih =>
      have hx := h x List.mem_cons_self
      have hrest := ih fun y hy => h y (List.mem_cons_of_mem x hy)
      cases rest with
      | nil => simpa [Slot.joined] using hx
      | cons y rest => exact hx.and hrest

end Expr

end CatalogQuery.Sql
