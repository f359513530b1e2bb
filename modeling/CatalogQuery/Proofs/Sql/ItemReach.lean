/-
Items that binary JSON has no operator for.  A position beyond thirty-two bits raises an error
whatever the document is, and neither a guard nor a connective around the test hides it: a
condition has a value only if every position that it asks for is in reach.
-/
import CatalogQuery.Proofs.Sql.Locations

namespace CatalogQuery.Sql

variable {db : Database} {scope : Scope}

/-- Whether the dialect has an operator for the position that the atom asks for. -/
def reachesItem (dialect : Dialect) (a : Atom) : Bool :=
  match dialect, a.test with
  | .postgres, .scalar (.index i) _ => fitsInt32 i.toInt
  | _, _ => true

theorem exists_index_of_reachesItem {dialect : Dialect} {a : Atom}
    (h : reachesItem dialect a = false) :
    dialect = .postgres ∧
      ∃ i t, a.test = .scalar (.index i) t ∧ fitsInt32 i.toInt = false := by
  unfold reachesItem at h
  split at h
  · rename_i i t htest
    exact ⟨rfl, i, t, htest, h⟩
  · cases h

/-- Whether the dialect has operators for all positions that the atoms of the form ask for. -/
def reachesItems (dialect : Dialect) (d : Dnf) : Bool :=
  d.conjunctions.flatten.all (reachesItem dialect)

theorem reachesItem_of_mem {dialect : Dialect} {d : Dnf} (h : reachesItems dialect d = true)
    {atoms : List Atom} (hatoms : atoms ∈ d.conjunctions) {a : Atom} (ha : a ∈ atoms) :
    reachesItem dialect a = true :=
  List.all_eq_true.mp h a (List.mem_flatten.mpr ⟨atoms, hatoms, ha⟩)

namespace Expr

variable {e f : Expr}

theorem eval_group_eq_none (h : e.eval db scope = none) : (group e).eval db scope = none := by
  rw [eval, h]

theorem eval_isNotNull_eq_none (h : e.eval db scope = none) :
    (isNotNull e).eval db scope = none := by
  rw [eval, h]
  rfl

theorem eval_binary_eq_none_left (h : e.eval db scope = none) (op : BinaryOp) :
    (binary op e f).eval db scope = none := by
  rw [eval, h]
  rfl

theorem eval_binary_eq_none_right (h : f.eval db scope = none) (op : BinaryOp) :
    (binary op e f).eval db scope = none := by
  rw [eval, h]
  cases e.eval db scope <;> rfl

/-- An error of the guard is not hidden by the guard. -/
theorem eval_guarded_eq_none (h : e.eval db scope = none) :
    (guarded e f).eval db scope = none := by
  rw [eval, h]
  rfl

/-- Operands are not cut off: an error of any of them is one of the chain. -/
theorem eval_joined_eq_none {op : BinaryOp} {none : Expr} {es : List Expr} (he : e ∈ es)
    (h : e.eval db scope = .none) : (Slot.joined op none es).eval db scope = .none := by
  induction es with
  | nil => cases he
  | cons first rest ih =>
      cases rest with
      | nil =>
          rw [List.mem_singleton.mp he] at h
          exact h
      | cons second rest =>
          rw [Slot.joined]
          rcases List.mem_cons.mp he with rfl | hrest
          · exact eval_binary_eq_none_left h op
          · exact eval_binary_eq_none_right (ih hrest) op

end Expr

namespace Slot

variable {value : Expr} (h : value.eval db scope = none)

include h

theorem eval_jsonbType_eq_none : (Expr.jsonbType value).eval db scope = none := by
  rw [Expr.eval, h]
  rfl

theorem eval_equal_jsonbType_eq_none (name : String) :
    ((Expr.jsonbType value).equal (.text name)).eval db scope = none :=
  Expr.eval_binary_eq_none_left (eval_jsonbType_eq_none h) .eq

/-- The guard looks at the type of the value, so that it raises the error already. -/
theorem eval_guarded_eq_none (c : Constant) (test : Expr) :
    ((jsonb value).guarded c test).eval db scope = none := by
  cases c <;> exact Expr.eval_guarded_eq_none (eval_equal_jsonbType_eq_none h _)

theorem eval_inSet_eq_none {values : List Constant} (hvalues : values ≠ []) :
    ((jsonb value).inSet values).eval db scope = none := by
  obtain ⟨c, hc⟩ := List.exists_mem_of_ne_nil values hvalues
  apply Expr.eval_group_eq_none
  apply Expr.eval_joined_eq_none (List.mem_map_of_mem hc)
  exact Expr.eval_group_eq_none (eval_guarded_eq_none h c _)

theorem eval_test_eq_none {t : ScalarTest} (hvalid : t.IsValid) :
    ((jsonb value).test t).eval db scope = none := by
  cases t with
  | compare op c => exact eval_guarded_eq_none h c _
  | matching p negated => exact eval_guarded_eq_none h (.text "") _
  | inRange low high => exact eval_guarded_eq_none h low _
  | notInRange low high => exact eval_guarded_eq_none h low _
  | inSet values => exact eval_inSet_eq_none h hvalid.1
  | notInSet values =>
      have hkind := Expr.eval_isNotNull_eq_none (eval_jsonbType_eq_none h)
      exact Expr.eval_binary_eq_none_left hkind .and

end Slot

/-- Where an item has a value it is found in a value. -/
theorem exists_of_eval_jsonbItem {e : Expr} {i : Int} {w : Value}
    (h : (Expr.jsonbItem e i).eval db scope = some w) :
    ∃ v, e.eval db scope = some v ∧ onJson (fun v => partOf (itemOf? i v)) v = some w := by
  rw [Expr.eval] at h
  obtain ⟨v, hv, hitem⟩ := Option.bind_eq_some_iff.mp h
  split at hitem
  · exact ⟨v, hv, hitem⟩
  · cases hitem

theorem eval_jsonbItem_eq_none {i : Int} (h : fitsInt32 i = false) (e : Expr) :
    (Expr.jsonbItem e i).eval db scope = none := by
  rw [Expr.eval, h]
  cases e.eval db scope <;> rfl

/-- The condition of an atom that asks for a position out of reach raises an error. -/
theorem eval_atomCondition_eq_none {dialect : Dialect} {a : Atom} (hvalid : a.IsValid)
    (h : reachesItem dialect a = false) (document : Expr) :
    (atomCondition dialect document a).eval db scope = none := by
  obtain ⟨field, test⟩ := a
  obtain ⟨rfl, i, t, rfl, hindex⟩ := exists_index_of_reachesItem h
  have htest : t.IsValid := hvalid.2.1
  apply Expr.eval_group_eq_none
  exact Slot.eval_test_eq_none (eval_jsonbItem_eq_none hindex _) htest

theorem eval_condition_eq_none {dialect : Dialect} {d : Dnf}
    (hvalid : ∀ atoms ∈ d.conjunctions, ∀ a ∈ atoms, a.IsValid)
    (h : reachesItems dialect d = false) (document : Expr) :
    (condition dialect document d).eval db scope = none := by
  obtain ⟨a, ha, hreach⟩ := List.all_eq_false.mp h
  obtain ⟨atoms, hatoms, hmem⟩ := List.mem_flatten.mp ha
  have hatom : (atomCondition dialect document a).eval db scope = none :=
    eval_atomCondition_eq_none (hvalid atoms hatoms a hmem) (Bool.eq_false_of_not_eq_true hreach)
      document
  cases d with
  | always => cases hatoms
  | never => cases hatoms
  | anyOf conjunctions =>
      apply Expr.eval_joined_eq_none (List.mem_map_of_mem hatoms)
      apply Expr.eval_group_eq_none
      exact Expr.eval_joined_eq_none (List.mem_map_of_mem hmem) hatom

end CatalogQuery.Sql
