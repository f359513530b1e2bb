/-
How the text of a query is read back.  Operators are written without parentheses of their
own, so an operand has to hold together more tightly than the operator it belongs to; only
`and` and `or` may stand in a row with themselves, where grouping makes no difference.
-/
import CatalogQuery.Sql.Condition

namespace CatalogQuery.Sql

/-- How tightly an expression holds together where it is written: `or`, `and`, `not`,
comparisons, and what is closed on both sides. -/
def Expr.level : Expr → Nat
  | .binary .or _ _ => 1
  | .binary .and _ _ => 2
  | .not _ => 3
  | .binary _ _ _ | .isNull _ | .isNotNull _ | .like _ _ | .oneOf _ _ | .within _ _ => 4
  | _ => 5

/-- How tightly the operands of an operator have to hold together. -/
def BinaryOp.operandLevel : BinaryOp → Nat
  | .or => 1
  | .and => 2
  | _ => 5

/-- Whether a source is not made of several ones. -/
def Source.isSingle : Source → Bool
  | .join _ _ _ | .cross _ _ => false
  | _ => true

/-- Whether a query is a selection. -/
def Query.isSelection : Query → Bool
  | .select _ _ _ | .selectWhere _ _ _ => true
  | _ => false

mutual

/-- Whether the text of an expression is read as the expression. -/
@[simp]
def Expr.readsBack : Expr → Bool
  | .column _ _ | .text _ | .integer _ | .real _ | .boolean _ => true
  | .group e | .jsonbCast e _ | .jsonbType e | .jsonbArrayLength e => e.readsBack
  | .binary op left right =>
    left.readsBack && right.readsBack &&
      op.operandLevel ≤ left.level && op.operandLevel ≤ right.level
  | .not e => e.readsBack && 3 ≤ e.level
  | .isNull e | .isNotNull e | .like e _ | .oneOf e _ | .jsonbMember e _ | .jsonbItem e _
  | .jsonbText e => e.readsBack && 5 ≤ e.level
  | .within e q => e.readsBack && 5 ≤ e.level && q.readsBack
  | .exists_ q => q.readsBack
  | .guarded guard test => guard.readsBack && test.readsBack
  | .jsonType document _ | .jsonExtract document _ | .jsonArrayLength document _ =>
    document.readsBack

/-- Whether the text of a source is read as the source. -/
@[simp]
def Source.readsBack : Source → Bool
  | .table _ _ => true
  | .derived q _ => q.readsBack
  | .join left right condition =>
    left.readsBack && right.readsBack && right.isSingle && condition.readsBack
  | .cross left right => left.readsBack && right.readsBack && right.isSingle
  | .jsonItems document _ _ | .jsonMembers document _ => document.readsBack
  | .jsonbItems e _ => e.readsBack

/-- Whether the text of a query is read as the query. -/
@[simp]
def Query.readsBack : Query → Bool
  | .select _ _ source => source.readsBack
  | .selectWhere _ source condition => source.readsBack && condition.readsBack
  | .ordered q _ _ => q.readsBack
  | .combined _ left right =>
    left.readsBack && left.isSelection && right.readsBack && right.isSelection
  | .closure base step =>
    base.readsBack && base.isSelection && step.readsBack && step.isSelection
  | .verbatim _ => true

end

/-- The text is read as the expression, which holds together so tightly. -/
def Expr.ReadsAt (level : Nat) (e : Expr) : Prop :=
  e.readsBack = true ∧ level ≤ e.level

namespace Expr.ReadsAt

variable {e f : Expr} {n : Nat}

theorem mono {m : Nat} (h : e.ReadsAt n) (hle : m ≤ n) : e.ReadsAt m :=
  ⟨h.1, Nat.le_trans hle h.2⟩

theorem group (h : e.ReadsAt n) : (Expr.group e).ReadsAt 5 :=
  ⟨by simp only [readsBack, h.1], Nat.le_refl 5⟩

theorem and (he : e.ReadsAt 2) (hf : f.ReadsAt 2) : (e.and f).ReadsAt 2 :=
  ⟨by simp [readsBack, Expr.and, BinaryOp.operandLevel, he.1, he.2, hf.1, hf.2], Nat.le_refl 2⟩

theorem or (he : e.ReadsAt 1) (hf : f.ReadsAt 1) : (Expr.binary .or e f).ReadsAt 1 :=
  ⟨by simp [readsBack, BinaryOp.operandLevel, he.1, he.2, hf.1, hf.2], Nat.le_refl 1⟩

theorem not (h : e.ReadsAt 3) : (Expr.not e).ReadsAt 3 :=
  ⟨by simp [readsBack, h.1, h.2], Nat.le_refl 3⟩

theorem isNull (h : e.ReadsAt 5) : (Expr.isNull e).ReadsAt 4 :=
  ⟨by simp [readsBack, h.1, h.2], Nat.le_refl 4⟩

theorem isNotNull (h : e.ReadsAt 5) : (Expr.isNotNull e).ReadsAt 4 :=
  ⟨by simp [readsBack, h.1, h.2], Nat.le_refl 4⟩

theorem guarded (he : e.ReadsAt n) (hf : f.ReadsAt n) : (Expr.guarded e f).ReadsAt 5 :=
  ⟨by simp [readsBack, he.1, hf.1], Nat.le_refl 5⟩

end Expr.ReadsAt

theorem readsAt_text (s : String) : (Expr.text s).ReadsAt 5 :=
  ⟨rfl, Nat.le_refl 5⟩

theorem readsAt_literal (c : Constant) : (literal c).ReadsAt 5 := by
  cases c <;> exact ⟨rfl, Nat.le_refl 5⟩

theorem readsAt_comparison {e f : Expr} (he : e.ReadsAt 5) (hf : f.ReadsAt 5) {op : BinaryOp}
    (hop : op.operandLevel = 5) : (Expr.binary op e f).ReadsAt 4 := by
  refine ⟨by simp [Expr.readsBack, hop, he.1, he.2, hf.1, hf.2], ?_⟩
  cases op <;> first | exact Nat.le_refl 4 | cases hop

namespace Slot

/-- The expressions that a slot is made of are closed. -/
def IsClosed : Slot → Prop
  | .typed value kind => value.ReadsAt 5 ∧ kind.ReadsAt 5
  | .jsonb value | .count value => value.ReadsAt 5

variable {s : Slot}

theorem IsClosed.readsAt_valueAs (h : s.IsClosed) (c : Constant) : (s.valueAs c).ReadsAt 5 := by
  cases s with
  | typed value kind => exact h.1
  | count value => exact h
  | jsonb value =>
      have hvalue : value.ReadsAt 5 := h
      cases c <;> refine ⟨?_, Nat.le_refl 5⟩ <;>
        simp [valueAs, Expr.readsBack, hvalue.1, hvalue.2]

theorem IsClosed.readsAt_kind (h : s.IsClosed) {kind : Expr} (hkind : s.kind? = some kind) :
    kind.ReadsAt 5 := by
  cases s with
  | typed value kind =>
      cases hkind
      exact h.2
  | jsonb value =>
      cases hkind
      exact ⟨h.1, Nat.le_refl 5⟩
  | count value => cases hkind

theorem readsAt_equal {e : Expr} (h : e.ReadsAt 5) (s : String) :
    (e.equal (.text s)).ReadsAt 4 :=
  readsAt_comparison h (readsAt_text s) rfl

theorem IsClosed.readsAt_guard (h : s.IsClosed) {c : Constant} {guard : Expr}
    (hguard : s.guard? c = some guard) : guard.ReadsAt 4 := by
  cases s with
  | typed value kind =>
      have hkind : kind.ReadsAt 5 := h.2
      cases c <;> cases hguard
      · exact ⟨by simp [Expr.readsBack, hkind.1, hkind.2], Nat.le_refl 4⟩
      · exact ⟨by simp [Expr.readsBack, hkind.1, hkind.2], Nat.le_refl 4⟩
      · exact ⟨by simp [Expr.readsBack, hkind.1, hkind.2], Nat.le_refl 4⟩
      · exact readsAt_equal hkind _
  | jsonb value =>
      have hkind : (Expr.jsonbType value).ReadsAt 5 := ⟨h.1, Nat.le_refl 5⟩
      cases c <;> cases hguard <;> exact readsAt_equal hkind _
  | count value => cases hguard

theorem IsClosed.readsAt_guarded (h : s.IsClosed) {c : Constant} {test : Expr}
    (htest : test.ReadsAt 2) : (s.guarded c test).ReadsAt 2 := by
  cases hguard : s.guard? c with
  | none =>
      cases s <;> simp only [guarded, hguard] <;> exact htest
  | some guard =>
      have hreads := (h.readsAt_guard hguard).mono (by decide : 2 ≤ 4)
      cases s with
      | typed value kind =>
          simp only [guarded, hguard]
          exact hreads.and htest
      | jsonb value =>
          simp only [guarded, hguard]
          exact (hreads.guarded htest).mono (by decide)
      | count value => cases hguard

theorem operandLevel_operatorOf (op : Comparison) : (operatorOf op).operandLevel = 5 := by
  cases op <;> rfl

theorem IsClosed.readsAt_comparison (h : s.IsClosed) (op : Comparison) (c : Constant) :
    (Expr.binary (operatorOf op) (s.valueAs c) (literal c)).ReadsAt 4 :=
  Sql.readsAt_comparison (h.readsAt_valueAs c) (readsAt_literal c) (operandLevel_operatorOf op)

theorem IsClosed.readsAt_compare (h : s.IsClosed) (op : Comparison) (c : Constant) :
    (s.compare op c).ReadsAt 2 := by
  have hguarded := h.readsAt_guarded (c := c) ((h.readsAt_comparison op c).mono (by decide))
  cases s with
  | typed value kind =>
      cases c with
      | bool b => exact (readsAt_equal h.2 _).mono (by decide)
      | int | float | text => exact hguarded
  | jsonb value => exact hguarded
  | count value => exact hguarded

theorem readsAt_joined {op : BinaryOp} {n : Nat} {none : Expr} {α : Type} {condition : α → Expr}
    (hop : ∀ e f : Expr, e.ReadsAt n → f.ReadsAt n → (Expr.binary op e f).ReadsAt n)
    (hnone : none.ReadsAt n) {xs : List α} (h : ∀ x ∈ xs, (condition x).ReadsAt n) :
    (joined op none (xs.map condition)).ReadsAt n := by
  induction xs with
  | nil => exact hnone
  | cons x rest ih =>
      have hx := h x List.mem_cons_self
      have hrest := ih fun y hy => h y (List.mem_cons_of_mem x hy)
      cases rest with
      | nil => exact hx
      | cons y rest => exact hop _ _ hx hrest

theorem IsClosed.readsAt_matching (h : s.IsClosed) (p : Pattern) (negated : Bool) :
    (s.matching p negated).ReadsAt 2 := by
  apply h.readsAt_guarded
  have hvalue := h.readsAt_valueAs (.text "")
  have hregexp (pattern : String) :
      (Expr.binary .regexp (s.valueAs (.text "")) (.text pattern)).ReadsAt 4 :=
    Sql.readsAt_comparison hvalue (readsAt_text _) rfl
  have htest (pattern : String) :
      (if negated then .not (.group (.binary .regexp (s.valueAs (.text "")) (.text pattern)))
        else .binary .regexp (s.valueAs (.text "")) (.text pattern) : Expr).ReadsAt 2 := by
    cases negated with
    | false => exact (hregexp pattern).mono (by decide)
    | true => exact (Expr.ReadsAt.not ((hregexp pattern).group.mono (by decide))).mono (by decide)
  cases s with
  | typed value kind => exact htest _
  | count value => exact htest _
  | jsonb value =>
      exact (Sql.readsAt_comparison hvalue (readsAt_text _) rfl).mono (by decide)

theorem IsClosed.readsAt_inSet (h : s.IsClosed) (values : List Constant) :
    (s.inSet values).ReadsAt 5 := by
  apply Expr.ReadsAt.group (n := 1)
  apply readsAt_joined
  · intro e f he hf
    exact he.or hf
  · exact ⟨rfl, by decide⟩
  · intro c _
    exact (h.readsAt_compare .eq c).group.mono (by decide)

theorem IsClosed.readsAt_notInSet (h : s.IsClosed) (values : List Constant) :
    (s.notInSet values).ReadsAt 2 := by
  have hnot : (Expr.not (s.inSet values)).ReadsAt 2 :=
    (Expr.ReadsAt.not ((h.readsAt_inSet values).mono (by decide))).mono (by decide)
  unfold notInSet
  split
  · rename_i kind hkind
    have hnotNull := (h.readsAt_kind hkind).isNotNull
    exact (hnotNull.mono (by decide)).and hnot
  · exact hnot

theorem IsClosed.readsAt_test (h : s.IsClosed) (t : ScalarTest) : (s.test t).ReadsAt 2 := by
  cases t with
  | compare op c => exact h.readsAt_compare op c
  | matching p negated => exact h.readsAt_matching p negated
  | inRange low high =>
      apply h.readsAt_guarded
      exact ((h.readsAt_comparison .ge low).mono (by decide)).and
        ((h.readsAt_comparison .le high).mono (by decide))
  | notInRange low high =>
      apply h.readsAt_guarded
      have hor := ((h.readsAt_comparison .lt low).mono (by decide : 1 ≤ 4)).or
        ((h.readsAt_comparison .gt high).mono (by decide))
      exact hor.group.mono (by decide)
  | inSet values => exact (h.readsAt_inSet values).mono (by decide)
  | notInSet values => exact h.readsAt_notInSet values

end Slot

namespace Location

/-- The expression of the document or of the value is closed. -/
def IsClosed : Location → Prop
  | .path document _ => document.ReadsAt 5
  | .jsonb value => value.ReadsAt 5

variable {l : Location}

theorem isClosed_ofField {document : Expr} (h : document.ReadsAt 5) (dialect : Dialect)
    (field : String) : (ofField dialect document field).IsClosed := by
  cases dialect with
  | sqlite => exact h
  | postgres => exact ⟨by simp [Expr.readsBack, h.1, h.2], Nat.le_refl 5⟩

theorem IsClosed.item (h : l.IsClosed) (i : Int) : (l.item i).IsClosed := by
  cases l with
  | path document steps => exact h
  | jsonb value =>
      have hvalue : value.ReadsAt 5 := h
      exact ⟨by simp [Expr.readsBack, hvalue.1, hvalue.2], Nat.le_refl 5⟩

theorem IsClosed.member (h : l.IsClosed) (key : String) : (l.member key).IsClosed := by
  cases l with
  | path document steps => exact h
  | jsonb value =>
      have hvalue : value.ReadsAt 5 := h
      exact ⟨by simp [Expr.readsBack, hvalue.1, hvalue.2], Nat.le_refl 5⟩

theorem IsClosed.slot (h : l.IsClosed) : l.slot.IsClosed := by
  cases l with
  | path document steps => exact ⟨⟨h.1, Nat.le_refl 5⟩, h.1, Nat.le_refl 5⟩
  | jsonb value => exact h

theorem IsClosed.length (h : l.IsClosed) : l.length.IsClosed := by
  cases l <;> exact ⟨h.1, Nat.le_refl 5⟩

theorem isClosed_element (l : Location) : l.element.IsClosed := by
  cases l with
  | path document steps => exact ⟨⟨rfl, Nat.le_refl 5⟩, rfl, Nat.le_refl 5⟩
  | jsonb value => exact ⟨rfl, Nat.le_refl 5⟩

theorem IsClosed.readsAt_kind (h : l.IsClosed) : l.kind.ReadsAt 5 := by
  cases l <;> exact ⟨h.1, Nat.le_refl 5⟩

theorem IsClosed.readsAt_whenArray (h : l.IsClosed) {test : Expr} (htest : test.ReadsAt 2) :
    (l.whenArray test).ReadsAt 2 := by
  have hguard : (l.kind.equal (.text "array")).ReadsAt 2 :=
    (Slot.readsAt_equal h.readsAt_kind "array").mono (by decide)
  cases l with
  | path document steps => exact hguard.and htest
  | jsonb value => exact (hguard.guarded htest).mono (by decide)

theorem IsClosed.readsAt_someItem (h : l.IsClosed) {condition : Slot → Expr} {n : Nat}
    (hcondition : (condition l.element).ReadsAt n) : (l.someItem condition).ReadsAt 5 := by
  refine ⟨?_, Nat.le_refl 5⟩
  cases l <;> simp [someItem, Expr.readsBack, Query.readsBack, items, Source.readsBack,
    hcondition.1] <;> exact h.1

theorem IsClosed.readsAt_some (h : l.IsClosed) {condition : Slot → Expr} {n : Nat}
    (hcondition : (condition l.element).ReadsAt n) :
    (l.whenArray (l.someItem condition)).ReadsAt 2 :=
  h.readsAt_whenArray ((h.readsAt_someItem hcondition).mono (by decide))

theorem IsClosed.readsAt_none (h : l.IsClosed) {condition : Slot → Expr} {n : Nat}
    (hcondition : (condition l.element).ReadsAt n) :
    (l.whenArray (.not (l.someItem condition))).ReadsAt 2 :=
  h.readsAt_whenArray
    ((Expr.ReadsAt.not ((h.readsAt_someItem hcondition).mono (by decide))).mono (by decide))

theorem IsClosed.readsAt_meets (h : l.IsClosed) (accessor : Accessor) (t : ScalarTest) :
    (l.meets accessor t).ReadsAt 2 := by
  have hitem := (isClosed_element l).readsAt_test t
  cases accessor with
  | value => exact h.slot.readsAt_test t
  | index i => exact (h.item i.toInt).slot.readsAt_test t
  | key k => exact (h.member k).slot.readsAt_test t
  | any => exact h.readsAt_some hitem
  | all =>
      have hnot : (Expr.not (.group (l.element.test t))).ReadsAt 3 :=
        Expr.ReadsAt.not (hitem.group.mono (by decide))
      exact h.readsAt_none hnot
  | length => exact h.readsAt_whenArray (h.length.readsAt_test t)

end Location

theorem readsAt_atomCondition {document : Expr} (h : document.ReadsAt 5) (dialect : Dialect)
    (a : Atom) : (atomCondition dialect document a).ReadsAt 5 := by
  have hfield := Location.isClosed_ofField h dialect a.field
  have hkind := hfield.readsAt_kind
  have hitem (c : Constant) :=
    (Location.isClosed_element (Location.ofField dialect document a.field)).readsAt_compare .eq c
  apply Expr.ReadsAt.group (n := 2)
  split
  · exact hfield.readsAt_meets _ _
  · exact hkind.isNotNull.mono (by decide)
  · exact hkind.isNull.mono (by decide)
  · exact hfield.readsAt_some (hitem _)
  · exact hfield.readsAt_none (hitem _)

theorem readsAt_truth (dialect : Dialect) (b : Bool) : (truth dialect b).ReadsAt 5 := by
  cases dialect <;> cases b <;> exact ⟨rfl, Nat.le_refl 5⟩

/-- The text of a normal form's condition is read as the condition. -/
theorem readsAt_condition {document : Expr} (h : document.ReadsAt 5) (dialect : Dialect)
    (d : Dnf) : (condition dialect document d).ReadsAt 1 := by
  cases d with
  | always => exact (readsAt_truth dialect true).mono (by decide)
  | never => exact (readsAt_truth dialect false).mono (by decide)
  | anyOf conjunctions =>
      apply Slot.readsAt_joined
      · intro e f he hf
        exact he.or hf
      · exact (readsAt_truth dialect false).mono (by decide)
      · intro atoms _
        have hatoms : (Slot.joined .and (truth dialect true)
            (atoms.map (atomCondition dialect document))).ReadsAt 2 := by
          apply Slot.readsAt_joined
          · intro e f he hf
            exact he.and hf
          · exact (readsAt_truth dialect true).mono (by decide)
          · intro a _
            exact (readsAt_atomCondition h dialect a).mono (by decide)
        exact hatoms.group.mono (by decide)

end CatalogQuery.Sql
