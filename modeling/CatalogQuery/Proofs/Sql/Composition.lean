/-
What conditions are built from.  The condition of a normal form is built from the document that
it is about, from constants and, for each test of an array, from an item of the array, by a few
operators.  What holds of these and is kept by the operators holds of the condition.
-/
import CatalogQuery.Sql.Condition

namespace CatalogQuery.Sql

/-- What is read of an item of an array. -/
inductive IsElement : Expr → Prop
  | value : IsElement (.column .e .value)
  | type : IsElement (.column .e .type)
  | item : IsElement (.column .e .item)

/-- The expression is built from parts of some kind.  Whether an array has an item with a
condition is asked with a condition on the item alone. -/
inductive Expr.IsBuiltFrom : (Expr → Prop) → Expr → Prop
  | part {p : Expr → Prop} {e : Expr} (h : p e) : IsBuiltFrom p e
  | text {p : Expr → Prop} (s : String) : IsBuiltFrom p (.text s)
  | literal {p : Expr → Prop} (c : Constant) : IsBuiltFrom p (literal c)
  | truth {p : Expr → Prop} (dialect : Dialect) (b : Bool) : IsBuiltFrom p (truth dialect b)
  | group {p : Expr → Prop} {e : Expr} (h : IsBuiltFrom p e) : IsBuiltFrom p (.group e)
  | not {p : Expr → Prop} {e : Expr} (h : IsBuiltFrom p e) : IsBuiltFrom p (.not e)
  | isNull {p : Expr → Prop} {e : Expr} (h : IsBuiltFrom p e) : IsBuiltFrom p (.isNull e)
  | isNotNull {p : Expr → Prop} {e : Expr} (h : IsBuiltFrom p e) : IsBuiltFrom p (.isNotNull e)
  | binary {p : Expr → Prop} {left right : Expr} (op : BinaryOp) (hleft : IsBuiltFrom p left)
    (hright : IsBuiltFrom p right) : IsBuiltFrom p (.binary op left right)
  | guarded {p : Expr → Prop} {guard test : Expr} (hguard : IsBuiltFrom p guard)
    (htest : IsBuiltFrom p test) : IsBuiltFrom p (.guarded guard test)
  | oneOf {p : Expr → Prop} {e : Expr} (h : IsBuiltFrom p e) (values : List String) :
    IsBuiltFrom p (.oneOf e values)
  | jsonType {p : Expr → Prop} {document : Expr} (h : IsBuiltFrom p document)
    (path : List PathStep) : IsBuiltFrom p (.jsonType document path)
  | jsonExtract {p : Expr → Prop} {document : Expr} (h : IsBuiltFrom p document)
    (path : List PathStep) : IsBuiltFrom p (.jsonExtract document path)
  | jsonArrayLength {p : Expr → Prop} {document : Expr} (h : IsBuiltFrom p document)
    (path : List PathStep) : IsBuiltFrom p (.jsonArrayLength document path)
  | jsonbMember {p : Expr → Prop} {e : Expr} (h : IsBuiltFrom p e) (key : String) :
    IsBuiltFrom p (.jsonbMember e key)
  | jsonbItem {p : Expr → Prop} {e : Expr} (h : IsBuiltFrom p e) (i : Int64) :
    IsBuiltFrom p (.jsonbItem e i.toInt)
  | jsonbType {p : Expr → Prop} {e : Expr} (h : IsBuiltFrom p e) : IsBuiltFrom p (.jsonbType e)
  | jsonbText {p : Expr → Prop} {e : Expr} (h : IsBuiltFrom p e) : IsBuiltFrom p (.jsonbText e)
  | jsonbCast {p : Expr → Prop} {e : Expr} (h : IsBuiltFrom p e) (type : CastType) :
    IsBuiltFrom p (.jsonbCast e type)
  | jsonbArrayLength {p : Expr → Prop} {e : Expr} (h : IsBuiltFrom p e) :
    IsBuiltFrom p (.jsonbArrayLength e)
  | someJsonItem {p : Expr → Prop} {document condition : Expr} (h : IsBuiltFrom p document)
    (path : List PathStep) (hcondition : IsBuiltFrom IsElement condition) :
    IsBuiltFrom p (.exists_ (.selectWhere [.one] (.jsonItems document path .e) condition))
  | someJsonbItem {p : Expr → Prop} {e condition : Expr} (h : IsBuiltFrom p e)
    (hcondition : IsBuiltFrom IsElement condition) :
    IsBuiltFrom p (.exists_ (.selectWhere [.one] (.jsonbItems e .e) condition))

namespace Slot

variable {p : Expr → Prop} {s : Slot} {tested : Expr}

/-- The expressions of the slot are built from such parts. -/
def IsBuiltFrom (p : Expr → Prop) : Slot → Prop
  | .typed value kind => value.IsBuiltFrom p ∧ kind.IsBuiltFrom p
  | .jsonb value | .count value => value.IsBuiltFrom p

theorem IsBuiltFrom.kind (h : s.IsBuiltFrom p) {kind : Expr} (hkind : s.kind? = some kind) :
    kind.IsBuiltFrom p := by
  cases s with
  | typed value kind =>
      cases hkind
      exact h.2
  | jsonb value =>
      cases hkind
      exact .jsonbType h
  | count value => cases hkind

theorem IsBuiltFrom.guard (h : s.IsBuiltFrom p) {c : Constant} {guard : Expr}
    (hguard : s.guard? c = some guard) : guard.IsBuiltFrom p := by
  cases s with
  | typed value kind =>
      cases c <;> cases hguard
      · exact .oneOf h.2 _
      · exact .oneOf h.2 _
      · exact .oneOf h.2 _
      · exact .binary .eq h.2 (.text _)
  | jsonb value => cases c <;> cases hguard <;> exact .binary .eq (.jsonbType h) (.text _)
  | count value => cases c <;> cases hguard

theorem IsBuiltFrom.valueAs (h : s.IsBuiltFrom p) (c : Constant) :
    (s.valueAs c).IsBuiltFrom p := by
  cases s with
  | typed value kind => exact h.1
  | jsonb value =>
      cases c with
      | text s => exact .jsonbText h
      | bool b | int n | float x => exact .jsonbCast h _
  | count value => exact h

theorem IsBuiltFrom.guarded (h : s.IsBuiltFrom p) (htest : tested.IsBuiltFrom p) (c : Constant) :
    (s.guarded c tested).IsBuiltFrom p := by
  unfold Slot.guarded
  split
  · exact htest
  · rename_i hguard
    exact .guarded (h.guard hguard) htest
  · rename_i hguard
    exact .binary .and (h.guard hguard) htest

theorem IsBuiltFrom.comparison (h : s.IsBuiltFrom p) (op : BinaryOp) (c : Constant) :
    (Expr.binary op (s.valueAs c) (literal c)).IsBuiltFrom p :=
  .binary op (h.valueAs c) (.literal c)

theorem IsBuiltFrom.compare (h : s.IsBuiltFrom p) (c : Comparison) (constant : Constant) :
    (s.compare c constant).IsBuiltFrom p := by
  unfold Slot.compare
  split
  · exact .binary .eq h.2 (.text _)
  · exact h.guarded (h.comparison _ constant) constant

theorem IsBuiltFrom.matching (h : s.IsBuiltFrom p) (pattern : Pattern) (negated : Bool) :
    (s.matching pattern negated).IsBuiltFrom p := by
  have hvalue : (s.valueAs (.text "")).IsBuiltFrom p := h.valueAs _
  unfold Slot.matching
  apply h.guarded
  cases s with
  | jsonb value => exact .binary _ hvalue (.text _)
  | typed value kind | count value =>
      cases negated
      · exact .binary .regexp hvalue (.text _)
      · exact .not (.group (.binary .regexp hvalue (.text _)))

theorem isBuiltFrom_joined {op : BinaryOp} {none : Expr} {es : List Expr}
    (hnone : none.IsBuiltFrom p) (hes : ∀ e ∈ es, e.IsBuiltFrom p) :
    (joined op none es).IsBuiltFrom p := by
  fun_induction joined op none es with
  | case1 => exact hnone
  | case2 e => exact hes e (List.mem_singleton_self e)
  | case3 e f rest ih =>
      obtain ⟨he, hrest⟩ := List.forall_mem_cons.mp hes
      exact .binary op he (ih hrest)

theorem IsBuiltFrom.inSet (h : s.IsBuiltFrom p) (values : List Constant) :
    (s.inSet values).IsBuiltFrom p := by
  refine .group (isBuiltFrom_joined (.truth .postgres false) fun e he => ?_)
  obtain ⟨v, -, rfl⟩ := List.mem_map.mp he
  exact .group (h.compare .eq v)

theorem IsBuiltFrom.notInSet (h : s.IsBuiltFrom p) (values : List Constant) :
    (s.notInSet values).IsBuiltFrom p := by
  unfold Slot.notInSet
  split
  · rename_i kind hkind
    exact .binary .and (.isNotNull (h.kind hkind)) (.not (h.inSet values))
  · exact .not (h.inSet values)

/-- A test of a slot is built from what the slot is built from. -/
theorem IsBuiltFrom.test (h : s.IsBuiltFrom p) (t : ScalarTest) : (s.test t).IsBuiltFrom p := by
  cases t with
  | compare c constant => exact h.compare c constant
  | matching pattern negated => exact h.matching pattern negated
  | inRange low high =>
      exact h.guarded (.binary .and (h.comparison .ge low) (h.comparison .le high)) low
  | notInRange low high =>
      exact h.guarded (.group (.binary .or (h.comparison .lt low) (h.comparison .gt high))) low
  | inSet values => exact h.inSet values
  | notInSet values => exact h.notInSet values

end Slot

namespace Location

variable {p : Expr → Prop} {l : Location} {tested : Expr}

/-- The document that the location is in is built from such parts. -/
def IsBuiltFrom (p : Expr → Prop) : Location → Prop
  | .path document _ => document.IsBuiltFrom p
  | .jsonb value => value.IsBuiltFrom p

theorem isBuiltFrom_ofField {document : Expr} (h : document.IsBuiltFrom p) (dialect : Dialect)
    (field : String) : (ofField dialect document field).IsBuiltFrom p := by
  cases dialect with
  | sqlite => exact h
  | postgres => exact .jsonbMember h field

theorem IsBuiltFrom.item (h : l.IsBuiltFrom p) (i : Int64) : (l.item i.toInt).IsBuiltFrom p := by
  cases l with
  | path document steps => exact h
  | jsonb value => exact .jsonbItem h i

theorem IsBuiltFrom.member (h : l.IsBuiltFrom p) (key : String) : (l.member key).IsBuiltFrom p := by
  cases l with
  | path document steps => exact h
  | jsonb value => exact .jsonbMember h key

theorem IsBuiltFrom.kind (h : l.IsBuiltFrom p) : l.kind.IsBuiltFrom p := by
  cases l with
  | path document steps => exact .jsonType h steps
  | jsonb value => exact .jsonbType h

theorem IsBuiltFrom.slot (h : l.IsBuiltFrom p) : l.slot.IsBuiltFrom p := by
  cases l with
  | path document steps => exact ⟨.jsonExtract h steps, .jsonType h steps⟩
  | jsonb value => exact h

theorem IsBuiltFrom.length (h : l.IsBuiltFrom p) : l.length.IsBuiltFrom p := by
  cases l with
  | path document steps => exact .jsonArrayLength h steps
  | jsonb value => exact .jsonbArrayLength h

theorem isBuiltFrom_element (l : Location) : l.element.IsBuiltFrom IsElement := by
  cases l with
  | path document steps => exact ⟨.part .value, .part .type⟩
  | jsonb value => exact .part .item

theorem IsBuiltFrom.whenArray (h : l.IsBuiltFrom p) (htest : tested.IsBuiltFrom p) :
    (l.whenArray tested).IsBuiltFrom p := by
  have harray : (Expr.equal l.kind (.text "array")).IsBuiltFrom p := .binary .eq h.kind (.text _)
  cases l with
  | path document steps => exact .binary .and harray htest
  | jsonb value => exact .guarded harray htest

theorem IsBuiltFrom.someItem (h : l.IsBuiltFrom p) {condition : Slot → Expr}
    (hcondition : ∀ {s : Slot}, s.IsBuiltFrom IsElement → (condition s).IsBuiltFrom IsElement) :
    (l.someItem condition).IsBuiltFrom p := by
  have helement := hcondition (isBuiltFrom_element l)
  cases l with
  | path document steps => exact .someJsonItem h steps helement
  | jsonb value => exact .someJsonbItem h helement

theorem IsBuiltFrom.meets (h : l.IsBuiltFrom p) (accessor : Accessor) (t : ScalarTest) :
    (l.meets accessor t).IsBuiltFrom p := by
  cases accessor with
  | value => exact h.slot.test t
  | index i => exact (h.item i).slot.test t
  | key k => exact (h.member k).slot.test t
  | any => exact h.whenArray (h.someItem fun hitem => hitem.test t)
  | all => exact h.whenArray (.not (h.someItem fun hitem => .not (.group (hitem.test t))))
  | length => exact h.whenArray (h.length.test t)

end Location

section Conditions

variable {p : Expr → Prop} {document : Expr}

theorem isBuiltFrom_atomCondition (h : document.IsBuiltFrom p) (dialect : Dialect) (a : Atom) :
    (atomCondition dialect document a).IsBuiltFrom p := by
  have hfield : (Location.ofField dialect document a.field).IsBuiltFrom p :=
    Location.isBuiltFrom_ofField h dialect a.field
  obtain ⟨field, test⟩ := a
  cases test with
  | scalar accessor t => exact .group (hfield.meets accessor t)
  | present => exact .group (.isNotNull hfield.kind)
  | notPresent => exact .group (.isNull hfield.kind)
  | contains v =>
      exact .group (hfield.whenArray (hfield.someItem fun hitem => hitem.compare .eq v))
  | notContains v =>
      exact .group (hfield.whenArray (.not (hfield.someItem fun hitem => hitem.compare .eq v)))

/-- The condition of a normal form is built from the document. -/
theorem isBuiltFrom_condition (dialect : Dialect) (document : Expr) (form : Dnf) :
    (condition dialect document form).IsBuiltFrom (· = document) := by
  have hdocument : document.IsBuiltFrom (· = document) := .part rfl
  cases form with
  | always => exact .truth dialect true
  | never => exact .truth dialect false
  | anyOf conjunctions =>
      refine Slot.isBuiltFrom_joined (.truth dialect false) fun e he => ?_
      obtain ⟨atoms, -, rfl⟩ := List.mem_map.mp he
      refine .group (Slot.isBuiltFrom_joined (.truth dialect true) fun e he => ?_)
      obtain ⟨a, -, rfl⟩ := List.mem_map.mp he
      exact isBuiltFrom_atomCondition hdocument dialect a

end Conditions

end CatalogQuery.Sql
