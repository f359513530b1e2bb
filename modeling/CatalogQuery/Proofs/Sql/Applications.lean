/-
Functions of binary JSON that are not there for every value: casts to a number or a truth
value, the length of an array and its items.  What an expression applies them to is counted
over every operand, since a store may evaluate operands in any order and none is cut off;
only a guard decides whether its test is looked at.  A condition of a normal form applies
each of them to values of its own type alone, whatever the document is.
-/
import CatalogQuery.Proofs.Sql.Conditions

namespace CatalogQuery.Sql

/-- A function of binary JSON values that is there for some types of value only. -/
inductive PartialFunction
  | cast (type : CastType)
  | arrayLength
  | arrayItems
deriving DecidableEq

def PartialFunction.accepts : PartialFunction → Json → Bool
  | .cast .numeric, .number _ => true
  | .cast .boolean, .bool _ => true
  | .arrayLength, .array _ => true
  | .arrayItems, .array _ => true
  | _, _ => false

/-- A partial function together with the value that it is applied to. -/
structure Application where
  function : PartialFunction
  argument : Value

/-- The argument is a JSON value that the function is there for. -/
def Application.IsAccepted (a : Application) : Prop :=
  ∃ v, a.argument.json? = some v ∧ a.function.accepts v = true

def Application.IsOf (a : Application) (function : PartialFunction) (argument : Option Value) :
    Prop :=
  a.function = function ∧ argument = some a.argument

mutual

/-- The evaluation of an expression makes the application, if every operand is evaluated.  A
test counts where its guard is true. -/
def Expr.Applies (db : Database) (scope : Scope) (a : Application) : Expr → Prop
  | .column _ _ | .text _ | .integer _ | .real _ | .boolean _ => False
  | .group e | .not e | .isNull e | .isNotNull e | .like e _ | .oneOf e _ =>
    e.Applies db scope a
  | .binary _ left right => left.Applies db scope a ∨ right.Applies db scope a
  | .within e q => e.Applies db scope a ∨ q.Applies db scope a
  | .exists_ q => q.Applies db scope a
  | .guarded guard test =>
    guard.Applies db scope a ∨ guard.truth db scope = some .yes ∧ test.Applies db scope a
  | .jsonType document _ | .jsonExtract document _ | .jsonArrayLength document _ =>
    document.Applies db scope a
  | .jsonbMember e _ | .jsonbItem e _ | .jsonbType e | .jsonbText e => e.Applies db scope a
  | .jsonbCast e type => e.Applies db scope a ∨ a.IsOf (.cast type) (e.eval db scope)
  | .jsonbArrayLength e => e.Applies db scope a ∨ a.IsOf .arrayLength (e.eval db scope)

/-- The evaluation of a source makes the application.  The right side of a join is evaluated
for every row of the left one, and its condition for every pair. -/
def Source.Applies (db : Database) (scope : Scope) (a : Application) : Source → Prop
  | .table _ _ => False
  | .derived q _ => q.Applies db scope a
  | .join left right condition =>
    left.Applies db scope a ∨
      (∃ lefts, left.eval db scope = some lefts ∧ ∃ inner ∈ lefts, right.Applies db inner a) ∨
      ∃ pairs, (Source.cross left right).eval db scope = some pairs ∧
        ∃ inner ∈ pairs, condition.Applies db inner a
  | .cross left right =>
    left.Applies db scope a ∨
      ∃ lefts, left.eval db scope = some lefts ∧ ∃ inner ∈ lefts, right.Applies db inner a
  | .jsonItems document _ _ | .jsonMembers document _ => document.Applies db scope a
  | .jsonbItems e _ => e.Applies db scope a ∨ a.IsOf .arrayItems (e.eval db scope)

/-- The evaluation of a query makes the application.  A condition is evaluated for every row
of the source. -/
def Query.Applies (db : Database) (scope : Scope) (a : Application) : Query → Prop
  | .select _ _ source => source.Applies db scope a
  | .selectWhere _ source condition =>
    source.Applies db scope a ∨
      ∃ scopes, source.eval db scope = some scopes ∧
        ∃ inner ∈ scopes, condition.Applies db inner a
  | .ordered q _ _ => q.Applies db scope a
  | .combined _ left right => left.Applies db scope a ∨ right.Applies db scope a
  | .closure base step =>
    base.Applies db scope a ∨ ∃ known, step.Applies { db with closure := known } scope a
  | .verbatim _ => False

end

/-- Every application that the expression makes is accepted. -/
def Expr.IsSafe (db : Database) (scope : Scope) (e : Expr) : Prop :=
  ∀ a, e.Applies db scope a → a.IsAccepted

namespace Expr

variable {db : Database} {scope : Scope} {e f : Expr}

theorem isSafe_column (a : Alias) (c : Column) : (Expr.column a c).IsSafe db scope :=
  fun _ h => False.elim h

theorem isSafe_text (s : String) : (Expr.text s).IsSafe db scope :=
  fun _ h => False.elim h

theorem isSafe_literal (c : Constant) : (literal c).IsSafe db scope := by
  cases c <;> exact fun _ h => False.elim h

theorem isSafe_truth (dialect : Dialect) (b : Bool) : (Sql.truth dialect b).IsSafe db scope := by
  cases dialect <;> cases b <;> exact fun _ h => False.elim h

theorem IsSafe.group (h : e.IsSafe db scope) : (Expr.group e).IsSafe db scope := h

theorem IsSafe.not (h : e.IsSafe db scope) : (Expr.not e).IsSafe db scope := h

theorem IsSafe.isNull (h : e.IsSafe db scope) : (Expr.isNull e).IsSafe db scope := h

theorem IsSafe.isNotNull (h : e.IsSafe db scope) : (Expr.isNotNull e).IsSafe db scope := h

theorem IsSafe.binary (he : e.IsSafe db scope) (hf : f.IsSafe db scope) (op : BinaryOp) :
    (Expr.binary op e f).IsSafe db scope :=
  fun a h => h.elim (he a) (hf a)

theorem IsSafe.equal (he : e.IsSafe db scope) (s : String) :
    (e.equal (.text s)).IsSafe db scope :=
  he.binary (isSafe_text s) .eq

/-- A test is looked at only where its guard is true. -/
theorem IsSafe.guarded (he : e.IsSafe db scope)
    (hf : e.truth db scope = some .yes → f.IsSafe db scope) :
    (Expr.guarded e f).IsSafe db scope := by
  rintro a (h | ⟨hyes, h⟩)
  · exact he a h
  · exact hf hyes a h

theorem IsSafe.jsonbCast (he : e.IsSafe db scope) {w : Value} {v : Json} {type : CastType}
    (hvalue : e.eval db scope = some w) (hw : w.json? = some v)
    (haccepts : (PartialFunction.cast type).accepts v = true) :
    (Expr.jsonbCast e type).IsSafe db scope := by
  rintro ⟨function, argument⟩ (h | ⟨rfl, h⟩)
  · exact he _ h
  · cases hvalue.symm.trans h
    exact ⟨v, hw, haccepts⟩

theorem isSafe_joined {op : BinaryOp} {none : Expr} (hnone : none.IsSafe db scope)
    {es : List Expr} (h : ∀ e ∈ es, e.IsSafe db scope) :
    (Slot.joined op none es).IsSafe db scope := by
  induction es with
  | nil => exact hnone
  | cons e rest ih =>
      have he := h e List.mem_cons_self
      have hrest := ih fun f hf => h f (List.mem_cons_of_mem e hf)
      cases rest with
      | nil => exact he
      | cons f rest => exact he.binary hrest op

end Expr

namespace Slot

variable {db : Database} {scope : Scope} {s : Slot} {c : Constant}

/-- What the slot is made of applies nothing to a value of another type, and what is binary
JSON shows a value or none, unless it raises an error. -/
def IsSafe (db : Database) (scope : Scope) : Slot → Prop
  | .typed value kind => value.IsSafe db scope ∧ kind.IsSafe db scope
  | .count value => value.IsSafe db scope
  | .jsonb value =>
    value.IsSafe db scope ∧
      ∀ w, value.eval db scope = some w → ∃ found, (Slot.jsonb value).Shows db scope found

/-- What is binary JSON shows a value that fits a constant. -/
def ShowsFitting (db : Database) (scope : Scope) (c : Constant) : Slot → Prop
  | .jsonb value => ∃ w v, value.eval db scope = some w ∧ w.json? = some v ∧ c.fits v = true
  | .typed _ _ | .count _ => True

theorem IsSafe.kind (h : s.IsSafe db scope) {kind : Expr} (hkind : s.kind? = some kind) :
    kind.IsSafe db scope := by
  cases s with
  | typed value kind =>
      cases hkind
      exact h.2
  | jsonb value =>
      cases hkind
      exact h.1
  | count value => cases hkind

theorem IsSafe.guard (h : s.IsSafe db scope) {guard : Expr} (hguard : s.guard? c = some guard) :
    guard.IsSafe db scope := by
  cases s with
  | typed value kind =>
      cases c with
      | text t =>
          cases hguard
          exact h.2.equal "text"
      | int n | float x | bool b =>
          cases hguard
          exact h.2
  | jsonb value =>
      have hkind : (Expr.jsonbType value).IsSafe db scope := h.1
      cases c <;> cases hguard <;> exact hkind.equal _
  | count value => cases hguard

/-- The cast to the type of a constant is accepted where the value has that type. -/
theorem IsSafe.valueAs (h : s.IsSafe db scope) (hfitting : s.ShowsFitting db scope c) :
    (s.valueAs c).IsSafe db scope := by
  cases s with
  | typed value kind => exact h.1
  | count value => exact h
  | jsonb value =>
      obtain ⟨w, v, hvalue, hw, hfits⟩ := hfitting
      cases c with
      | text t => exact h.1
      | bool b => exact h.1.jsonbCast hvalue hw (by cases v <;> first | rfl | cases hfits)
      | int n => exact h.1.jsonbCast hvalue hw (by cases v <;> first | rfl | cases hfits)
      | float x => exact h.1.jsonbCast hvalue hw (by cases v <;> first | rfl | cases hfits)

/-- Where the guard of a constant is true the value fits the constant. -/
theorem Shows.showsFitting {value guard : Expr} {found : Option Json}
    (h : (Slot.jsonb value).Shows db scope found)
    (hguard : (Slot.jsonb value).guard? c = some guard)
    (hyes : guard.truth db scope = some .yes) :
    (Slot.jsonb value).ShowsFitting db scope c := by
  obtain ⟨t, ht, hfits, -⟩ := h.selects_guard hguard
  cases hyes.symm.trans ht
  cases h with
  | jsonb hvalue hw => exact ⟨_, _, hvalue, hw, hfits.symm⟩
  | missing => cases hfits

/-- The type of a value that raises an error is not any. -/
theorem exists_eval_of_kind {value : Expr} {name : String}
    (hyes : ((Expr.jsonbType value).equal (.text name)).truth db scope = some .yes) :
    ∃ w, value.eval db scope = some w := by
  cases hvalue : value.eval db scope with
  | some w => exact ⟨w, rfl⟩
  | none =>
      rw [Expr.truth, eval_equal_jsonbType_eq_none hvalue] at hyes
      cases hyes

/-- Behind the guard of a constant a test may cast the value to the type of the constant. -/
theorem IsSafe.guarded (h : s.IsSafe db scope) {test : Expr}
    (htest : s.ShowsFitting db scope c → test.IsSafe db scope) :
    (s.guarded c test).IsSafe db scope := by
  cases s with
  | count value => exact htest trivial
  | typed value kind =>
      obtain ⟨guard, hguard⟩ : ∃ guard, (Slot.typed value kind).guard? c = some guard := by
        cases c <;> exact ⟨_, rfl⟩
      simp only [Slot.guarded, hguard]
      exact (h.guard hguard).binary (htest trivial) .and
  | jsonb value =>
      obtain ⟨guard, hguard⟩ : ∃ guard, (Slot.jsonb value).guard? c = some guard := by
        cases c <;> exact ⟨_, rfl⟩
      simp only [Slot.guarded, hguard]
      refine (h.guard hguard).guarded fun hyes => ?_
      obtain ⟨w, hw⟩ : ∃ w, value.eval db scope = some w := by
        cases c <;> cases hguard <;> exact exists_eval_of_kind hyes
      obtain ⟨found, hfound⟩ := h.2 w hw
      exact htest (hfound.showsFitting hguard hyes)

theorem IsSafe.comparison (h : s.IsSafe db scope) (hfitting : s.ShowsFitting db scope c)
    (op : BinaryOp) : (Expr.binary op (s.valueAs c) (literal c)).IsSafe db scope :=
  (h.valueAs hfitting).binary (Expr.isSafe_literal c) op

theorem IsSafe.compare (h : s.IsSafe db scope) (op : Comparison) (c : Constant) :
    (s.compare op c).IsSafe db scope := by
  have hguarded :
      (s.guarded c (.binary (operatorOf op) (s.valueAs c) (literal c))).IsSafe db scope :=
    h.guarded fun hfitting => h.comparison hfitting (operatorOf op)
  cases s with
  | typed value kind =>
      cases c with
      | bool b => exact h.2.equal _
      | int n | float x | text t => exact hguarded
  | jsonb value | count value => exact hguarded

theorem IsSafe.matching (h : s.IsSafe db scope) (p : Pattern) (negated : Bool) :
    (s.matching p negated).IsSafe db scope := by
  apply h.guarded
  intro hfitting
  have hmatch (op : BinaryOp) (pattern : String) :
      (Expr.binary op (s.valueAs (.text "")) (.text pattern)).IsSafe db scope :=
    (h.valueAs hfitting).binary (Expr.isSafe_text pattern) op
  cases s with
  | jsonb value => exact hmatch _ _
  | typed value kind | count value =>
      cases negated with
      | false => exact hmatch .regexp _
      | true => exact (hmatch .regexp _).group.not

section Ranges

variable {low high : Constant}

/-- Both bounds of a range are compared behind the guard of the lower one. -/
theorem ShowsFitting.of_areAlike (h : s.ShowsFitting db scope low)
    (halike : low.areAlike high = true) : s.ShowsFitting db scope high := by
  have hfits : low.fits = high.fits := funext (Constant.fits_eq_of_areAlike halike)
  cases s with
  | typed value kind => trivial
  | count value => trivial
  | jsonb value =>
      obtain ⟨w, v, hvalue, hw, hlow⟩ := h
      exact ⟨w, v, hvalue, hw, hfits ▸ hlow⟩

theorem IsSafe.inRange (h : s.IsSafe db scope) (halike : low.areAlike high = true) :
    (s.inRange low high).IsSafe db scope := by
  apply h.guarded
  intro hfitting
  exact (h.comparison hfitting .ge).binary (h.comparison (hfitting.of_areAlike halike) .le) .and

theorem IsSafe.notInRange (h : s.IsSafe db scope) (halike : low.areAlike high = true) :
    (s.notInRange low high).IsSafe db scope := by
  apply h.guarded
  intro hfitting
  exact (h.comparison hfitting .lt).binary (h.comparison (hfitting.of_areAlike halike) .gt) .or

end Ranges

/-- Each member of a set has a guard of its own. -/
theorem IsSafe.inSet (h : s.IsSafe db scope) (values : List Constant) :
    (s.inSet values).IsSafe db scope := by
  apply Expr.IsSafe.group
  apply Expr.isSafe_joined (Expr.isSafe_truth .postgres false)
  intro e he
  obtain ⟨c, -, rfl⟩ := List.mem_map.mp he
  exact (h.compare .eq c).group

theorem IsSafe.notInSet (h : s.IsSafe db scope) (values : List Constant) :
    (s.notInSet values).IsSafe db scope := by
  have hset := (h.inSet values).not
  cases hkind : s.kind? with
  | none =>
      simp only [Slot.notInSet, hkind]
      exact hset
  | some kind =>
      have hnotNull := (h.kind hkind).isNotNull
      simp only [Slot.notInSet, hkind]
      exact hnotNull.binary hset .and

/-- No test of a slot casts a value of another type. -/
theorem IsSafe.test (h : s.IsSafe db scope) {t : ScalarTest} (hvalid : t.IsValid) :
    (s.test t).IsSafe db scope := by
  cases t with
  | compare op c => exact h.compare op c
  | matching p negated => exact h.matching p negated
  | inRange low high => exact h.inRange hvalid.2.2
  | notInRange low high => exact h.notInRange hvalid.2.2
  | inSet values => exact h.inSet values
  | notInSet values => exact h.notInSet values

end Slot

namespace Location

variable {db : Database} {scope : Scope} {l : Location}

/-- What the place is made of applies nothing to a value of another type, and what is binary
JSON is a value or none, unless it raises an error. -/
def IsSafe (db : Database) (scope : Scope) : Location → Prop
  | .path document _ => document.IsSafe db scope
  | .jsonb value =>
    value.IsSafe db scope ∧
      ∀ w, value.eval db scope = some w → ∃ found : Option Json, w = found.elim .null .json

/-- What is binary JSON is an array. -/
def IsArray (db : Database) (scope : Scope) : Location → Prop
  | .path _ _ => True
  | .jsonb value => ∃ items, value.eval db scope = some (.json (.array items))

theorem isSafe_ofField {document : Expr} {v : Value} {root : Json}
    (hsafe : document.IsSafe db scope) (hdocument : document.eval db scope = some v)
    (hv : v.json? = some root) (dialect : Dialect) (field : String) :
    (ofField dialect document field).IsSafe db scope := by
  cases dialect with
  | sqlite => exact hsafe
  | postgres =>
      refine ⟨hsafe, fun w hw => ⟨memberOf? field root, ?_⟩⟩
      simpa [Expr.eval, hdocument, onJson_of_json? hv, partOf] using hw.symm

theorem IsSafe.item (h : l.IsSafe db scope) (i : Int) : (l.item i).IsSafe db scope := by
  cases l with
  | path document steps => exact h
  | jsonb value =>
      refine ⟨h.1, fun w hw => ?_⟩
      obtain ⟨v, hv, hitem⟩ := exists_of_eval_jsonbItem hw
      obtain ⟨found, rfl⟩ := h.2 v hv
      rw [onJson_json, Option.some.injEq] at hitem
      exact ⟨_, hitem.symm⟩

theorem IsSafe.member (h : l.IsSafe db scope) (key : String) : (l.member key).IsSafe db scope := by
  cases l with
  | path document steps => exact h
  | jsonb value =>
      refine ⟨h.1, fun w hw => ?_⟩
      rw [Expr.eval] at hw
      obtain ⟨v, hv, hmember⟩ := Option.bind_eq_some_iff.mp hw
      obtain ⟨found, rfl⟩ := h.2 v hv
      rw [onJson_json, Option.some.injEq] at hmember
      exact ⟨_, hmember.symm⟩

theorem IsSafe.kind (h : l.IsSafe db scope) : l.kind.IsSafe db scope := by
  cases l with
  | path document steps => exact h
  | jsonb value => exact h.1

theorem IsSafe.slot (h : l.IsSafe db scope) : l.slot.IsSafe db scope := by
  cases l with
  | path document steps => exact ⟨h, h⟩
  | jsonb value =>
      refine ⟨h.1, fun w hw => ?_⟩
      obtain ⟨found, rfl⟩ := h.2 w hw
      exact ⟨found, (Finds.jsonb hw).shows_slot⟩

/-- Behind the guard for arrays a test may use what is there for arrays only. -/
theorem IsSafe.whenArray (h : l.IsSafe db scope) {test : Expr}
    (htest : l.IsArray db scope → test.IsSafe db scope) :
    (l.whenArray test).IsSafe db scope := by
  have hguard := h.kind.equal "array"
  cases l with
  | path document steps => exact hguard.binary (htest trivial) .and
  | jsonb value =>
      refine hguard.guarded fun hyes => htest ?_
      obtain ⟨w, hw⟩ := Slot.exists_eval_of_kind hyes
      obtain ⟨found, rfl⟩ := h.2 w hw
      have hfound : value.eval db scope = some (found.elim .null .json) := hw
      have hkind := Slot.eval_jsonbType (Finds.jsonb hfound).shows_slot
      obtain ⟨t, ht, harray, -⟩ := Expr.selects_equal hkind "array"
      cases hyes.symm.trans ht
      rcases found with _ | (_ | _ | _ | _ | items | _) <;> try cases harray
      exact ⟨items, hfound⟩

theorem IsSafe.length (h : l.IsSafe db scope) (harray : l.IsArray db scope) :
    l.length.IsSafe db scope := by
  cases l with
  | path document steps => exact h
  | jsonb value =>
      obtain ⟨items, hitems⟩ := harray
      rintro ⟨function, argument⟩ (ha | ⟨rfl, ha⟩)
      · exact h.1 _ ha
      · cases hitems.symm.trans ha
        exact ⟨_, rfl, rfl⟩

theorem IsSafe.items (h : l.IsSafe db scope) (harray : l.IsArray db scope) {a : Application}
    (ha : l.items.Applies db scope a) : a.IsAccepted := by
  cases l with
  | path document steps => exact h a ha
  | jsonb value =>
      obtain ⟨items, hitems⟩ := harray
      obtain ⟨function, argument⟩ := a
      rcases ha with ha | ⟨rfl, ha⟩
      · exact h.1 _ ha
      · cases hitems.symm.trans ha
        exact ⟨_, rfl, rfl⟩

/-- Every row of the items of an array shows one of them. -/
theorem IsArray.isSafe_element (harray : l.IsArray db scope) {scopes : List Scope}
    (hscopes : l.items.eval db scope = some scopes) {inner : Scope} (hinner : inner ∈ scopes) :
    l.element.IsSafe db inner := by
  cases l with
  | path document steps => exact ⟨Expr.isSafe_column _ _, Expr.isSafe_column _ _⟩
  | jsonb value =>
      obtain ⟨items, hitems⟩ := harray
      simp only [Location.items, Source.eval, hitems, Option.bind_eq_bind, Option.bind_some]
        at hscopes
      cases hscopes
      obtain ⟨fields, hfields, rfl⟩ := List.mem_map.mp hinner
      obtain ⟨item, -, rfl⟩ := List.mem_map.mp hfields
      exact ⟨Expr.isSafe_column _ _, fun _ _ => ⟨some item, .jsonb rfl rfl⟩⟩

theorem IsSafe.someItem (h : l.IsSafe db scope) (harray : l.IsArray db scope)
    {condition : Slot → Expr}
    (hcondition : ∀ inner, l.element.IsSafe db inner → (condition l.element).IsSafe db inner) :
    (l.someItem condition).IsSafe db scope := by
  rintro a (ha | ⟨scopes, hscopes, inner, hinner, ha⟩)
  · exact h.items harray ha
  · exact hcondition inner (harray.isSafe_element hscopes hinner) a ha

theorem IsSafe.meets (h : l.IsSafe db scope) {accessor : Accessor} {t : ScalarTest}
    (hvalid : t.IsValid) : (l.meets accessor t).IsSafe db scope := by
  cases accessor with
  | value => exact h.slot.test hvalid
  | index i => exact (h.item i.toInt).slot.test hvalid
  | key k => exact (h.member k).slot.test hvalid
  | any => exact h.whenArray fun harray => h.someItem harray fun _ hitem => hitem.test hvalid
  | all =>
      refine h.whenArray fun harray => (h.someItem harray fun _ hitem => ?_).not
      exact (hitem.test hvalid).group.not
  | length => exact h.whenArray fun harray => (h.length harray).test hvalid

end Location

section Forms

variable {db : Database} {scope : Scope} {document : Expr} {v : Value} {root : Json}

theorem isSafe_atomCondition (hsafe : document.IsSafe db scope)
    (hdocument : document.eval db scope = some v) (hv : v.json? = some root) (dialect : Dialect)
    {a : Atom} (hvalid : a.IsValid) : (atomCondition dialect document a).IsSafe db scope := by
  obtain ⟨field, test⟩ := a
  have hfield := Location.isSafe_ofField hsafe hdocument hv dialect field
  have hcontains (c : Constant)
      (harray : (Location.ofField dialect document field).IsArray db scope) :
      ((Location.ofField dialect document field).someItem fun item => item.compare .eq c).IsSafe
        db scope :=
    hfield.someItem harray fun _ hitem => hitem.compare .eq c
  apply Expr.IsSafe.group
  cases test with
  | scalar accessor t => exact hfield.meets hvalid.2.1
  | present => exact hfield.kind.isNotNull
  | notPresent => exact hfield.kind.isNull
  | contains c => exact hfield.whenArray fun harray => hcontains c harray
  | notContains c => exact hfield.whenArray fun harray => (hcontains c harray).not

theorem isSafe_condition (hsafe : document.IsSafe db scope)
    (hdocument : document.eval db scope = some v) (hv : v.json? = some root) (dialect : Dialect)
    {d : Dnf} (hvalid : ∀ atoms ∈ d.conjunctions, ∀ a ∈ atoms, a.IsValid) :
    (condition dialect document d).IsSafe db scope := by
  cases d with
  | always => exact Expr.isSafe_truth dialect true
  | never => exact Expr.isSafe_truth dialect false
  | anyOf conjunctions =>
      apply Expr.isSafe_joined (Expr.isSafe_truth dialect false)
      intro e he
      obtain ⟨atoms, hatoms, rfl⟩ := List.mem_map.mp he
      apply Expr.IsSafe.group
      apply Expr.isSafe_joined (Expr.isSafe_truth dialect true)
      intro f hf
      obtain ⟨a, ha, rfl⟩ := List.mem_map.mp hf
      exact isSafe_atomCondition hsafe hdocument hv dialect (hvalid atoms hatoms a ha)

end Forms

/-- On a store with binary JSON every normal form has a condition, and its text is read as
it.  Of any document the condition is evaluated without an error as long as the positions that
the form asks for are in reach, and in whatever order the operands are taken, each cast is of a
value of its type and each array function of an array. -/
theorem isAccepted_of_applies_condition {p : Predicate} {d : Dnf} (hnormal : p.normalize = .ok d)
    {db : Database} (hdialect : db.dialect = .postgres) {scope : Scope} {a : Alias} {c : Column}
    {v : Value} (hcolumn : scope.column? a c = some v) {root : Json} (hv : v.json? = some root) :
    ∃ e, condition? .postgres (.column a c) d = .ok e ∧ e.readsBack = true ∧
      ((∃ t, e.truth db scope = some t) ↔ reachesItems .postgres d = true) ∧
      ∀ application, e.Applies db scope application → application.IsAccepted := by
  have hvalid := Predicate.isValid_of_normalize hnormal
  have hdocument : (Expr.column a c).eval db scope = some v := hcolumn
  have haddress : ∀ atom ∈ d.conjunctions.flatten, isAddressable .postgres atom = true :=
    fun _ _ => rfl
  refine ⟨condition .postgres (.column a c) d, ?_, ?_, ?_, ?_⟩
  · have hnone : d.conjunctions.flatten.find? (fun atom => !isAddressable .postgres atom) = none :=
      List.find?_eq_none.mpr fun atom hatom => by simp [haddress atom hatom]
    simp only [condition?, hnone]
  · have hreads : (Expr.column a c).ReadsAt 5 := ⟨rfl, Nat.le_refl 5⟩
    exact (readsAt_condition hreads .postgres d).1
  · have hfields := Location.findsFields_of_json? hdialect hdocument hv
    rw [← hdialect] at haddress ⊢
    exact exists_truth_condition_iff hfields hvalid haddress
  · exact isSafe_condition (Expr.isSafe_column a c) hdocument hv .postgres hvalid

/-- A row of that store. -/
def binaryScope : Scope := [(.f, binaryStore.fileFields mixedFile)]

theorem isAccepted_of_applies_condition_mixed_array :
    (Predicate.not (.leaf (.compare ⟨"runs", .all⟩ (.order .lt) (.int 6)))).normalize =
        .ok mixedForm ∧
      ∃ e, condition? .postgres (.column .f .metadata) mixedForm = .ok e ∧
        e.Applies binaryStore binaryScope ⟨.cast .numeric, .json (.int 7)⟩ ∧
        ∀ application, e.Applies binaryStore binaryScope application →
          application.IsAccepted := by
  have hnormal :
      (Predicate.not (.leaf (.compare ⟨"runs", .all⟩ (.order .lt) (.int 6)))).normalize =
        .ok mixedForm := rfl
  have hcolumn : binaryScope.column? .f .metadata = some (.document mixedFile.metadata) := rfl
  have hroot : (Value.document mixedFile.metadata).json? =
      some (.object [("runs", .array [.int 7, .string "x", .null])]) := rfl
  have hdialect : binaryStore.dialect = .postgres := rfl
  obtain ⟨e, he, -, -, hsafe⟩ :=
    isAccepted_of_applies_condition hnormal hdialect hcolumn hroot
  refine ⟨hnormal, e, he, ?_, hsafe⟩
  obtain ⟨rfl, -⟩ := isAddressable_of_condition? he
  -- The guard of the array is true of the runs and that of the number is true of the first.
  exact .inr ⟨rfl, .inr ⟨_, rfl, _, List.mem_cons_self, .inr ⟨rfl, .inl (.inr ⟨rfl, rfl⟩)⟩⟩⟩

end CatalogQuery.Sql
