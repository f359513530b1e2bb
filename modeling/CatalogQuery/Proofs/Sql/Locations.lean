/-
Tests of places in a document.  A place is found by its steps in the document or is
missing; items of an array are looked at one by one in rows of their own.
-/
import CatalogQuery.Proofs.Sql.Slots
import Mathlib.Data.List.Forall2

namespace CatalogQuery.Sql

theorem lookup_eq_get? (key : String) (members : List (String × Json)) :
    members.lookup key = Assoc.get? key members := by
  induction members with
  | nil => rfl
  | cons head tail ih =>
      obtain ⟨k, v⟩ := head
      simp only [List.lookup_cons, Assoc.get?]
      by_cases h : key = k
      · subst h
        simp
      · have hkey : (key == k) = false := by simp [h]
        simp [hkey, h, ih]

theorem itemOf?_array (items : List Json) (i : Int) :
    itemOf? i (.array items) = Accessor.itemAt? items i := by
  simp only [itemOf?, Accessor.itemAt?]
  by_cases hi : 0 ≤ i
  · simp [hi]
  · simp only [hi, if_false]
    split
    · rename_i hle
      rw [List.getElem?_reverse (by omega)]
      congr 1
      omega
    · rename_i hlt
      simp only [List.getElem?_eq_none_iff, List.length_reverse]
      omega

theorem valueAt?_append (steps : List PathStep) (step : PathStep) (v : Json) :
    valueAt? (steps ++ [step]) v = (valueAt? steps v).bind step.follow? := by
  simp [valueAt?, List.foldlM_append]

theorem atPath_of_json? {steps : List PathStep} (hsteps : steps.all PathStep.isQuotable = true)
    {w : Value} {root : Json} (h : w.json? = some root) (f : Json → Value) :
    atPath steps f w = some ((valueAt? steps root).elim .null f) := by
  simp only [atPath, hsteps, if_true]
  cases w <;> cases h <;> rfl

theorem itemsAt_of_json? {steps : List PathStep} (hsteps : steps.all PathStep.isQuotable = true)
    {w : Value} {root : Json} (h : w.json? = some root) :
    itemsAt steps w = some ((valueAt? steps root).elim [] itemFields) := by
  simp only [itemsAt, hsteps, if_true]
  cases w <;> cases h <;> rfl

variable {db : Database} {scope : Scope}

namespace Location

/-- What is found at a place: a value, or nothing. -/
inductive Finds (db : Database) (scope : Scope) : Location → Option Json → Prop
  | path {document : Expr} {steps : List PathStep} {w : Value} {root : Json}
      (hdialect : db.dialect = .sqlite) (hdocument : document.eval db scope = some w)
      (hw : w.json? = some root) (hsteps : steps.all PathStep.isQuotable = true) :
      Finds db scope (.path document steps) (valueAt? steps root)
  | jsonb {value : Expr} {found : Option Json}
      (hvalue : value.eval db scope = some (found.elim .null .json)) :
      Finds db scope (.jsonb value) found

variable {l : Location} {found : Option Json}

theorem isQuotable_append {steps : List PathStep} {step : PathStep}
    (hsteps : steps.all PathStep.isQuotable = true) (hstep : step.isQuotable = true) :
    (steps ++ [step]).all PathStep.isQuotable = true := by
  simp only [List.all_append, hsteps, List.all_cons, hstep, List.all_nil, Bool.and_self]

theorem finds_ofField {document : Expr} {w : Value} {m : Metadata} {field : String}
    (hdocument : document.eval db scope = some w) (hw : w.json? = some (.object m))
    (hfield : db.dialect = .sqlite → field.contains '"' = false) :
    (ofField db.dialect document field).Finds db scope (Assoc.get? field m) := by
  cases hdialect : db.dialect with
  | sqlite =>
      have hsteps : [PathStep.key field].all PathStep.isQuotable = true := by
        simp [PathStep.isQuotable, hfield hdialect]
      have hfound : valueAt? [.key field] (.object m) = Assoc.get? field m := by
        simp [valueAt?, PathStep.follow?, memberOf?, lookup_eq_get?]
      rw [← hfound]
      exact .path hdialect hdocument hw hsteps
  | postgres =>
      apply Finds.jsonb
      simp [Expr.eval, hdocument, onJson_of_json? hw, partOf, memberOf?, lookup_eq_get?]

/-- The fields of a document are those that are given. -/
def FindsFields (db : Database) (scope : Scope) (document : Expr) (fields : Metadata) : Prop :=
  ∀ field, (db.dialect = .sqlite → field.contains '"' = false) →
    (ofField db.dialect document field).Finds db scope (Assoc.get? field fields)

theorem findsFields_of_object {document : Expr} {w : Value} {m : Metadata}
    (hdocument : document.eval db scope = some w) (hw : w.json? = some (.object m)) :
    FindsFields db scope document m :=
  fun _ hfield => finds_ofField hdocument hw hfield

/-- The members of an object.  What is no object has no members. -/
def membersOf : Json → Metadata
  | .object members => members
  | _ => []

/-- Binary JSON of any kind is looked into for a field. -/
theorem findsFields_of_json? {document : Expr} {w : Value} {root : Json}
    (hdialect : db.dialect = .postgres) (hdocument : document.eval db scope = some w)
    (hw : w.json? = some root) : FindsFields db scope document (membersOf root) := by
  intro field _
  have hfound : memberOf? field root = Assoc.get? field (membersOf root) := by
    cases root <;> first | exact lookup_eq_get? _ _ | rfl
  rw [hdialect, ← hfound]
  apply Finds.jsonb
  simp [Expr.eval, hdocument, onJson_of_json? hw, partOf]

theorem onJson_json (f : Json → Option Json) (found : Option Json) :
    onJson (fun v => partOf (f v)) (found.elim .null .json) =
      some ((found.bind f).elim .null .json) := by
  cases found <;> rfl

theorem Finds.item (h : l.Finds db scope found) {i : Int}
    (hreach : ∀ value, l = .jsonb value → fitsInt32 i = true) :
    (l.item i).Finds db scope (found.bind (itemOf? i)) := by
  cases h with
  | @path document steps w root hdialect hdocument hw hsteps =>
      have hfound : valueAt? (steps ++ [.item i]) root = (valueAt? steps root).bind (itemOf? i) :=
        valueAt?_append steps (.item i) root
      rw [← hfound]
      exact .path hdialect hdocument hw (isQuotable_append hsteps rfl)
  | jsonb hvalue =>
      apply Finds.jsonb
      simp only [Expr.eval, hvalue, Option.bind_eq_bind, Option.bind_some, hreach _ rfl, if_true,
        onJson_json]

theorem Finds.member (h : l.Finds db scope found) {key : String}
    (hkey : db.dialect = .sqlite → key.contains '"' = false) :
    (l.member key).Finds db scope (found.bind (memberOf? key)) := by
  cases h with
  | @path document steps w root hdialect hdocument hw hsteps =>
      have hfound : valueAt? (steps ++ [.key key]) root =
          (valueAt? steps root).bind (memberOf? key) :=
        valueAt?_append steps (.key key) root
      rw [← hfound]
      refine .path hdialect hdocument hw (isQuotable_append hsteps ?_)
      simp [PathStep.isQuotable, hkey hdialect]
  | jsonb hvalue =>
      apply Finds.jsonb
      simp only [Expr.eval, hvalue, Option.bind_eq_bind, Option.bind_some, onJson_json]

theorem Finds.shows_slot (h : l.Finds db scope found) : l.slot.Shows db scope found := by
  cases h with
  | path hdialect hdocument hw hsteps =>
      apply Slot.Shows.typed hdialect
      · simp only [Expr.eval, hdocument, Option.bind_eq_bind, Option.bind_some,
          atPath_of_json? hsteps hw]
      · simp only [Expr.eval, hdocument, Option.bind_eq_bind, Option.bind_some,
          atPath_of_json? hsteps hw, kindOf]
  | jsonb hvalue =>
      cases found with
      | none => exact .missing hvalue
      | some v => exact .jsonb hvalue rfl

/-- Whether a value is an array with some property. -/
def onItems (holds : List Json → Bool) : Json → Bool
  | .array items => holds items
  | _ => false

theorem Finds.exists_kind (h : l.Finds db scope found) :
    ∃ name, l.kind.eval db scope = some (kindOf name found) ∧
      ∀ v, decide (name v = "array") = onItems (fun _ => true) v := by
  cases l with
  | path document steps =>
      cases h.shows_slot with
      | typed _ _ hkind =>
          refine ⟨typeName, hkind, fun v => ?_⟩
          fun_cases typeName v <;> rfl
  | jsonb value =>
      refine ⟨binaryTypeName, Slot.eval_jsonbType h.shows_slot, fun v => ?_⟩
      fun_cases binaryTypeName v <;> rfl

theorem any_onItems (holds : List Json → Bool) (found : Option Json) :
    found.any (onItems holds) =
      (found.any (onItems fun _ => true) && found.any (onItems holds)) := by
  rcases found with _ | (_ | _ | _ | _ | _ | _) <;> rfl

/-- A test of an array, guarded by the type. -/
theorem Finds.selects_whenArray (h : l.Finds db scope found) {test : Expr}
    {holds : List Json → Bool}
    (hraise : ∀ document steps, l = .path document steps → ∃ t, test.truth db scope = some t)
    (htest : ∀ items, found = some (.array items) →
      test.truth db scope = some (.ofBool (holds items))) :
    (l.whenArray test).Selects db scope found.isSome (found.any (onItems holds)) := by
  obtain ⟨name, hkind, hname⟩ := h.exists_kind
  have hguard := Expr.selects_equal hkind "array"
  simp only [hname] at hguard
  have hpass : found.any (onItems fun _ => true) = true →
      test.Selects db scope found.isSome (found.any (onItems holds)) := by
    intro harray
    rcases found with _ | (_ | _ | _ | _ | items | _) <;> try cases harray
    exact .of_truth (htest items rfl)
  rw [any_onItems]
  cases l with
  | path document steps => exact hguard.guard_and (fun _ => hraise document steps rfl) hpass
  | jsonb value => exact hguard.guarded hpass

theorem Finds.eval_length {document : Expr} {steps : List PathStep}
    (h : (Location.path document steps).Finds db scope found) :
    (Expr.jsonArrayLength document steps).eval db scope = some (found.elim .null lengthOf) := by
  cases h with
  | path hdialect hdocument hw hsteps =>
      simp only [Expr.eval, hdocument, Option.bind_eq_bind, Option.bind_some,
        atPath_of_json? hsteps hw]

theorem Finds.shows_length {items : List Json} (h : l.Finds db scope (some (.array items))) :
    l.length.Shows db scope (some (.int items.length)) := by
  cases l with
  | path document steps => exact .count h.eval_length
  | jsonb value =>
      cases h with
      | jsonb hvalue =>
          apply Slot.Shows.count
          simp only [Expr.eval, hvalue, Option.bind_eq_bind, Option.bind_some]
          rfl

theorem exists_lengthOf (v : Json) : ∃ n, lengthOf v = .int n := by
  cases v <;> exact ⟨_, rfl⟩

/-- A test of the number of items. -/
theorem Finds.selects_length (h : l.Finds db scope found) {t : ScalarTest} (hvalid : t.IsValid)
    (hintegral : t.isIntegral = true) :
    (l.whenArray (l.length.test t)).Selects db scope found.isSome
      (found.any (Accessor.length.meets t)) := by
  have hmeets : found.any (Accessor.length.meets t) =
      found.any (onItems fun items => t.passes (.int items.length)) := by
    rcases found with _ | (_ | _ | _ | _ | _ | _) <;> rfl
  rw [hmeets]
  apply h.selects_whenArray
  · rintro document steps rfl
    have hlength := h.eval_length
    cases found with
    | none => exact Slot.exists_truth_test_of_null hlength hintegral
    | some v =>
        obtain ⟨n, hn⟩ := exists_lengthOf v
        have hshows : (Slot.count (.jsonArrayLength document steps)).Shows db scope
            (some (.int n)) := .count (hlength.trans (congrArg some hn))
        obtain ⟨u, hu, -⟩ := hshows.selects_test hvalid fun _ _ => hintegral
        exact ⟨u, hu⟩
  · rintro items rfl
    have htest := h.shows_length.selects_test hvalid fun _ _ => hintegral
    exact htest.truth_eq

/-- The values that a document unfolds to: the items of an array, the members of an object,
or the value itself. -/
def unfolded : Json → List Json
  | .array items => items
  | .object members => members.map Prod.snd
  | v => [v]

/-- The columns of an item tell its value and its type. -/
def IsItem (fields : Fields) (v : Json) : Prop :=
  fields.get? .value = some (extracted v) ∧ fields.get? .type = some (.text (typeName v))

theorem itemFields_unfolded (v : Json) : List.Forall₂ IsItem (itemFields v) (unfolded v) := by
  cases v with
  | array items =>
      simp only [itemFields, unfolded]
      generalize 0 = start
      induction items generalizing start with
      | nil => exact .nil
      | cons item rest ih => exact .cons ⟨rfl, rfl⟩ (ih (start + 1))
  | object members =>
      simp only [itemFields, unfolded]
      induction members with
      | nil => exact .nil
      | cons head tail ih => exact .cons ⟨rfl, rfl⟩ ih
  | null | bool | number | string => exact .cons ⟨rfl, rfl⟩ .nil

/-- Each row of the items shows an item. -/
def ShowsItems (db : Database) (element : Slot) (scopes : List Scope) (items : List Json) : Prop :=
  List.Forall₂ (fun inner item => element.Shows db inner (some item)) scopes items

theorem showsItems_path {document : Expr} {steps : List PathStep} (hdialect : db.dialect = .sqlite)
    {rows : List Fields} {items : List Json} (h : List.Forall₂ IsItem rows items) :
    ShowsItems db (Location.path document steps).element (withRows scope .e rows) items := by
  apply List.forall₂_map_left_iff.mpr
  apply h.imp
  rintro fields item ⟨hvalue, htype⟩
  exact .typed hdialect hvalue htype

theorem showsItems_jsonb (value : Expr) (items : List Json) :
    ShowsItems db (Location.jsonb value).element
      (withRows scope .e (items.map fun item => fieldsOf [(.item, .json item)])) items := by
  apply List.forall₂_map_left_iff.mpr
  apply List.forall₂_map_left_iff.mpr
  apply List.forall₂_same.mpr
  intro item _
  exact .jsonb rfl rfl

/-- The rows of the items of what is found, where these can be told. -/
theorem Finds.exists_items (h : l.Finds db scope found)
    (harray : ∀ value, l = .jsonb value → ∃ items, found = some (.array items)) :
    ∃ scopes, l.items.eval db scope = some scopes ∧
      ShowsItems db l.element scopes (found.elim [] unfolded) := by
  cases h with
  | @path document steps w root hdialect hdocument hw hsteps =>
      have hrows : List.Forall₂ IsItem ((valueAt? steps root).elim [] itemFields)
          ((valueAt? steps root).elim [] unfolded) := by
        cases valueAt? steps root with
        | none => exact .nil
        | some v => exact itemFields_unfolded v
      refine ⟨withRows scope .e _, ?_, showsItems_path hdialect hrows⟩
      simp only [items, Source.eval, hdocument, Option.bind_eq_bind, Option.bind_some,
        itemsAt_of_json? hsteps hw]
      rfl
  | @jsonb value found hvalue =>
      obtain ⟨items, rfl⟩ := harray value rfl
      refine ⟨withRows scope .e _, ?_, showsItems_jsonb value items⟩
      simp only [Location.items, Source.eval, hvalue, Option.bind_eq_bind, Option.bind_some]
      rfl

/-- Only rows where the condition is true are kept. -/
theorem exists_keepWhere {condition : Expr} {p : Json → Bool} {scopes : List Scope}
    {items : List Json}
    (h : List.Forall₂ (fun inner item => condition.Selects db inner true (p item)) scopes items) :
    ∃ kept, keepWhere (fun inner => condition.eval db inner) scopes = some kept ∧
      kept.isEmpty = !items.any p := by
  induction h with
  | nil => exact ⟨[], rfl, rfl⟩
  | @cons inner item scopes items hitem hrest ih =>
      obtain ⟨kept, hkept, hempty⟩ := ih
      obtain ⟨v, hv, ht⟩ := Option.bind_eq_some_iff.mp hitem.truth_eq
      cases hp : p item with
      | true =>
          refine ⟨inner :: kept, ?_, by simp [hp]⟩
          simp [keepWhere, hv, ht, hp, hkept, Truth.ofBool]
      | false =>
          refine ⟨kept, ?_, by simp [hp, hempty]⟩
          simp [keepWhere, hv, ht, hp, hkept, Truth.ofBool]

theorem returnedRows_one (scopes : List Scope) :
    returnedRows [.one] scopes = some (scopes.map fun inner => (inner, [(none, .int 1)])) := by
  exact List.mapM_pure

theorem selects_exists {source : Source} {condition : Expr} {p : Json → Bool}
    {scopes : List Scope} {items : List Json} (hsource : source.eval db scope = some scopes)
    (h : List.Forall₂ (fun inner item => condition.Selects db inner true (p item)) scopes items) :
    (Expr.exists_ (.selectWhere [.one] source condition)).truth db scope =
      some (.ofBool (items.any p)) := by
  obtain ⟨kept, hkept, hempty⟩ := exists_keepWhere h
  apply Expr.truth_of_eval_truth
  simp [Expr.eval, Query.eval, hsource, hkept, returnedRows_one, hempty]

/-- Whether some item meets a condition. -/
theorem Finds.truth_someItem (h : l.Finds db scope found)
    (harray : ∀ value, l = .jsonb value → ∃ items, found = some (.array items))
    {condition : Slot → Expr} {p : Json → Bool}
    (hcondition : ∀ inner item, l.element.Shows db inner (some item) →
      (condition l.element).Selects db inner true (p item)) :
    (l.someItem condition).truth db scope =
      some (.ofBool ((found.elim [] unfolded).any p)) := by
  obtain ⟨scopes, hscopes, hshows⟩ := h.exists_items harray
  exact selects_exists hscopes (hshows.imp fun inner item hitem => hcondition inner item hitem)

theorem Finds.selects_some (h : l.Finds db scope found) {condition : Slot → Expr}
    {p : Json → Bool}
    (hcondition : ∀ inner item, l.element.Shows db inner (some item) →
      (condition l.element).Selects db inner true (p item)) :
    (l.whenArray (l.someItem condition)).Selects db scope found.isSome
      (found.any (onItems fun items => items.any p)) := by
  apply h.selects_whenArray
  · rintro document steps rfl
    exact ⟨_, h.truth_someItem nofun hcondition⟩
  · rintro items rfl
    exact h.truth_someItem (fun _ _ => ⟨items, rfl⟩) hcondition

theorem Finds.selects_none (h : l.Finds db scope found) {condition : Slot → Expr}
    {p : Json → Bool}
    (hcondition : ∀ inner item, l.element.Shows db inner (some item) →
      (condition l.element).Selects db inner true (p item)) :
    (l.whenArray (.not (l.someItem condition))).Selects db scope found.isSome
      (found.any (onItems fun items => !items.any p)) := by
  apply h.selects_whenArray
  · rintro document steps rfl
    exact ⟨_, Expr.truth_not (h.truth_someItem nofun hcondition)⟩
  · rintro items rfl
    rw [Truth.ofBool_not]
    exact Expr.truth_not (h.truth_someItem (fun _ _ => ⟨items, rfl⟩) hcondition)

end Location

end CatalogQuery.Sql
