/-
Conditions of normal forms.  The condition of an atom selects the documents in which the
atom holds, whatever the type of the value is and whether there is one; a conjunction of
atoms and a disjunction of those then selects what the normal form holds of.
-/
import CatalogQuery.Proofs.Sql.Brackets
import CatalogQuery.Proofs.Sql.ItemReach

namespace CatalogQuery.Sql

variable {db : Database} {scope : Scope}

namespace Location

variable {l : Location} {found : Option Json}

theorem slot_ne_count (l : Location) (value : Expr) : l.slot ≠ .count value := by
  cases l <;> exact nofun

theorem element_ne_count (l : Location) (value : Expr) : l.element ≠ .count value := by
  cases l <;> exact nofun

theorem any_meets_index (i : Int64) (t : ScalarTest) (found : Option Json) :
    found.any ((Accessor.index i).meets t) = (found.bind (itemOf? i.toInt)).any t.passes := by
  rcases found with _ | (_ | _ | _ | _ | items | _) <;> try rfl
  simp only [Option.any_some, Option.bind_some, itemOf?_array, Accessor.meets]
  cases Accessor.itemAt? items i.toInt <;> rfl

theorem any_meets_key (k : String) (t : ScalarTest) (found : Option Json) :
    found.any ((Accessor.key k).meets t) = (found.bind (memberOf? k)).any t.passes := by
  rcases found with _ | (_ | _ | _ | _ | _ | members) <;> try rfl
  simp only [Option.any_some, Option.bind_some, memberOf?, lookup_eq_get?, Accessor.meets]
  cases Assoc.get? k members <;> rfl

theorem any_meets_value (t : ScalarTest) (found : Option Json) :
    found.any (Accessor.value.meets t) = found.any t.passes := by
  cases found <;> rfl

theorem any_meets_any (t : ScalarTest) (found : Option Json) :
    found.any (Accessor.any.meets t) = found.any (onItems fun items => items.any t.passes) := by
  rcases found with _ | (_ | _ | _ | _ | _ | _) <;> rfl

theorem any_meets_all (t : ScalarTest) (found : Option Json) :
    found.any (Accessor.all.meets t) =
      found.any (onItems fun items => !items.any fun item => !t.passes item) := by
  rcases found with _ | (_ | _ | _ | _ | items | _) <;> try rfl
  simp only [Option.any_some, onItems, Accessor.meets]
  rw [List.not_any_eq_all_not]
  simp

/-- A test of what an accessor finds in the value at a place. -/
theorem Finds.selects_meets (h : l.Finds db scope found) {accessor : Accessor} {t : ScalarTest}
    (hvalid : (Test.scalar accessor t).IsValid)
    (hkey : ∀ k, accessor = .key k → db.dialect = .sqlite → k.contains '"' = false)
    (hindex : ∀ i, accessor = .index i → ∀ value, l = .jsonb value →
      fitsInt32 i.toInt = true) :
    (l.meets accessor t).Selects db scope false (found.any (accessor.meets t)) := by
  obtain ⟨htest, hlength⟩ := hvalid
  have hitem (inner : Scope) (item : Json) (hshows : l.element.Shows db inner (some item)) :
      (l.element.test t).Selects db inner true (t.passes item) :=
    hshows.selects_test htest fun value hs => absurd hs (element_ne_count l value)
  cases accessor with
  | value =>
      have hslot := h.shows_slot.selects_test htest fun value hs =>
        absurd hs (slot_ne_count l value)
      rw [any_meets_value]
      exact hslot.weaken
  | index i =>
      have hslot := (h.item (hindex i rfl)).shows_slot.selects_test htest
        fun value hs => absurd hs (slot_ne_count _ value)
      rw [any_meets_index]
      exact hslot.weaken
  | key k =>
      have hslot := (h.member (hkey k rfl)).shows_slot.selects_test htest
        fun value hs => absurd hs (slot_ne_count _ value)
      rw [any_meets_key]
      exact hslot.weaken
  | any =>
      rw [any_meets_any]
      exact (h.selects_some hitem).weaken
  | all =>
      rw [any_meets_all]
      exact (h.selects_none fun inner item hshows => (hitem inner item hshows).group.not).weaken
  | length => exact (h.selects_length htest (hlength rfl)).weaken

end Location

theorem holds_scalar (accessor : Accessor) (t : ScalarTest) (found : Option Json) :
    (Test.scalar accessor t).holds found = found.any (accessor.meets t) := by
  cases found <;> rfl

theorem holds_contains (c : Constant) (found : Option Json) :
    (Test.contains c).holds found =
      found.any (Location.onItems fun items => items.any (ScalarTest.compare .eq c).passes) := by
  rcases found with _ | (_ | _ | _ | _ | items | _) <;> try rfl
  simp only [Option.any_some, Location.onItems, ScalarTest.passes_compare_eq]
  rfl

theorem holds_notContains (c : Constant) (found : Option Json) :
    (Test.notContains c).holds found =
      found.any (Location.onItems fun items => !items.any (ScalarTest.compare .eq c).passes) := by
  rcases found with _ | (_ | _ | _ | _ | items | _) <;> try rfl
  simp only [Option.any_some, Location.onItems, ScalarTest.passes_compare_eq]
  rfl

theorem field_of_isAddressable {a : Atom} (h : isAddressable .sqlite a = true) :
    a.field.contains '"' = false := by
  simp only [isAddressable, Bool.and_eq_true, Bool.not_eq_true'] at h
  exact h.1

theorem key_of_isAddressable {field k : String} {t : ScalarTest}
    (h : isAddressable .sqlite ⟨field, .scalar (.key k) t⟩ = true) : k.contains '"' = false := by
  simp only [isAddressable, Bool.and_eq_true, Bool.not_eq_true'] at h
  exact h.2

/-- Fields are found in binary JSON on one of the dialects only. -/
theorem fitsInt32_of_reachesItem {field : String} {i : Int64} {t : ScalarTest}
    {dialect : Dialect} (h : reachesItem dialect ⟨field, .scalar (.index i) t⟩ = true)
    {document value : Expr} (hlocation : Location.ofField dialect document field = .jsonb value) :
    fitsInt32 i.toInt = true := by
  cases dialect with
  | sqlite => cases hlocation
  | postgres => exact h

section Forms

variable {document : Expr} {v : Value} {m : Metadata}

/-- The condition of an atom selects the documents in which the atom holds. -/
theorem selects_atomCondition (hdocument : Location.FindsFields db scope document m) {a : Atom}
    (hvalid : a.IsValid) (haddress : isAddressable db.dialect a = true)
    (hreach : reachesItem db.dialect a = true) :
    (atomCondition db.dialect document a).Selects db scope false (a.holds m) := by
  obtain ⟨field, test⟩ := a
  have hfinds := hdocument field fun hdialect => field_of_isAddressable (hdialect ▸ haddress)
  have hcompare (c : Constant) (inner : Scope) (item : Json)
      (hshows : (Location.ofField db.dialect document field).element.Shows db inner (some item)) :
      ((Location.ofField db.dialect document field).element.compare .eq c).Selects db inner true
        ((ScalarTest.compare .eq c).passes item) :=
    hshows.selects_compare (fun _ _ => Or.inl rfl)
      fun value hs => absurd hs (Location.element_ne_count _ value)
  apply Expr.Selects.group
  simp only [Atom.holds]
  cases test with
  | scalar accessor t =>
      rw [holds_scalar]
      apply hfinds.selects_meets hvalid.2
      · rintro k rfl hdialect
        exact key_of_isAddressable (hdialect ▸ haddress)
      · rintro i rfl value hlocation
        exact fitsInt32_of_reachesItem hreach hlocation
  | present =>
      obtain ⟨name, hkind, -⟩ := hfinds.exists_kind
      exact Expr.selects_isNotNull hkind
  | notPresent =>
      obtain ⟨name, hkind, -⟩ := hfinds.exists_kind
      exact Expr.selects_isNull hkind
  | contains c =>
      rw [holds_contains]
      exact (hfinds.selects_some (hcompare c)).weaken
  | notContains c =>
      rw [holds_notContains]
      exact (hfinds.selects_none (hcompare c)).weaken

theorem selects_truth (known b : Bool) : (truth db.dialect b).Selects db scope known b := by
  apply Expr.Selects.of_truth
  cases hdialect : db.dialect <;> cases b <;> rfl

theorem selects_condition (hdocument : Location.FindsFields db scope document m) {d : Dnf}
    (hvalid : ∀ atoms ∈ d.conjunctions, ∀ a ∈ atoms, a.IsValid)
    (haddress : ∀ a ∈ d.conjunctions.flatten, isAddressable db.dialect a = true)
    (hreach : reachesItems db.dialect d = true) :
    (condition db.dialect document d).Selects db scope false (d.holds m) := by
  cases d with
  | always => exact selects_truth false true
  | never => exact selects_truth false false
  | anyOf conjunctions =>
      apply Expr.selects_joined_or
      · exact selects_truth false false
      · intro atoms hatoms
        apply Expr.Selects.group
        apply Expr.selects_joined_and
        · exact selects_truth false true
        · intro a ha
          apply selects_atomCondition hdocument (hvalid atoms hatoms a ha)
          · exact haddress a (List.mem_flatten.mpr ⟨atoms, hatoms, ha⟩)
          · exact reachesItem_of_mem hreach hatoms ha

/-- The condition has a truth value exactly if all positions are in reach. -/
theorem exists_truth_condition_iff (hdocument : Location.FindsFields db scope document m)
    {d : Dnf} (hvalid : ∀ atoms ∈ d.conjunctions, ∀ a ∈ atoms, a.IsValid)
    (haddress : ∀ a ∈ d.conjunctions.flatten, isAddressable db.dialect a = true) :
    (∃ t, (condition db.dialect document d).truth db scope = some t) ↔
      reachesItems db.dialect d = true := by
  constructor
  · rintro ⟨t, ht⟩
    by_contra hreach
    have hnone : (condition db.dialect document d).eval db scope = none :=
      eval_condition_eq_none hvalid (Bool.eq_false_of_not_eq_true hreach) document
    rw [Expr.truth, hnone] at ht
    cases ht
  · intro hreach
    obtain ⟨t, ht, -⟩ := selects_condition hdocument hvalid haddress hreach
    exact ⟨t, ht⟩

theorem isAddressable_of_condition? {dialect : Dialect} {d : Dnf} {e : Expr}
    (h : condition? dialect document d = .ok e) :
    e = condition dialect document d ∧
      ∀ a ∈ d.conjunctions.flatten, isAddressable dialect a = true := by
  unfold condition? at h
  split at h
  · cases h
  · rename_i hnone
    cases h
    refine ⟨rfl, fun a ha => ?_⟩
    simpa using List.find?_eq_none.mp hnone a ha

end Forms

/-- A file with runs of different types. -/
def mixedFile : CatalogFile where
  id := "a"
  space := "s"
  name := "n"
  size := none
  metadata :=
    ⟨"\x7b\"runs\":[7,\"x\",null]\x7d",
      .object [("runs", .array [.int 7, .string "x", .null])], rfl⟩
  isObject := ⟨_, rfl⟩
  retired := false

def mixedStore : Database where
  dialect := .sqlite
  catalog :=
    { files := [mixedFile]
      ids_nodup := by decide
      datasets := []
      memberships := []
      edges := []
      datasetEdges := []
      parents := fun _ => .emptyArray
      parents_value := fun _ _ => rfl
      children := fun _ => .emptyArray
      children_value := fun _ _ => rfl }
  patterns := .standard

/-- Not all runs are numbers below six. -/
def mixedForm : Dnf :=
  .anyOf [[⟨"runs", .scalar .any (.compare .ge (.int 6))⟩]]

def binaryStore : Database := { mixedStore with dialect := .postgres }

end CatalogQuery.Sql
