/-
Faults of predicates.  Whether a predicate is refused, and on which grounds, is settled by its
leaves and its empty disjunctions as they stand, from left to right; no negation around them
matters.  What is accepted keeps its operators: comparisons come of comparisons and tests of
patterns of patterns.
-/
import CatalogQuery.Proofs.Negation
import CatalogQuery.Proofs.Validation

namespace CatalogQuery

namespace Leaf

variable {l : Leaf}

/-- The failure says what is wrong with the leaf. -/
def IsBlamedBy (l : Leaf) (f : Failure) : Prop :=
  ∃ fault, f = .malformedPredicate l.describe fault

theorem isBlamedBy_error (l : Leaf) {α : Type} (fault : PredicateFault) :
    FailsOnly l.IsBlamedBy (.error (.malformedPredicate l.describe fault) : Except Failure α) :=
  .error ⟨fault, rfl⟩

theorem failsOnly_checkField (name : String) : FailsOnly l.IsBlamedBy (l.checkField name) := by
  rw [checkField]
  split
  · exact l.isBlamedBy_error _
  · exact .ok ()

theorem failsOnly_checkConstant (c : Constant) :
    FailsOnly l.IsBlamedBy (l.checkConstant c) := by
  rw [checkConstant]
  split
  · exact .ok ()
  · exact l.isBlamedBy_error _

theorem failsOnly_ofScalar (scalar : Scalar) (t : ScalarTest) :
    FailsOnly l.IsBlamedBy (l.ofScalar scalar t) := by
  refine (failsOnly_checkField scalar.name).bind fun _ => ?_
  split
  · exact l.isBlamedBy_error _
  · exact .ok _

theorem failsOnly_ofField (name : String) (t : Test) :
    FailsOnly l.IsBlamedBy (l.ofField name t) :=
  (failsOnly_checkField name).bind fun _ => .ok _

theorem failsOnly_checkBounds (low high : Constant) :
    FailsOnly l.IsBlamedBy (l.checkBounds low high) := by
  refine (failsOnly_checkConstant low).bind fun _ => (failsOnly_checkConstant high).bind fun _ => ?_
  split
  · exact .ok ()
  · split
    · exact .ok ()
    · exact l.isBlamedBy_error _

theorem failsOnly_checkSet (values : List Constant) :
    FailsOnly l.IsBlamedBy (l.checkSet values) := by
  rw [checkSet]
  split
  · exact l.isBlamedBy_error _
  · exact FailsOnly.forM failsOnly_checkConstant values

theorem failsOnly_comparisonTest (op : Operator) (value : Constant) :
    FailsOnly l.IsBlamedBy (l.comparisonTest op value) := by
  cases op with
  | pattern ignoreCase negated =>
      cases value <;> simp only [comparisonTest]
      case text source =>
        split
        · exact .ok _
        · exact l.isBlamedBy_error _
      all_goals exact l.isBlamedBy_error _
  | order c =>
      refine (failsOnly_checkConstant value).bind fun _ => ?_
      split
      · split
        · exact .ok _
        · exact l.isBlamedBy_error _
      · exact .ok _

/-- Whatever is wrong with a leaf, the failure names it. -/
theorem failsOnly_toAtom (l : Leaf) : FailsOnly l.IsBlamedBy l.toAtom := by
  cases l with
  | compare scalar op value =>
      exact (failsOnly_comparisonTest op value).bind fun t => failsOnly_ofScalar scalar t
  | inRange scalar low high | notInRange scalar low high =>
      exact (failsOnly_checkBounds low high).bind fun _ => failsOnly_ofScalar scalar _
  | inSet scalar values | notInSet scalar values =>
      exact (failsOnly_checkSet values).bind fun _ => failsOnly_ofScalar scalar _
  | present name | notPresent name => exact failsOnly_ofField name _
  | arrayContains name value | arrayNotContains name value =>
      exact (failsOnly_checkConstant value).bind fun _ => failsOnly_ofField name _

end Leaf

theorem Pattern.eq_of_compile? {ignoreCase : Bool} {source : String} {p : Pattern}
    (h : compile? ignoreCase source = some p) :
    p.ignoreCase = ignoreCase ∧ p.source = source := by
  unfold compile? at h
  split at h
  · cases h
  · cases h
    exact ⟨rfl, rfl⟩

/-- The comparisons and the tests of patterns among the atoms are made of the leaves that have
such an operator, a comparison perhaps turned into its negation. -/
def Atom.KeepsOperator (leaves : List Leaf) (a : Atom) : Prop :=
  match a.test with
  | .scalar _ (.compare c v) =>
    ∃ scalar d, .compare scalar (.order d) v ∈ leaves ∧ (c = d ∨ c = d.negate)
  | .scalar _ (.matching p _) =>
    ∃ scalar negated, .compare scalar (.pattern p.ignoreCase negated) (.text p.source) ∈ leaves
  | _ => True

namespace Leaf

variable {l : Leaf} {a : Atom} {leaves : List Leaf}

theorem test_of_ofScalar {scalar : Scalar} {t : ScalarTest} (h : l.ofScalar scalar t = .ok a) :
    a.test = .scalar scalar.accessor t := by
  simp only [ofScalar, bind_eq_ok_iff] at h
  obtain ⟨⟨⟩, -, h⟩ := h
  split at h
  · contradiction
  · rw [← Except.ok.inj h]

theorem test_of_ofField {name : String} {t : Test} (h : l.ofField name t = .ok a) :
    a.test = t := by
  simp only [ofField, bind_eq_ok_iff] at h
  obtain ⟨⟨⟩, -, h⟩ := h
  rw [← Except.ok.inj h]

/-- The operators of order compare, and a pattern operator tests the pattern. -/
theorem comparisonTest_eq_ok {op : Operator} {value : Constant} {t : ScalarTest}
    (h : l.comparisonTest op value = .ok t) :
    (∃ c, op = .order c ∧ t = .compare c value) ∨
      ∃ p negated, op = .pattern p.ignoreCase negated ∧ value = .text p.source ∧
        t = .matching p negated := by
  cases op with
  | pattern ignoreCase negated =>
      cases value <;> simp only [comparisonTest, reduceCtorEq] at h
      split at h
      · rename_i p hp
        obtain ⟨hcase, hsource⟩ := Pattern.eq_of_compile? hp
        exact Or.inr ⟨p, negated, by rw [hcase], by rw [hsource], (Except.ok.inj h).symm⟩
      · contradiction
  | order c =>
      simp only [comparisonTest, bind_eq_ok_iff] at h
      obtain ⟨⟨⟩, -, h⟩ := h
      refine Or.inl ⟨c, rfl, ?_⟩
      split at h
      · split at h
        · exact (Except.ok.inj h).symm
        · contradiction
      · exact (Except.ok.inj h).symm

theorem keepsOperator_of_toAtom (h : l.toAtom = .ok a) (hl : l ∈ leaves) :
    a.KeepsOperator leaves := by
  cases l with
  | compare scalar op value =>
      simp only [toAtom, bind_eq_ok_iff] at h
      obtain ⟨t, ht, h⟩ := h
      rw [Atom.KeepsOperator, test_of_ofScalar h]
      rcases comparisonTest_eq_ok ht with ⟨c, rfl, rfl⟩ | ⟨p, negated, rfl, rfl, rfl⟩
      · exact ⟨scalar, c, hl, Or.inl rfl⟩
      · exact ⟨scalar, negated, hl⟩
  | inRange scalar low high | notInRange scalar low high | inSet scalar values
  | notInSet scalar values =>
      simp only [toAtom, bind_eq_ok_iff] at h
      obtain ⟨⟨⟩, -, h⟩ := h
      rw [Atom.KeepsOperator, test_of_ofScalar h]
      trivial
  | present name | notPresent name =>
      rw [Atom.KeepsOperator, test_of_ofField h]
      trivial
  | arrayContains name value | arrayNotContains name value =>
      simp only [toAtom, bind_eq_ok_iff] at h
      obtain ⟨⟨⟩, -, h⟩ := h
      rw [Atom.KeepsOperator, test_of_ofField h]
      trivial

end Leaf

theorem Comparison.negate_negate (c : Comparison) : c.negate.negate = c := by
  cases c <;> rfl

theorem Atom.KeepsOperator.negate {leaves : List Leaf} {a : Atom} (h : a.KeepsOperator leaves) :
    a.negate.KeepsOperator leaves := by
  obtain ⟨field, test⟩ := a
  cases test with
  | scalar accessor t =>
      cases t with
      | compare c v =>
          obtain ⟨scalar, d, hleaf, rfl | rfl⟩ := h
          · exact ⟨scalar, c, hleaf, Or.inr rfl⟩
          · exact ⟨scalar, d, hleaf, Or.inl d.negate_negate⟩
      | matching p negated => exact h
      | inRange | notInRange | inSet | notInSet => trivial
  | present | notPresent | contains | notContains => trivial

namespace Predicate

mutual

/-- What is wrong with the leaves and the empty disjunctions, from left to right. -/
def faults : Predicate → List Failure
  | .and args => faultsOf args
  | .or args =>
    if args.isEmpty then [.malformedPredicate "or()" .emptyDisjunction] else faultsOf args
  | .not p => p.faults
  | .leaf l =>
    match l.toAtom with
    | .ok _ => []
    | .error f => [f]

/-- What is wrong with several predicates. -/
def faultsOf : List Predicate → List Failure
  | [] => []
  | p :: rest => p.faults ++ faultsOf rest

end

mutual

/-- A predicate has nothing wrong with it exactly if it is valid. -/
theorem faults_eq_nil_iff {p : Predicate} : p.faults = [] ↔ p.isValid = true := by
  match p with
  | .and args => exact faultsOf_eq_nil_iff
  | .not p => exact faults_eq_nil_iff (p := p)
  | .or args =>
      rw [faults, isValid, Bool.and_eq_true, Bool.not_eq_true', ← faultsOf_eq_nil_iff]
      split
      · simp [*]
      · simp [*]
  | .leaf l =>
      rw [faults, isValid]
      cases l.toAtom <;> simp [Except.isOk, Except.toBool]

theorem faultsOf_eq_nil_iff {args : List Predicate} :
    faultsOf args = [] ↔ areValid args = true := by
  match args with
  | [] => simp [faultsOf, areValid]
  | p :: rest =>
      rw [faultsOf, areValid, List.append_eq_nil_iff, Bool.and_eq_true, faults_eq_nil_iff,
        faultsOf_eq_nil_iff]

end

/-- The computation fails with the first of some faults, and succeeds if there are none. -/
def StopsAt {α : Type} (faults : List Failure) (x : Except Failure α) : Prop :=
  match faults with
  | [] => ∃ a, x = .ok a
  | f :: _ => x = .error f

namespace StopsAt

variable {α β : Type} {faults more : List Failure} {x : Except Failure α}

theorem bind {g : α → Except Failure β} (hx : StopsAt faults x)
    (hg : ∀ a, StopsAt more (g a)) : StopsAt (faults ++ more) (x >>= g) := by
  cases faults with
  | nil =>
      obtain ⟨a, rfl⟩ := hx
      exact hg a
  | cons f rest =>
      have hfails : x = .error f := hx
      rw [hfails]
      rfl

theorem map {g : α → β} (hx : StopsAt faults x) :
    StopsAt faults (x >>= fun a => pure (g a)) := by
  rw [← List.append_nil faults]
  exact hx.bind fun a => ⟨g a, rfl⟩

theorem exists_ok_iff (hx : StopsAt faults x) : (∃ a, x = .ok a) ↔ faults = [] := by
  cases faults with
  | nil => exact ⟨fun _ => rfl, fun _ => hx⟩
  | cons f rest =>
      have hfails : x = .error f := hx
      simp [hfails]

theorem eq_error_iff (hx : StopsAt faults x) {f : Failure} :
    x = .error f ↔ faults.head? = some f := by
  cases faults with
  | nil =>
      obtain ⟨a, rfl⟩ := hx
      simp
  | cons g rest =>
      have hfails : x = .error g := hx
      simp [hfails]

end StopsAt

mutual

/-- Carrying negations down stops at the first fault, whatever the polarity. -/
theorem stopsAt_toNnfUnder (p : Predicate) (negated : Bool) :
    StopsAt p.faults (p.toNnfUnder negated) := by
  match p with
  | .not p =>
      rw [faults, toNnfUnder]
      exact stopsAt_toNnfUnder p (!negated)
  | .and args =>
      rw [faults, toNnfUnder]
      exact (stopsAt_toNnfsUnder args negated).map
  | .or args =>
      rw [faults, toNnfUnder]
      split
      · rfl
      · exact (stopsAt_toNnfsUnder args negated).map
  | .leaf l =>
      rw [faults, toNnfUnder]
      cases l.toAtom with
      | ok a => exact ⟨_, rfl⟩
      | error f => rfl

theorem stopsAt_toNnfsUnder (args : List Predicate) (negated : Bool) :
    StopsAt (faultsOf args) (toNnfsUnder negated args) := by
  match args with
  | [] => exact ⟨[], rfl⟩
  | p :: rest =>
      rw [faultsOf, toNnfsUnder]
      exact (stopsAt_toNnfUnder p negated).bind fun n => (stopsAt_toNnfsUnder rest negated).map

end

mutual

/-- A fault is that of a leaf or of an empty disjunction. -/
theorem isBlamedBy_of_mem_faults {p : Predicate} {f : Failure} (h : f ∈ p.faults) :
    (∃ l ∈ p.leaves, l.toAtom = .error f ∧ l.IsBlamedBy f) ∨
      f = .malformedPredicate "or()" .emptyDisjunction := by
  match p with
  | .and args => exact isBlamedBy_of_mem_faultsOf h
  | .not p => exact isBlamedBy_of_mem_faults (p := p) h
  | .or args =>
      rw [faults] at h
      split at h
      · exact Or.inr (List.mem_singleton.mp h)
      · exact isBlamedBy_of_mem_faultsOf h
  | .leaf l =>
      rw [faults] at h
      split at h
      · cases h
      · rename_i g hg
        cases List.mem_singleton.mp h
        exact Or.inl ⟨l, List.mem_cons_self, hg, l.failsOnly_toAtom _ hg⟩

theorem isBlamedBy_of_mem_faultsOf {args : List Predicate} {f : Failure} (h : f ∈ faultsOf args) :
    (∃ l ∈ leavesOf args, l.toAtom = .error f ∧ l.IsBlamedBy f) ∨
      f = .malformedPredicate "or()" .emptyDisjunction := by
  match args with
  | [] => cases h
  | p :: rest =>
      rw [leavesOf]
      rcases List.mem_append.mp h with h | h
      · refine (isBlamedBy_of_mem_faults h).imp_left fun ⟨l, hl, hf⟩ => ⟨l, ?_, hf⟩
        exact List.mem_append_left _ hl
      · refine (isBlamedBy_of_mem_faultsOf h).imp_left fun ⟨l, hl, hf⟩ => ⟨l, ?_, hf⟩
        exact List.mem_append_right _ hl

end

theorem keepsOperator_of_mem_toNnfUnder {p : Predicate} {negated : Bool} {n : Nnf}
    (h : p.toNnfUnder negated = .ok n) : ∀ a ∈ n.atoms, a.KeepsOperator p.leaves :=
  forall_mem_toNnfUnder (Atom.KeepsOperator p.leaves) (fun _ => .negate)
    (fun _ hl _ ha => Leaf.keepsOperator_of_toAtom ha hl) h

/-- Predicates are accepted or refused for their own parts, under either polarity, and what is
accepted has operands that fit its operators in both normal forms. -/
theorem toNnfUnder_iff_isValid (p : Predicate) :
    (∀ negated, ((∃ n, p.toNnfUnder negated = .ok n) ↔ p.isValid = true) ∧
      ∀ f, p.toNnfUnder negated = .error f ↔ p.faults.head? = some f) ∧
    (∀ f ∈ p.faults, (∃ l ∈ p.leaves, l.toAtom = .error f ∧ l.IsBlamedBy f) ∨
      f = .malformedPredicate "or()" .emptyDisjunction) ∧
    (∀ negated n, p.toNnfUnder negated = .ok n →
      ∀ a ∈ n.atoms, a.IsValid ∧ a.KeepsOperator p.leaves) ∧
    ∀ d, p.normalize = .ok d →
      ∀ term ∈ d.conjunctions, ∀ a ∈ term, a.IsValid ∧ a.KeepsOperator p.leaves := by
  have hatoms : ∀ negated n, p.toNnfUnder negated = .ok n →
      ∀ a ∈ n.atoms, a.IsValid ∧ a.KeepsOperator p.leaves := fun negated n hn a ha =>
    ⟨isValid_of_mem_toNnfUnder hn a ha,
      keepsOperator_of_mem_toNnfUnder hn a ha⟩
  refine ⟨fun negated => ⟨?_, fun f => ?_⟩, fun f => isBlamedBy_of_mem_faults, hatoms, ?_⟩
  · rw [(p.stopsAt_toNnfUnder negated).exists_ok_iff, faults_eq_nil_iff]
  · exact (p.stopsAt_toNnfUnder negated).eq_error_iff
  · intro d hd term hterm a ha
    obtain ⟨n, hn, hmem⟩ := mem_atoms_of_normalize hd
    exact hatoms false n hn a (hmem term hterm a ha)

/-- A negation around the length and the pattern of two fields, and one around two faults. -/
theorem toNnfUnder_iff_isValid_nested :
    let few : Predicate := .leaf (.compare ⟨"x", .length⟩ (.order .lt) (.int 3))
    let like : Predicate := .leaf (.compare ⟨"y", .any⟩ (.pattern true false) (.text ""))
    let ordered : Predicate := .leaf (.compare ⟨"z", .value⟩ (.order .lt) (.bool true))
    let p : Predicate := .not (.or [few, .not like])
    (∃ n, p.toNnf = .ok n ∧ ∀ a ∈ n.atoms, a.IsValid ∧ a.KeepsOperator p.leaves) ∧
      (∃ d, p.normalize = .ok d ∧
        ∀ term ∈ d.conjunctions, ∀ a ∈ term, a.IsValid ∧ a.KeepsOperator p.leaves) ∧
      (Predicate.and [few, .not (.and [ordered, .or []]), like]).toNnf =
        .error (.malformedPredicate "z < true" .booleanOrder) := by
  intro few like ordered p
  have hvalid : p.isValid = true := by decide +kernel
  have hnormal : p.normalize.isOk = true := by decide +kernel
  obtain ⟨hrefused, -, hatoms, hterms⟩ := toNnfUnder_iff_isValid p
  refine ⟨?_, ?_, ?_⟩
  · obtain ⟨n, hn⟩ := (hrefused false).1.mpr hvalid
    exact ⟨n, hn, hatoms false n hn⟩
  · cases hd : p.normalize with
    | ok d => exact ⟨d, rfl, hterms d hd⟩
    | error f => rw [hd] at hnormal; cases hnormal
  · obtain ⟨hrefused, -⟩ :=
      toNnfUnder_iff_isValid (.and [few, .not (.and [ordered, .or []]), like])
    exact ((hrefused false).2 _).mpr rfl

end Predicate

end CatalogQuery
