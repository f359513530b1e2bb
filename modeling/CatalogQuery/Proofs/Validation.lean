/-
What is known of the operands of atoms.  A leaf is refused unless its operands fit its
operator, and neither negating an atom nor distributing it brings in operands of another
kind, so every atom of a normal form is valid.
-/
import CatalogQuery.Predicate.NormalForm
import CatalogQuery.Proofs.Result

namespace CatalogQuery

/-- Whether two bounds are both numbers or both texts. -/
def Constant.areAlike (low high : Constant) : Bool :=
  match low, high with
  | .text _, .text _ => true
  | low, high => low.isNumeric && high.isNumeric

/-- The operands fit the operator. -/
def ScalarTest.IsValid : ScalarTest → Prop
  | .compare c v => v.isProper = true ∧ ∀ b, v = .bool b → c = .eq ∨ c = .ne
  | .matching _ _ => True
  | .inRange low high | .notInRange low high =>
    low.isProper = true ∧ high.isProper = true ∧ low.areAlike high = true
  | .inSet vs | .notInSet vs => vs ≠ [] ∧ ∀ v ∈ vs, v.isProper = true

/-- The operands fit the operator and the accessor. -/
def Test.IsValid : Test → Prop
  | .scalar accessor t => t.IsValid ∧ (accessor = .length → t.isIntegral = true)
  | .present | .notPresent => True
  | .contains v | .notContains v => v.isProper = true

/-- The atom has a field and its operands fit its test. -/
def Atom.IsValid (a : Atom) : Prop :=
  a.field ≠ "" ∧ a.test.IsValid

theorem ScalarTest.isIntegral_negate (t : ScalarTest) : t.negate.isIntegral = t.isIntegral := by
  cases t <;> rfl

theorem Accessor.dual_eq_length_iff (accessor : Accessor) :
    accessor.dual = .length ↔ accessor = .length := by
  cases accessor <;> simp [dual]

theorem ScalarTest.IsValid.negate {t : ScalarTest} (h : t.IsValid) : t.negate.IsValid := by
  cases t with
  | compare c v =>
      refine ⟨h.1, fun b hb => ?_⟩
      rcases h.2 b hb with rfl | rfl
      · exact Or.inr rfl
      · exact Or.inl rfl
  | matching p negated => trivial
  | inRange low high => exact h
  | notInRange low high => exact h
  | inSet vs => exact h
  | notInSet vs => exact h

theorem Atom.IsValid.negate {a : Atom} (h : a.IsValid) : a.negate.IsValid := by
  obtain ⟨field, test⟩ := a
  refine ⟨h.1, ?_⟩
  cases test with
  | scalar accessor t =>
      obtain ⟨-, htest, hlength⟩ := h
      refine ⟨htest.negate, fun hdual => ?_⟩
      rw [ScalarTest.isIntegral_negate]
      exact hlength ((Accessor.dual_eq_length_iff accessor).1 hdual)
  | present => trivial
  | notPresent => trivial
  | contains v => exact h.2
  | notContains v => exact h.2

namespace Leaf

variable {l : Leaf} {a : Atom}

theorem isProper_of_checkConstant {c : Constant} (h : l.checkConstant c = .ok ()) :
    c.isProper = true := by
  simp only [checkConstant] at h
  split at h
  · assumption
  · contradiction

theorem ne_of_checkField {name : String} (h : l.checkField name = .ok ()) : name ≠ "" := by
  rintro rfl
  simp [checkField] at h

theorem isValid_of_ofScalar {scalar : Scalar} {t : ScalarTest}
    (h : l.ofScalar scalar t = .ok a) (ht : t.IsValid) : a.IsValid := by
  simp only [ofScalar, bind_eq_ok_iff] at h
  obtain ⟨⟨⟩, hfield, h⟩ := h
  split at h
  · contradiction
  · rename_i hlength
    rw [← Except.ok.inj h]
    refine ⟨ne_of_checkField hfield, ht, fun haccessor => ?_⟩
    simpa [haccessor] using hlength

theorem isValid_of_ofField {name : String} {t : Test} (h : l.ofField name t = .ok a)
    (ht : t.IsValid) : a.IsValid := by
  simp only [ofField, bind_eq_ok_iff] at h
  obtain ⟨⟨⟩, hfield, h⟩ := h
  rw [← Except.ok.inj h]
  exact ⟨ne_of_checkField hfield, ht⟩

theorem isValid_of_comparisonTest {op : Operator} {value : Constant} {t : ScalarTest}
    (h : l.comparisonTest op value = .ok t) : t.IsValid := by
  cases op with
  | pattern ignoreCase negated =>
      cases value <;> simp only [comparisonTest, reduceCtorEq] at h
      split at h
      · rw [← Except.ok.inj h]
        trivial
      · contradiction
  | order c =>
      simp only [comparisonTest, bind_eq_ok_iff] at h
      obtain ⟨⟨⟩, hproper, h⟩ := h
      split at h
      · split at h
        · rename_i hequality
          rw [← Except.ok.inj h]
          exact ⟨rfl, fun _ _ => hequality⟩
        · contradiction
      · rename_i hbool
        rw [← Except.ok.inj h]
        exact ⟨isProper_of_checkConstant hproper, fun b hb => absurd hb (hbool b)⟩

theorem areAlike_of_checkBounds {low high : Constant} (h : l.checkBounds low high = .ok ()) :
    low.isProper = true ∧ high.isProper = true ∧ low.areAlike high = true := by
  simp only [checkBounds, bind_eq_ok_iff] at h
  obtain ⟨⟨⟩, hlow, ⟨⟩, hhigh, h⟩ := h
  refine ⟨isProper_of_checkConstant hlow, isProper_of_checkConstant hhigh, ?_⟩
  cases low <;> cases high <;> first | rfl | contradiction

theorem proper_of_checkSet {values : List Constant} (h : l.checkSet values = .ok ()) :
    values ≠ [] ∧ ∀ v ∈ values, v.isProper = true := by
  simp only [checkSet] at h
  split at h
  · contradiction
  · rename_i hempty
    refine ⟨fun hnil => hempty (by simp [hnil]), fun v hv => ?_⟩
    exact isProper_of_checkConstant (forM_eq_ok_iff.1 h v hv)

/-- The atom of a leaf is valid. -/
theorem isValid_of_toAtom (h : l.toAtom = .ok a) : a.IsValid := by
  cases l with
  | compare scalar op value =>
      simp only [toAtom, bind_eq_ok_iff] at h
      obtain ⟨t, ht, h⟩ := h
      exact isValid_of_ofScalar h (isValid_of_comparisonTest ht)
  | inRange scalar low high | notInRange scalar low high =>
      simp only [toAtom, bind_eq_ok_iff] at h
      obtain ⟨⟨⟩, hbounds, h⟩ := h
      exact isValid_of_ofScalar h (areAlike_of_checkBounds hbounds)
  | inSet scalar values | notInSet scalar values =>
      simp only [toAtom, bind_eq_ok_iff] at h
      obtain ⟨⟨⟩, hset, h⟩ := h
      exact isValid_of_ofScalar h (proper_of_checkSet hset)
  | present name => exact isValid_of_ofField h trivial
  | notPresent name => exact isValid_of_ofField h trivial
  | arrayContains name value | arrayNotContains name value =>
      simp only [toAtom, bind_eq_ok_iff] at h
      obtain ⟨⟨⟩, hproper, h⟩ := h
      exact isValid_of_ofField h (isProper_of_checkConstant hproper)

end Leaf

namespace Nnf

mutual

/-- The atoms of a form, from left to right. -/
def atoms : Nnf → List Atom
  | .atom a => [a]
  | .and args => atomsOf args
  | .or args => atomsOf args

def atomsOf : List Nnf → List Atom
  | [] => []
  | n :: rest => n.atoms ++ atomsOf rest

end

end Nnf

namespace Predicate

mutual

def leaves : Predicate → List Leaf
  | .and args => leavesOf args
  | .or args => leavesOf args
  | .not p => p.leaves
  | .leaf l => [l]

def leavesOf : List Predicate → List Leaf
  | [] => []
  | p :: rest => p.leaves ++ leavesOf rest

end

mutual

/-- What holds of the atoms of the leaves and is kept by negation holds of all atoms. -/
theorem forall_mem_toNnfUnder (holds : Atom → Prop) (hnegate : ∀ a, holds a → holds a.negate)
    {p : Predicate} {negated : Bool} {n : Nnf}
    (hleaves : ∀ l ∈ p.leaves, ∀ a, l.toAtom = .ok a → holds a)
    (h : p.toNnfUnder negated = .ok n) : ∀ a ∈ n.atoms, holds a := by
  match p with
  | .not p =>
      simp only [toNnfUnder] at h
      exact forall_mem_toNnfUnder holds hnegate (p := p) hleaves h
  | .leaf l =>
      simp only [toNnfUnder, bind_eq_ok_iff, pure_eq_ok_iff] at h
      obtain ⟨a, ha, rfl⟩ := h
      have hatom : holds a := hleaves l List.mem_cons_self a ha
      cases negated with
      | false => simpa [Nnf.atoms] using hatom
      | true => simpa [Nnf.atoms] using hnegate a hatom
  | .and args =>
      simp only [toNnfUnder, bind_eq_ok_iff, pure_eq_ok_iff] at h
      obtain ⟨forms, hforms, rfl⟩ := h
      cases negated <;> exact forall_mem_toNnfsUnder holds hnegate hleaves hforms
  | .or args =>
      simp only [toNnfUnder] at h
      split at h
      · contradiction
      · simp only [bind_eq_ok_iff, pure_eq_ok_iff] at h
        obtain ⟨forms, hforms, rfl⟩ := h
        cases negated <;> exact forall_mem_toNnfsUnder holds hnegate hleaves hforms

theorem forall_mem_toNnfsUnder (holds : Atom → Prop) (hnegate : ∀ a, holds a → holds a.negate)
    {args : List Predicate} {negated : Bool} {forms : List Nnf}
    (hleaves : ∀ l ∈ leavesOf args, ∀ a, l.toAtom = .ok a → holds a)
    (h : toNnfsUnder negated args = .ok forms) : ∀ a ∈ Nnf.atomsOf forms, holds a := by
  match args with
  | [] =>
      rw [← Except.ok.inj h]
      simp [Nnf.atomsOf]
  | p :: rest =>
      simp only [toNnfsUnder, bind_eq_ok_iff, pure_eq_ok_iff] at h
      obtain ⟨n, hn, forms, hforms, rfl⟩ := h
      obtain ⟨hp, hrest⟩ := List.forall_mem_append.mp hleaves
      intro a ha
      rcases List.mem_append.1 ha with ha | ha
      · exact forall_mem_toNnfUnder holds hnegate hp hn a ha
      · exact forall_mem_toNnfsUnder holds hnegate hrest hforms a ha

end

/-- Negations are carried down to valid atoms. -/
theorem isValid_of_mem_toNnfUnder {p : Predicate} {negated : Bool} {n : Nnf}
    (h : p.toNnfUnder negated = .ok n) : ∀ a ∈ n.atoms, a.IsValid :=
  forall_mem_toNnfUnder Atom.IsValid (fun _ => .negate)
    (fun _ _ _ => Leaf.isValid_of_toAtom) h

end Predicate

namespace Dnf

/-- Every atom of every term is among the given ones. -/
def DrawnFrom (atoms : List Atom) (terms : List (List Atom)) : Prop :=
  ∀ term ∈ terms, ∀ a ∈ term, a ∈ atoms

theorem DrawnFrom.mono {atoms more : List Atom} {terms : List (List Atom)}
    (h : DrawnFrom atoms terms) (hmore : atoms ⊆ more) : DrawnFrom more terms :=
  fun term hterm a ha => hmore (h term hterm a ha)

theorem mem_of_mem_addAtom {atoms : List Atom} {a b : Atom} (h : b ∈ addAtom atoms a) :
    b ∈ atoms ∨ b = a := by
  simp only [addAtom] at h
  split at h
  · exact Or.inl h
  · simpa using h

theorem mem_of_mem_join {left right : List Atom} {b : Atom} (h : b ∈ join left right) :
    b ∈ left ∨ b ∈ right := by
  induction right generalizing left with
  | nil => exact Or.inl h
  | cons a rest ih =>
      have hrest : b ∈ join (addAtom left a) rest := h
      rcases ih hrest with hb | hb
      · rcases mem_of_mem_addAtom hb with hb | rfl
        · exact Or.inl hb
        · exact Or.inr List.mem_cons_self
      · exact Or.inr (List.mem_cons_of_mem _ hb)

theorem mem_of_mem_foldl_addTerm {more terms : List (List Atom)} {term : List Atom}
    (h : term ∈ more.foldl addTerm terms) : term ∈ terms ∨ term ∈ more := by
  induction more generalizing terms with
  | nil => exact Or.inl h
  | cons next rest ih =>
      have hrest : term ∈ rest.foldl addTerm (addTerm terms next) := h
      rcases ih hrest with hterm | hterm
      · simp only [addTerm] at hterm
        split at hterm
        · exact Or.inl hterm
        · rcases List.mem_append.1 hterm with hterm | hterm
          · exact Or.inl hterm
          · exact Or.inr (by simp_all)
      · exact Or.inr (List.mem_cons_of_mem _ hterm)

theorem DrawnFrom.product {atoms : List Atom} {left right : List (List Atom)}
    (hleft : DrawnFrom atoms left) (hright : DrawnFrom atoms right) :
    DrawnFrom atoms (product left right) := by
  intro term hterm a ha
  simp only [Dnf.product, List.mem_flatMap, List.mem_map] at hterm
  obtain ⟨l, hl, r, hr, rfl⟩ := hterm
  rcases mem_of_mem_join ha with ha | ha
  · exact hleft l hl a ha
  · exact hright r hr a ha

mutual

/-- Distribution makes its terms of the atoms that there are. -/
theorem drawnFrom_of_distribute {n : Nnf} {terms : List (List Atom)}
    (h : distribute n = .ok terms) : DrawnFrom n.atoms terms := by
  match n with
  | .atom a =>
      rw [← Except.ok.inj h]
      intro term hterm b hb
      rw [List.mem_singleton.1 hterm] at hb
      exact hb
  | .or args =>
      have hnone : DrawnFrom ([] ++ Nnf.atomsOf args) [] := by simp [DrawnFrom]
      exact drawnFrom_of_distributeOr hnone (by simpa only [distribute] using h)
  | .and args =>
      have htrue : DrawnFrom ([] ++ Nnf.atomsOf args) [[]] := by simp [DrawnFrom]
      exact drawnFrom_of_distributeAnd htrue (by simpa only [distribute] using h)

theorem drawnFrom_of_distributeOr {args : List Nnf} {atoms : List Atom}
    {before terms : List (List Atom)} (hbefore : DrawnFrom (atoms ++ Nnf.atomsOf args) before)
    (h : distributeOr before args = .ok terms) :
    DrawnFrom (atoms ++ Nnf.atomsOf args) terms := by
  match args with
  | [] =>
      rw [← Except.ok.inj h]
      exact hbefore
  | n :: rest =>
      simp only [distributeOr, bind_eq_ok_iff] at h
      obtain ⟨more, hmore, h⟩ := h
      split at h
      · contradiction
      · rw [Nnf.atomsOf, ← List.append_assoc] at hbefore ⊢
        refine drawnFrom_of_distributeOr (fun term hterm => ?_) h
        rcases mem_of_mem_foldl_addTerm hterm with hterm | hterm
        · exact hbefore term hterm
        · refine (drawnFrom_of_distribute hmore).mono ?_ term hterm
          intro a ha
          simp [ha]

theorem drawnFrom_of_distributeAnd {args : List Nnf} {atoms : List Atom}
    {before terms : List (List Atom)} (hbefore : DrawnFrom (atoms ++ Nnf.atomsOf args) before)
    (h : distributeAnd before args = .ok terms) :
    DrawnFrom (atoms ++ Nnf.atomsOf args) terms := by
  match args with
  | [] =>
      rw [← Except.ok.inj h]
      exact hbefore
  | n :: rest =>
      simp only [distributeAnd, bind_eq_ok_iff] at h
      obtain ⟨right, hright, h⟩ := h
      split at h
      · rw [← Except.ok.inj h]
        simp [DrawnFrom]
      · split at h
        · contradiction
        · rw [Nnf.atomsOf, ← List.append_assoc] at hbefore ⊢
          refine drawnFrom_of_distributeAnd (hbefore.product ?_) h
          refine (drawnFrom_of_distribute hright).mono ?_
          intro a ha
          simp [ha]

end

/-- The conjunctions of a normal form are the terms it is made of, if it has any. -/
theorem mem_of_mem_conjunctions_ofTerms {terms : List (List Atom)} {term : List Atom}
    (h : term ∈ (ofTerms terms).conjunctions) : term ∈ terms := by
  simp only [ofTerms] at h
  split at h
  · cases h
  · split at h
    · cases h
    · exact h

end Dnf

namespace Predicate

variable {p : Predicate} {d : Dnf}

/-- The atoms of the disjunctive normal form are those of the negation normal form. -/
theorem mem_atoms_of_normalize (h : p.normalize = .ok d) :
    ∃ n, p.toNnf = .ok n ∧ ∀ atoms ∈ d.conjunctions, ∀ a ∈ atoms, a ∈ n.atoms := by
  simp only [normalize, bind_eq_ok_iff, pure_eq_ok_iff] at h
  obtain ⟨n, hn, terms, hterms, rfl⟩ := h
  exact ⟨n, hn, fun atoms hatoms =>
    Dnf.drawnFrom_of_distribute hterms atoms (Dnf.mem_of_mem_conjunctions_ofTerms hatoms)⟩

/-- The disjunctive normal form of a predicate has only valid atoms. -/
theorem isValid_of_normalize (h : p.normalize = .ok d) :
    ∀ atoms ∈ d.conjunctions, ∀ a ∈ atoms, a.IsValid := by
  obtain ⟨n, hn, hmem⟩ := mem_atoms_of_normalize h
  exact fun atoms hatoms a ha => isValid_of_mem_toNnfUnder hn a (hmem atoms hatoms a ha)

end Predicate

end CatalogQuery
