/-
How large normal forms get.  The terms are counted after each argument, as they are then: no form
with more terms than allowed is multiplied out or returned, and a form that is small enough when
nothing is left out is small enough at every step.  A term is never given an atom that it has.
-/
import CatalogQuery.Proofs.Validation

namespace CatalogQuery

theorem Binary64.equals_comm (x y : Binary64) : x.equals y = y.equals x := by
  simp only [equals, compare?, Bool.or_comm x.isNaN]
  split
  · rfl
  · rw [Bool.eq_iff_iff]
    simp only [beq_iff_eq, Option.some.injEq, Std.LawfulEqOrd.compare_eq_iff_eq]
    exact eq_comm

theorem Constant.equals_comm (v w : Constant) : v.equals w = w.equals v := by
  cases v <;> cases w <;>
    first | rfl | exact Binary64.equals_comm _ _ | exact Bool.beq_comm

theorem sameConstants_comm (vs ws : List Constant) :
    sameConstants vs ws = sameConstants ws vs := by
  induction vs generalizing ws with
  | nil => cases ws <;> rfl
  | cons v vs ih =>
      cases ws with
      | nil => rfl
      | cons w ws => rw [sameConstants, sameConstants, Constant.equals_comm v w, ih ws]

theorem ScalarTest.equals_comm (t u : ScalarTest) : t.equals u = u.equals t := by
  cases t <;> cases u <;>
    simp only [equals, Pattern.equals, Bool.beq_comm, Constant.equals_comm, sameConstants_comm]

theorem Test.equals_comm (t u : Test) : t.equals u = u.equals t := by
  cases t <;> cases u <;>
    simp only [equals, Bool.beq_comm, ScalarTest.equals_comm, Constant.equals_comm]

theorem Atom.equals_comm (a b : Atom) : a.equals b = b.equals a := by
  rw [equals, equals, Bool.beq_comm, Test.equals_comm]

namespace Dnf

/-- No two atoms of a term are equal, whichever is compared with the other. -/
def IsReduced (term : List Atom) : Prop :=
  term.Pairwise fun a b => a.equals b = false ∧ b.equals a = false

theorem IsReduced.addAtom {atoms : List Atom} (h : IsReduced atoms) (a : Atom) :
    IsReduced (addAtom atoms a) := by
  rw [Dnf.addAtom]
  split
  · exact h
  · rename_i hnew
    refine List.pairwise_append.mpr ⟨h, List.pairwise_singleton _ a, fun b hb c hc => ?_⟩
    rw [List.mem_singleton.mp hc, Atom.equals_comm a b, and_self]
    exact Bool.eq_false_iff.mpr fun hequal => hnew (List.any_eq_true.mpr ⟨b, hb, hequal⟩)

theorem IsReduced.join {left : List Atom} (h : IsReduced left) (right : List Atom) :
    IsReduced (join left right) := by
  induction right generalizing left with
  | nil => exact h
  | cons a rest ih => exact ih (h.addAtom a)

/-- There are no more terms than allowed, and none of them has an atom twice. -/
structure IsBounded (terms : List (List Atom)) : Prop where
  length_le : terms.length ≤ maxConjunctions
  reduced : ∀ term ∈ terms, IsReduced term

theorem isBounded_nil : IsBounded [] :=
  ⟨Nat.zero_le _, fun _ h => absurd h List.not_mem_nil⟩

theorem isBounded_singleton {term : List Atom} (h : IsReduced term) : IsBounded [term] :=
  ⟨(by decide : 1 ≤ maxConjunctions), fun _ hterm => List.mem_singleton.mp hterm ▸ h⟩

theorem length_product (left right : List (List Atom)) :
    (product left right).length = left.length * right.length := by
  rw [product, List.length_flatMap]
  simp only [List.length_map, List.map_const', List.sum_replicate_nat]

theorem IsBounded.product {left right : List (List Atom)} (hleft : IsBounded left)
    (hroom : left.length * right.length ≤ maxConjunctions) : IsBounded (product left right) := by
  refine ⟨by rwa [length_product], fun term hterm => ?_⟩
  simp only [Dnf.product, List.mem_flatMap, List.mem_map] at hterm
  obtain ⟨l, hl, r, -, rfl⟩ := hterm
  exact (hleft.reduced l hl).join r

theorem IsBounded.foldl_addTerm {terms more : List (List Atom)} (hterms : IsBounded terms)
    (hmore : IsBounded more) (hroom : (more.foldl addTerm terms).length ≤ maxConjunctions) :
    IsBounded (more.foldl addTerm terms) :=
  ⟨hroom, fun term hterm =>
    (mem_of_mem_foldl_addTerm hterm).elim (hterms.reduced term) (hmore.reduced term)⟩

mutual

/-- Distribution keeps to the bound at every step. -/
theorem isBounded_of_distribute {n : Nnf} {terms : List (List Atom)}
    (h : distribute n = .ok terms) : IsBounded terms := by
  match n with
  | .atom a =>
      rw [← Except.ok.inj h]
      exact isBounded_singleton (List.pairwise_singleton _ a)
  | .or args => exact isBounded_of_distributeOr isBounded_nil (by simpa only [distribute] using h)
  | .and args =>
      exact isBounded_of_distributeAnd (isBounded_singleton List.Pairwise.nil)
        (by simpa only [distribute] using h)

theorem isBounded_of_distributeOr {args : List Nnf} {before terms : List (List Atom)}
    (hbefore : IsBounded before) (h : distributeOr before args = .ok terms) :
    IsBounded terms := by
  match args with
  | [] => exact Except.ok.inj h ▸ hbefore
  | n :: rest =>
      simp only [distributeOr, bind_eq_ok_iff] at h
      obtain ⟨more, hmore, h⟩ := h
      split at h
      · contradiction
      · rename_i hroom
        have hadded := hbefore.foldl_addTerm (isBounded_of_distribute hmore) (Nat.not_lt.mp hroom)
        exact isBounded_of_distributeOr hadded h

theorem isBounded_of_distributeAnd {args : List Nnf} {before terms : List (List Atom)}
    (hbefore : IsBounded before) (h : distributeAnd before args = .ok terms) :
    IsBounded terms := by
  match args with
  | [] => exact Except.ok.inj h ▸ hbefore
  | n :: rest =>
      simp only [distributeAnd, bind_eq_ok_iff] at h
      obtain ⟨right, hright, h⟩ := h
      split at h
      · exact Except.ok.inj h ▸ isBounded_nil
      · split at h
        · contradiction
        · rename_i hroom
          exact isBounded_of_distributeAnd (hbefore.product (Nat.not_lt.mp hroom)) h

end

end Dnf

namespace Nnf

mutual

/-- How many terms there are if none is left out. -/
def termCount : Nnf → Nat
  | .atom _ => 1
  | .or args => termSum args
  | .and args => termProduct args

def termSum : List Nnf → Nat
  | [] => 0
  | n :: rest => n.termCount + termSum rest

/-- How many ways there are to choose a term of each form. -/
def termProduct : List Nnf → Nat
  | [] => 1
  | n :: rest => n.termCount * termProduct rest

end

mutual

/-- Whether every `or` has an argument. -/
def hasNoEmptyOr : Nnf → Bool
  | .atom _ => true
  | .or args => !args.isEmpty && haveNoEmptyOr args
  | .and args => haveNoEmptyOr args

/-- Whether every `or` of the forms has an argument. -/
def haveNoEmptyOr : List Nnf → Bool
  | [] => true
  | n :: rest => n.hasNoEmptyOr && haveNoEmptyOr rest

end

mutual

theorem termCount_pos {n : Nnf} (h : n.hasNoEmptyOr = true) : 0 < n.termCount := by
  match n with
  | .atom a => exact Nat.one_pos
  | .or [] => cases h
  | .or (n :: rest) =>
      simp only [hasNoEmptyOr, haveNoEmptyOr, Bool.and_eq_true] at h
      exact Nat.add_pos_left (termCount_pos h.2.1) _
  | .and args => exact termProduct_pos h

theorem termProduct_pos {args : List Nnf} (h : haveNoEmptyOr args = true) :
    0 < termProduct args := by
  match args with
  | [] => exact Nat.one_pos
  | n :: rest =>
      simp only [haveNoEmptyOr, Bool.and_eq_true] at h
      exact Nat.mul_pos (termCount_pos h.1) (termProduct_pos h.2)

end

end Nnf

namespace Dnf

theorem length_foldl_addTerm_le (terms more : List (List Atom)) :
    (more.foldl addTerm terms).length ≤ terms.length + more.length := by
  induction more generalizing terms with
  | nil => exact Nat.le_refl _
  | cons term rest ih =>
      have hone : (addTerm terms term).length ≤ terms.length + 1 := by
        rw [addTerm]
        split <;> simp
      have hrest := ih (addTerm terms term)
      simp only [List.foldl_cons, List.length_cons]
      omega

theorem foldl_addTerm_ne_nil {terms more : List (List Atom)} (h : terms ≠ [] ∨ more ≠ []) :
    more.foldl addTerm terms ≠ [] := by
  induction more generalizing terms with
  | nil => exact h.resolve_right fun hne => hne rfl
  | cons term rest ih =>
      refine ih (Or.inl ?_)
      rw [addTerm]
      split
      · rename_i hsame
        rintro rfl
        cases hsame
      · simp

mutual

/-- A form with room for all of its terms is distributed. -/
theorem distribute_of_termCount_le {n : Nnf} (hor : n.hasNoEmptyOr = true)
    (hcount : n.termCount ≤ maxConjunctions) :
    ∃ terms, distribute n = .ok terms ∧ terms ≠ [] ∧ terms.length ≤ n.termCount := by
  match n with
  | .atom a => exact ⟨[[a]], by rw [distribute], List.cons_ne_nil _ _, Nat.le_refl _⟩
  | .or args =>
      simp only [Nnf.hasNoEmptyOr, Bool.and_eq_true, Bool.not_eq_true', List.isEmpty_eq_false_iff]
        at hor
      simp only [distribute, Nnf.termCount] at hcount ⊢
      obtain ⟨terms, hterms, hne, hlength⟩ :=
        distributeOr_of_termSum_le [] (Or.inr hor.1) hor.2 (by simpa)
      exact ⟨terms, hterms, hne, by simpa using hlength⟩
  | .and args =>
      simp only [distribute, Nnf.termCount] at hcount ⊢
      obtain ⟨terms, hterms, hne, hlength⟩ :=
        distributeAnd_of_termProduct_le [[]] (List.cons_ne_nil _ _) hor (by simpa)
      exact ⟨terms, hterms, hne, by simpa using hlength⟩

theorem distributeOr_of_termSum_le (before : List (List Atom)) {args : List Nnf}
    (hne : before ≠ [] ∨ args ≠ []) (hor : Nnf.haveNoEmptyOr args = true)
    (hcount : before.length + Nnf.termSum args ≤ maxConjunctions) :
    ∃ terms, distributeOr before args = .ok terms ∧ terms ≠ [] ∧
      terms.length ≤ before.length + Nnf.termSum args := by
  match args with
  | [] =>
      exact ⟨before, by rw [distributeOr], hne.resolve_right fun h => h rfl, Nat.le_refl _⟩
  | n :: rest =>
      simp only [Nnf.haveNoEmptyOr, Bool.and_eq_true] at hor
      simp only [Nnf.termSum] at hcount ⊢
      obtain ⟨more, hmore, hmorene, hmorelen⟩ := distribute_of_termCount_le hor.1 (by omega)
      have hadded := length_foldl_addTerm_le before more
      obtain ⟨terms, hterms, htermsne, hlength⟩ :=
        distributeOr_of_termSum_le (more.foldl addTerm before)
          (Or.inl (foldl_addTerm_ne_nil (Or.inr hmorene))) hor.2 (by omega)
      refine ⟨terms, ?_, htermsne, by omega⟩
      rw [distributeOr, bind_eq_ok_iff]
      exact ⟨more, hmore, by rw [if_neg (by omega), hterms]⟩

theorem distributeAnd_of_termProduct_le (before : List (List Atom)) {args : List Nnf}
    (hne : before ≠ []) (hor : Nnf.haveNoEmptyOr args = true)
    (hcount : before.length * Nnf.termProduct args ≤ maxConjunctions) :
    ∃ terms, distributeAnd before args = .ok terms ∧ terms ≠ [] ∧
      terms.length ≤ before.length * Nnf.termProduct args := by
  match args with
  | [] => exact ⟨before, by rw [distributeAnd], hne, by simp [Nnf.termProduct]⟩
  | n :: rest =>
      simp only [Nnf.haveNoEmptyOr, Bool.and_eq_true] at hor
      simp only [Nnf.termProduct] at hcount ⊢
      have hbefore : 0 < before.length := List.length_pos_iff.mpr hne
      have hrest := Nnf.termProduct_pos hor.2
      have hfactor : n.termCount ≤ before.length * (n.termCount * Nnf.termProduct rest) :=
        Nat.le_trans (Nat.le_mul_of_pos_right _ hrest) (Nat.le_mul_of_pos_left _ hbefore)
      obtain ⟨right, hright, hrightne, hrightlen⟩ :=
        distribute_of_termCount_le hor.1 (Nat.le_trans hfactor hcount)
      -- What is multiplied now is no more than what is counted for all arguments.
      have hmultiplied : (product before right).length * Nnf.termProduct rest ≤
          before.length * (n.termCount * Nnf.termProduct rest) := by
        rw [length_product, Nat.mul_assoc]
        exact Nat.mul_le_mul_left _ (Nat.mul_le_mul_right _ hrightlen)
      have hall := Nat.le_trans hmultiplied hcount
      have hroom : before.length * right.length ≤ maxConjunctions := by
        rw [← length_product]
        exact Nat.le_trans (Nat.le_mul_of_pos_right _ hrest) hall
      have hproduct : product before right ≠ [] := by
        rw [← List.length_pos_iff, length_product]
        exact Nat.mul_pos hbefore (List.length_pos_iff.mpr hrightne)
      obtain ⟨terms, hterms, htermsne, hlength⟩ :=
        distributeAnd_of_termProduct_le (product before right) hproduct hor.2 hall
      refine ⟨terms, ?_, htermsne, Nat.le_trans hlength hmultiplied⟩
      rw [distributeAnd, bind_eq_ok_iff]
      refine ⟨right, hright, ?_⟩
      rw [if_neg (by simpa using hrightne), if_neg (Nat.not_lt.mpr hroom), hterms]

end

/-- A normal form is true, false, or has conjunctions, none of which is empty. -/
theorem ofTerms_cases (terms : List (List Atom)) :
    ofTerms terms = .always ∨ ofTerms terms = .never ∨
      ofTerms terms = .anyOf terms ∧ terms ≠ [] ∧ ∀ term ∈ terms, term ≠ [] := by
  rw [ofTerms]
  split
  · exact Or.inr (Or.inl rfl)
  · split
    · exact Or.inl rfl
    · rename_i hne hterms
      refine Or.inr (Or.inr ⟨rfl, fun h => hne (by rw [h]; rfl), fun term hterm hnil => ?_⟩)
      exact hterms (List.any_eq_true.mpr ⟨term, hterm, by rw [hnil]; rfl⟩)

end Dnf

/-- Normal forms are bounded and have no repetitions, and no predicate is refused that is small
enough before terms and atoms are left out. -/
theorem Predicate.normalize_bounds (p : Predicate) :
    (∀ d, p.normalize = .ok d →
      d.conjunctions.length ≤ 4096 ∧
      (∀ term ∈ d.conjunctions, term ≠ [] ∧ Dnf.IsReduced term) ∧
      (∃ n, p.toNnf = .ok n ∧ ∀ term ∈ d.conjunctions, ∀ a ∈ term, a ∈ n.atoms) ∧
      (d.conjunctions = [] ↔ d = .always ∨ d = .never)) ∧
    ∀ n, p.toNnf = .ok n → n.hasNoEmptyOr = true → n.termCount ≤ 4096 →
      ∃ d, p.normalize = .ok d := by
  refine ⟨fun d h => ?_, fun n hn hor hcount => ?_⟩
  · have hatoms := mem_atoms_of_normalize h
    simp only [normalize, bind_eq_ok_iff, pure_eq_ok_iff] at h
    obtain ⟨n, hn, terms, hterms, rfl⟩ := h
    have hbounded := Dnf.isBounded_of_distribute hterms
    rcases Dnf.ofTerms_cases terms with h | h | ⟨h, hne, hinhabited⟩
    · rw [h] at hatoms ⊢
      exact ⟨Nat.zero_le _, nofun, hatoms, by simp [Dnf.conjunctions]⟩
    · rw [h] at hatoms ⊢
      exact ⟨Nat.zero_le _, nofun, hatoms, by simp [Dnf.conjunctions]⟩
    · rw [h] at hatoms ⊢
      exact ⟨hbounded.length_le,
        fun term hterm => ⟨hinhabited term hterm, hbounded.reduced term hterm⟩,
        hatoms, by simp [Dnf.conjunctions, hne]⟩
  · obtain ⟨terms, hterms, -⟩ := Dnf.distribute_of_termCount_le hor hcount
    exact ⟨Dnf.ofTerms terms, bind_eq_ok_iff.mpr ⟨n, hn, bind_eq_ok_iff.mpr ⟨terms, hterms, rfl⟩⟩⟩

/-- Twelve disjunctions of two have just as many terms as allowed. -/
theorem Predicate.normalize_bounds_full :
    let a : Predicate := .leaf (.present "a")
    let b : Predicate := .leaf (.present "b")
    ∃ d, (Predicate.and (List.replicate 12 (.or [a, .not b]))).normalize = .ok d ∧
      d.conjunctions.length ≤ 4096 ∧
      ∀ term ∈ d.conjunctions, term ≠ [] ∧ Dnf.IsReduced term := by
  intro a b
  obtain ⟨hbounds, hroom⟩ := normalize_bounds (.and (List.replicate 12 (.or [a, .not b])))
  obtain ⟨d, hd⟩ := hroom
    (.and (List.replicate 12 (.or [.atom ⟨"a", .present⟩, .atom ⟨"b", .notPresent⟩])))
    rfl rfl (by decide)
  obtain ⟨hlength, hterms, -⟩ := hbounds d hd
  exact ⟨d, hd, hlength, hterms⟩

end CatalogQuery
