/-
Distribution keeps the meaning of a predicate.  Equal constants, tests and atoms are
told apart by no document, so a term or an atom that is left out as a duplicate is not
missed; an empty list of terms is false and an empty term is true throughout.
-/
import CatalogQuery.Predicate.NormalForm
import CatalogQuery.Proofs.Result

namespace CatalogQuery

variable {value : Json} {metadata : Metadata}

/-- Equal numbers compare alike with every other one. -/
theorem Binary64.compare?_congr {x y : Binary64} (h : x.equals y = true) (a : Binary64) :
    a.compare? x = a.compare? y := by
  simp only [equals, compare?, Bool.or_eq_true, beq_iff_eq] at h
  by_cases hnan : x.isNaN = true ∨ y.isNaN = true
  · simp [hnan] at h
  · simp only [hnan, ↓reduceIte, Option.some.injEq, Std.LawfulEqOrd.compare_eq_iff_eq] at h
    simp only [not_or, Bool.not_eq_true] at hnan
    simp [compare?, h, hnan.1, hnan.2]

theorem Constant.order?_congr {v w : Constant} (h : v.equals w = true) (value : Json) :
    v.order? value = w.order? value := by
  cases v <;> cases w <;> simp only [equals, beq_iff_eq, Bool.false_eq_true] at h
  case float.float x y =>
    cases value with
    | number n => cases n <;> simp only [order?] <;> exact Binary64.compare?_congr h _
    | _ => rfl
  all_goals rw [h]

theorem Constant.isEqualTo_congr {v w : Constant} (h : v.equals w = true) (value : Json) :
    v.isEqualTo value = w.isEqualTo value := by
  simp only [isEqualTo, order?_congr h]

theorem any_isEqualTo_of_sameConstants {vs ws : List Constant}
    (h : sameConstants vs ws = true) (value : Json) :
    (vs.any fun v => v.isEqualTo value) = ws.any fun w => w.isEqualTo value := by
  induction vs generalizing ws with
  | nil =>
      cases ws with
      | nil => rfl
      | cons w ws => simp [sameConstants] at h
  | cons v vs ih =>
      cases ws with
      | nil => simp [sameConstants] at h
      | cons w ws =>
          simp only [sameConstants, Bool.and_eq_true] at h
          simp only [List.any_cons, Constant.isEqualTo_congr h.1, ih h.2]

/-- A pattern is settled by its source and the way it treats case. -/
theorem Pattern.isMatch_congr {p q : Pattern} (h : p.equals q = true) (text : String) :
    p.isMatch text = q.isMatch text := by
  simp only [equals, Bool.and_eq_true, beq_iff_eq] at h
  have hregex : some p.regex = some q.regex := by
    rw [← p.parsed, ← q.parsed, h.1, h.2]
  simp only [isMatch, Option.some.inj hregex]

theorem ScalarTest.passes_congr {t u : ScalarTest} (h : t.equals u = true) :
    t.passes = u.passes := by
  funext value
  cases t <;> cases u <;>
    simp only [equals, Bool.and_eq_true, beq_iff_eq, Bool.false_eq_true] at h
  case compare.compare c v d w => simp only [passes, h.1, Constant.order?_congr h.2]
  case matching.matching p m q n =>
    cases value <;> simp only [passes, h.2]
    rw [Pattern.isMatch_congr h.1]
  case inSet.inSet => simp only [passes, any_isEqualTo_of_sameConstants h]
  case notInSet.notInSet => simp only [passes, any_isEqualTo_of_sameConstants h]
  all_goals simp only [passes, Constant.order?_congr h.1, Constant.order?_congr h.2]

/-- What an accessor says depends on the test only through the values that pass it. -/
theorem Accessor.meets_congr {t u : ScalarTest} (h : t.passes = u.passes)
    (accessor : Accessor) (value : Json) : accessor.meets t value = accessor.meets u value := by
  cases accessor <;> cases value <;> simp only [meets, h]

theorem Test.holds_congr {t u : Test} (h : t.equals u = true) (found : Option Json) :
    t.holds found = u.holds found := by
  cases t <;> cases u <;>
    simp only [equals, Bool.and_eq_true, beq_iff_eq, Bool.false_eq_true] at h
  case scalar.scalar a t b u =>
    cases found with
    | none => rfl
    | some value =>
        simp only [holds, h.1]
        exact Accessor.meets_congr (ScalarTest.passes_congr h.2) b value
  case contains.contains =>
    cases found with
    | none => rfl
    | some value => cases value <;> simp only [holds, Constant.isEqualTo_congr h]
  case notContains.notContains =>
    cases found with
    | none => rfl
    | some value => cases value <;> simp only [holds, Constant.isEqualTo_congr h]
  all_goals rfl

/-- Equal atoms hold of the same documents. -/
theorem Atom.holds_congr {a b : Atom} (h : a.equals b = true) (metadata : Metadata) :
    a.holds metadata = b.holds metadata := by
  simp only [equals, Bool.and_eq_true, beq_iff_eq] at h
  simp only [holds, h.1, Test.holds_congr h.2]

namespace Dnf

def termHolds (metadata : Metadata) (term : List Atom) : Bool :=
  term.all fun a => a.holds metadata

def termsHold (metadata : Metadata) (terms : List (List Atom)) : Bool :=
  terms.any (termHolds metadata)

theorem termHolds_addAtom (atoms : List Atom) (a : Atom) :
    termHolds metadata (addAtom atoms a) = (termHolds metadata atoms && a.holds metadata) := by
  by_cases hdup : (atoms.any fun b => b.equals a) = true
  · obtain ⟨b, hb, hequal⟩ := List.any_eq_true.1 hdup
    -- The atom is implied by its twin in the term.
    have himplied : termHolds metadata atoms = true → a.holds metadata = true := by
      intro hall
      rw [← Atom.holds_congr hequal]
      exact List.all_eq_true.1 hall b hb
    simp only [addAtom, hdup, ↓reduceIte]
    cases hterm : termHolds metadata atoms with
    | false => rfl
    | true => rw [himplied hterm]; rfl
  · simp [addAtom, hdup, termHolds]

theorem termHolds_join (left right : List Atom) :
    termHolds metadata (join left right) =
      (termHolds metadata left && termHolds metadata right) := by
  induction right generalizing left with
  | nil => simp [join, termHolds]
  | cons a rest ih =>
      have hstep : join left (a :: rest) = join (addAtom left a) rest := rfl
      rw [hstep, ih, termHolds_addAtom, Bool.and_assoc]
      rfl

theorem termHolds_of_sameTerm {s t : List Atom} (h : sameTerm s t = true) :
    termHolds metadata s = termHolds metadata t := by
  induction s generalizing t with
  | nil =>
      cases t with
      | nil => rfl
      | cons b bs => simp [sameTerm] at h
  | cons a as ih =>
      cases t with
      | nil => simp [sameTerm] at h
      | cons b bs =>
          simp only [sameTerm, Bool.and_eq_true] at h
          have htail := ih h.2
          simp only [termHolds] at htail
          simp only [termHolds, List.all_cons, Atom.holds_congr h.1, htail]

theorem termsHold_addTerm (terms : List (List Atom)) (term : List Atom) :
    termsHold metadata (addTerm terms term) =
      (termsHold metadata terms || termHolds metadata term) := by
  by_cases hdup : (terms.any fun t => sameTerm t term) = true
  · obtain ⟨twin, htwin, hsame⟩ := List.any_eq_true.1 hdup
    have himplies : termHolds metadata term = true → termsHold metadata terms = true := by
      intro hterm
      refine List.any_eq_true.2 ⟨twin, htwin, ?_⟩
      rw [termHolds_of_sameTerm hsame, hterm]
    simp only [addTerm, hdup, ↓reduceIte]
    cases hterm : termHolds metadata term with
    | false => simp
    | true => rw [himplies hterm]; rfl
  · simp [addTerm, hdup, termsHold]

theorem termsHold_foldl_addTerm (more terms : List (List Atom)) :
    termsHold metadata (more.foldl addTerm terms) =
      (termsHold metadata terms || termsHold metadata more) := by
  induction more generalizing terms with
  | nil => simp [termsHold]
  | cons term rest ih =>
      rw [List.foldl_cons, ih, termsHold_addTerm, Bool.or_assoc]
      rfl

theorem termsHold_map_join (l : List Atom) (right : List (List Atom)) :
    termsHold metadata (right.map (join l)) =
      (termHolds metadata l && termsHold metadata right) := by
  induction right with
  | nil => simp [termsHold]
  | cons r more ih =>
      simp only [termsHold] at ih
      simp only [termsHold, List.map_cons, List.any_cons, termHolds_join, ih,
        Bool.and_or_distrib_left]

theorem termsHold_product (left right : List (List Atom)) :
    termsHold metadata (product left right) =
      (termsHold metadata left && termsHold metadata right) := by
  induction left with
  | nil => rfl
  | cons l rest ih =>
      have hrow : termsHold metadata (right.map (join l)) =
          (termHolds metadata l && termsHold metadata right) := termsHold_map_join l right
      simp only [product, termsHold] at ih hrow
      simp only [product, termsHold, List.flatMap_cons, List.any_append, List.any_cons, hrow, ih,
        Bool.and_or_distrib_right]

mutual

/-- The terms of a negation normal form hold of the documents that the form holds of.
The invariant of the two loops is about the terms that came before: a disjunction adds to
them and a conjunction restricts them. -/
theorem termsHold_of_distribute {n : Nnf} {terms : List (List Atom)}
    (h : distribute n = .ok terms) : termsHold metadata terms = n.holds metadata := by
  match n with
  | .atom a =>
      simp only [distribute, Except.ok.injEq] at h
      simp [← h, termsHold, termHolds, Nnf.holds]
  | .or args =>
      rw [termsHold_of_distributeOr (by simpa only [distribute] using h), Nnf.holds]
      rfl
  | .and args =>
      rw [termsHold_of_distributeAnd (by simpa only [distribute] using h), Nnf.holds]
      rfl

theorem termsHold_of_distributeOr {args : List Nnf} {before terms : List (List Atom)}
    (h : distributeOr before args = .ok terms) :
    termsHold metadata terms = (termsHold metadata before || Nnf.anyHolds metadata args) := by
  match args with
  | [] =>
      simp only [distributeOr, Except.ok.injEq] at h
      simp [h, Nnf.anyHolds]
  | n :: rest =>
      simp only [distributeOr] at h
      obtain ⟨more, hmore, h⟩ := bind_eq_ok_iff.mp h
      split at h
      · contradiction
      · rw [termsHold_of_distributeOr h, termsHold_foldl_addTerm,
          termsHold_of_distribute hmore, Bool.or_assoc]
        rfl

theorem termsHold_of_distributeAnd {args : List Nnf} {before terms : List (List Atom)}
    (h : distributeAnd before args = .ok terms) :
    termsHold metadata terms = (termsHold metadata before && Nnf.allHold metadata args) := by
  match args with
  | [] =>
      simp only [distributeAnd, Except.ok.injEq] at h
      simp [h, Nnf.allHold]
  | n :: rest =>
      simp only [distributeAnd] at h
      obtain ⟨right, hright, h⟩ := bind_eq_ok_iff.mp h
      have hn : termsHold metadata right = n.holds metadata := termsHold_of_distribute hright
      split at h
      · -- A false argument settles the matter, whatever the other ones are.
        rename_i hempty
        rw [List.isEmpty_iff.1 hempty] at hn
        simp only [Except.ok.injEq] at h
        simp [← h, Nnf.allHold, ← hn, termsHold]
      · split at h
        · contradiction
        · rw [termsHold_of_distributeAnd h, termsHold_product, hn, Bool.and_assoc]
          rfl

end

/-- No term at all is false and an empty term is true. -/
theorem holds_ofTerms (terms : List (List Atom)) :
    (ofTerms terms).holds metadata = termsHold metadata terms := by
  by_cases hnone : terms.isEmpty = true
  · rw [List.isEmpty_iff.1 hnone]
    rfl
  · by_cases hempty : terms.any List.isEmpty = true
    · obtain ⟨term, hterm, hnil⟩ := List.any_eq_true.1 hempty
      have htrue : termsHold metadata terms = true := by
        refine List.any_eq_true.2 ⟨term, hterm, ?_⟩
        rw [List.isEmpty_iff.1 hnil]
        rfl
      simp [ofTerms, hnone, hempty, holds, htrue]
    · simp only [ofTerms, hnone, hempty, holds, Bool.false_eq_true, ↓reduceIte]
      rfl

end Dnf

namespace Predicate

/-- Whoever has the disjunctive normal form of a predicate need not look at the predicate
itself again: evaluation succeeds and says what the normal form says. -/
theorem evaluate_of_normalize {p : Predicate} {d : Dnf} (h : p.normalize = .ok d)
    (metadata : Metadata) : p.evaluate metadata = .ok (d.holds metadata) := by
  obtain ⟨n, hnnf, h⟩ := bind_eq_ok_iff.mp h
  obtain ⟨terms, hterms, h⟩ := bind_eq_ok_iff.mp h
  have hd : Dnf.ofTerms terms = d := pure_eq_ok_iff.mp h
  rw [← hd, Dnf.holds_ofTerms, Dnf.termsHold_of_distribute hterms]
  simp [evaluate, hnnf, Except.map]

/-- A repeated atom is dropped from the second term, and the negation of the empty `and`
adds no term of its own. -/
theorem evaluate_of_normalize_repeated_atom :
    let a : Predicate := .leaf (.present "a")
    let b : Predicate := .leaf (.present "b")
    let p : Predicate := .or [.and [.or [a, b], a], .not (.and [])]
    let d : Dnf := .anyOf [[⟨"a", .present⟩], [⟨"b", .present⟩, ⟨"a", .present⟩]]
    p.normalize = .ok d ∧ p.evaluate [("a", .null)] = .ok (d.holds [("a", .null)]) := by
  intro a b p d
  have hnormal : p.normalize = .ok d := rfl
  exact ⟨hnormal, evaluate_of_normalize hnormal [("a", .null)]⟩

end Predicate

end CatalogQuery
