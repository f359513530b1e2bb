/-
Negations are pushed down to the atoms before anything is evaluated, and the negation of
an atom is another atom that may fail together with it.  Read in three truth values this
is the negation that leaves the unknown as it is: an atom is true where it holds, false
where its negation holds and unknown elsewhere, and the connectives do the rest.
-/
import CatalogQuery.Predicate.NormalForm
import CatalogQuery.Proofs.Truth

namespace CatalogQuery

variable {metadata : Metadata}

theorem Comparison.accepts_negate (c : Comparison) (o : Ordering) :
    c.negate.accepts o = !c.accepts o := by
  cases c <;> cases o <;> rfl

/-- A value that passes a test does not pass its negation; one of another type passes
neither. -/
theorem ScalarTest.not_passes_negate {t : ScalarTest} {value : Json}
    (h : t.passes value = true) : t.negate.passes value = false := by
  cases t with
  | compare c v =>
      cases horder : v.order? value with
      | none => simp [passes, horder] at h
      | some o =>
          simp only [passes, horder] at h
          simp [negate, passes, horder, Comparison.accepts_negate, h]
  | matching p negated =>
      cases value <;> simp only [passes, Bool.false_eq_true] at h
      case string s =>
        simp only [bne_iff_ne, ne_eq] at h
        cases negated <;> simp_all [negate, passes]
  | inRange low high | notInRange low high =>
      cases hlow : low.order? value with
      | none => simp [passes, hlow] at h
      | some below =>
          cases hhigh : high.order? value with
          | none => simp [passes, hlow, hhigh] at h
          | some above =>
              simp only [passes, hlow, hhigh] at h
              simp only [negate, passes, hlow, hhigh]
              cases below <;> cases above <;> first | rfl | contradiction
  | inSet vs =>
      simp only [passes] at h
      simp only [negate, passes, h, Bool.not_true]
  | notInSet vs =>
      simp only [passes, Bool.not_eq_true'] at h
      simpa only [negate, passes] using h

/-- Some item passes the one test, so not every item passes the other. -/
theorem not_all_of_any {α : Type} {p q : α → Bool} {items : List α}
    (hpq : ∀ a, p a = true → q a = false) (h : items.any p = true) : items.all q = false := by
  obtain ⟨a, ha, hp⟩ := List.any_eq_true.1 h
  refine List.all_eq_false.2 ⟨a, ha, ?_⟩
  simp [hpq a hp]

theorem not_any_of_all {α : Type} {p q : α → Bool} {items : List α}
    (hpq : ∀ a, p a = true → q a = false) (h : items.all p = true) : items.any q = false := by
  refine List.any_eq_false.2 fun a ha => ?_
  simp [hpq a (List.all_eq_true.1 h a ha)]

theorem Accessor.not_meets_negate {accessor : Accessor} {t : ScalarTest} {value : Json}
    (h : accessor.meets t value = true) : accessor.dual.meets t.negate value = false := by
  cases accessor <;> cases value <;> simp only [meets, Bool.false_eq_true] at h <;>
    simp only [dual, meets]
  case any.array items =>
    exact not_all_of_any (fun _ => ScalarTest.not_passes_negate) h
  case all.array items =>
    exact not_any_of_all (fun _ => ScalarTest.not_passes_negate) h
  case index.array i items =>
    cases hitem : itemAt? items i.toInt with
    | none => rfl
    | some item =>
        rw [hitem] at h
        exact ScalarTest.not_passes_negate h
  case key.object k members =>
    cases hmember : Assoc.get? k members with
    | none => rfl
    | some member =>
        rw [hmember] at h
        exact ScalarTest.not_passes_negate h
  all_goals exact ScalarTest.not_passes_negate h

theorem Test.not_holds_negate {t : Test} {found : Option Json} (h : t.holds found = true) :
    t.negate.holds found = false := by
  cases t with
  | scalar accessor t =>
      cases found with
      | none => simp [holds] at h
      | some value => exact Accessor.not_meets_negate h
  | present => cases found <;> simp_all [holds, negate]
  | notPresent => cases found <;> simp_all [holds, negate]
  | contains v =>
      cases found with
      | none => rfl
      | some value => cases value <;> simp_all [holds, negate]
  | notContains v =>
      cases found with
      | none => rfl
      | some value => cases value <;> simp_all [holds, negate]

/-- An atom and its negation never hold of the same document. -/
theorem Atom.not_holds_negate {a : Atom} (h : a.holds metadata = true) :
    a.negate.holds metadata = false :=
  Test.not_holds_negate h

/-- The truth value of an atom: false where its negation holds, and unknown where neither
of the two does. -/
def Atom.truth (metadata : Metadata) (a : Atom) : Truth :=
  if a.holds metadata then .yes
  else if a.negate.holds metadata then .no
  else .unknown

theorem Atom.isYes_truth (a : Atom) : (a.truth metadata).isYes = a.holds metadata := by
  cases hyes : a.holds metadata <;> cases hno : a.negate.holds metadata <;>
    simp [truth, hyes, hno, Truth.isYes]

theorem Atom.isNo_truth (a : Atom) : (a.truth metadata).isNo = a.negate.holds metadata := by
  cases hyes : a.holds metadata with
  | false => cases hno : a.negate.holds metadata <;> simp [truth, hyes, hno, Truth.isNo]
  | true => simp [truth, hyes, not_holds_negate hyes, Truth.isNo]

namespace Predicate

mutual

/-- Whether every leaf has an atom and no `or` is empty. -/
def isValid : Predicate → Bool
  | .and args => areValid args
  | .or args => !args.isEmpty && areValid args
  | .not p => p.isValid
  | .leaf l => l.toAtom.isOk

def areValid : List Predicate → Bool
  | [] => true
  | p :: rest => p.isValid && areValid rest

end

mutual

def truth (metadata : Metadata) : Predicate → Truth
  | .and args => truthOfAll metadata args
  | .or args => truthOfSome metadata args
  | .not p => (p.truth metadata).not
  | .leaf l =>
    match l.toAtom with
    | .ok a => a.truth metadata
    | .error _ => .unknown

/-- The truth value of the conjunction of predicates. -/
def truthOfAll (metadata : Metadata) : List Predicate → Truth
  | [] => .yes
  | p :: rest => (p.truth metadata).and (truthOfAll metadata rest)

/-- The truth value of the disjunction of predicates. -/
def truthOfSome (metadata : Metadata) : List Predicate → Truth
  | [] => .no
  | p :: rest => (p.truth metadata).or (truthOfSome metadata rest)

end

/-- Whether a truth value is the one that a form under this polarity stands for. -/
def settled (negated : Bool) (t : Truth) : Bool :=
  if negated then t.isNo else t.isYes

theorem settled_not (negated : Bool) (t : Truth) :
    settled negated t.not = settled (!negated) t := by
  cases negated <;> simp [settled]

/-- Both connectives at once, since a negation turns the one into the other. -/
structure Forms (metadata : Metadata) (negated : Bool) (args : List Predicate)
    (forms : List Nnf) : Prop where
  all : Nnf.allHold metadata forms =
    settled negated (if negated then truthOfSome metadata args else truthOfAll metadata args)
  any : Nnf.anyHolds metadata forms =
    settled negated (if negated then truthOfAll metadata args else truthOfSome metadata args)

theorem Forms.nil (negated : Bool) : Forms metadata negated [] [] := by
  cases negated <;> exact ⟨rfl, rfl⟩

theorem Forms.cons {negated : Bool} {p : Predicate} {rest : List Predicate} {n : Nnf}
    {forms : List Nnf} (hn : n.holds metadata = settled negated (p.truth metadata))
    (hforms : Forms metadata negated rest forms) :
    Forms metadata negated (p :: rest) (n :: forms) := by
  obtain ⟨hall, hany⟩ := hforms
  constructor
  · rw [Nnf.allHold, hn, hall]
    cases negated <;> simp [settled, truthOfSome, truthOfAll]
  · rw [Nnf.anyHolds, hn, hany]
    cases negated <;> simp [settled, truthOfSome, truthOfAll]

mutual

/-- A valid predicate has a negation normal form under either polarity, and the form holds
where the predicate has the truth value of that polarity. -/
theorem exists_toNnfUnder {p : Predicate} (hvalid : p.isValid = true) (negated : Bool)
    (metadata : Metadata) :
    ∃ n, p.toNnfUnder negated = .ok n ∧ n.holds metadata = settled negated (p.truth metadata) := by
  match p with
  | .not p =>
      have hp : p.isValid = true := by simpa only [isValid] using hvalid
      obtain ⟨n, hn, hholds⟩ := exists_toNnfUnder hp (!negated) metadata
      refine ⟨n, by simpa only [toNnfUnder] using hn, ?_⟩
      rw [hholds, truth, settled_not]
  | .leaf l =>
      cases hatom : l.toAtom with
      | error f => simp [isValid, hatom, Except.isOk, Except.toBool] at hvalid
      | ok a =>
          refine ⟨.atom (if negated then a.negate else a), ?_, ?_⟩
          · simp [toNnfUnder, hatom, bind, Except.bind, pure, Except.pure]
          · cases negated <;>
              simp [truth, hatom, Nnf.holds, settled, Atom.isYes_truth, Atom.isNo_truth]
  | .and args =>
      have hargs : areValid args = true := by simpa only [isValid] using hvalid
      obtain ⟨forms, hforms, hholds⟩ := exists_toNnfsUnder hargs negated metadata
      refine ⟨if negated then .or forms else .and forms, ?_, ?_⟩
      · simp [toNnfUnder, hforms, bind, Except.bind, pure, Except.pure]
      · cases negated with
        | false => simpa [Nnf.holds, truth] using hholds.all
        | true => simpa [Nnf.holds, truth] using hholds.any
  | .or args =>
      simp only [isValid, Bool.and_eq_true, Bool.not_eq_true'] at hvalid
      obtain ⟨forms, hforms, hholds⟩ := exists_toNnfsUnder hvalid.2 negated metadata
      refine ⟨if negated then .and forms else .or forms, ?_, ?_⟩
      · simp [toNnfUnder, hvalid.1, hforms, bind, Except.bind, pure, Except.pure]
      · cases negated with
        | false => simpa [Nnf.holds, truth] using hholds.any
        | true => simpa [Nnf.holds, truth] using hholds.all

theorem exists_toNnfsUnder {args : List Predicate} (hvalid : areValid args = true)
    (negated : Bool) (metadata : Metadata) :
    ∃ forms, toNnfsUnder negated args = .ok forms ∧ Forms metadata negated args forms := by
  match args with
  | [] => exact ⟨[], rfl, .nil negated⟩
  | p :: rest =>
      simp only [areValid, Bool.and_eq_true] at hvalid
      obtain ⟨n, hn, hholds⟩ := exists_toNnfUnder hvalid.1 negated metadata
      obtain ⟨forms, hforms, hrest⟩ := exists_toNnfsUnder hvalid.2 negated metadata
      refine ⟨n :: forms, ?_, .cons hholds hrest⟩
      simp [toNnfsUnder, hn, hforms, bind, Except.bind, pure, Except.pure]

end

theorem evaluate_of_isValid {p : Predicate} (hvalid : p.isValid = true) (metadata : Metadata) :
    p.evaluate metadata = .ok (p.truth metadata).isYes := by
  obtain ⟨n, hn, hholds⟩ := exists_toNnfUnder hvalid false metadata
  simp [evaluate, toNnf, hn, hholds, Except.map, settled]

/-- Evaluation of a valid predicate finds out whether it is true, and that of its negation
whether it is false.  Atoms are never both, so neither are predicates. -/
theorem evaluate_not_of_isValid {p : Predicate} (hvalid : p.isValid = true)
    (metadata : Metadata) :
    (∀ a : Atom, ¬(a.holds metadata = true ∧ a.negate.holds metadata = true)) ∧
      p.evaluate metadata = .ok (p.truth metadata).isYes ∧
      (Predicate.not p).evaluate metadata = .ok (p.truth metadata).isNo ∧
      ¬(p.evaluate metadata = .ok true ∧ (Predicate.not p).evaluate metadata = .ok true) := by
  have hyes := evaluate_of_isValid hvalid metadata
  have hno : (Predicate.not p).evaluate metadata = .ok (p.truth metadata).isNo := by
    rw [evaluate_of_isValid (by simpa only [isValid] using hvalid), truth, Truth.isYes_not]
  refine ⟨?_, hyes, hno, ?_⟩
  · rintro a ⟨hholds, hnegation⟩
    rw [Atom.not_holds_negate hholds] at hnegation
    contradiction
  · rintro ⟨htrue, hfalse⟩
    rw [hyes, Except.ok.injEq] at htrue
    rw [hno, Except.ok.injEq] at hfalse
    exact (p.truth metadata).not_isYes_and_isNo ⟨htrue, hfalse⟩

/-- Every item of an array is to be below five, or the field `n` is not to be one.  The
field is missing and the array has an item that is no number, so neither the predicate nor
its negation holds. -/
theorem evaluate_not_of_isValid_mixed_array :
    let below : Predicate := .leaf (.compare ⟨"runs", .all⟩ (.order .lt) (.int 5))
    let one : Predicate := .leaf (.compare ⟨"n", .value⟩ (.order .eq) (.int 1))
    let p : Predicate := .or [below, .not one]
    let metadata : Metadata := [("runs", .array [.int 1, .string "x"])]
    p.isValid = true ∧ p.truth metadata = .unknown ∧ p.evaluate metadata = .ok false ∧
      (Predicate.not p).evaluate metadata = .ok false := by
  intro below one p metadata
  have hvalid : p.isValid = true := rfl
  have hunknown : p.truth metadata = .unknown := by decide
  obtain ⟨-, hyes, hno, -⟩ := evaluate_not_of_isValid hvalid metadata
  rw [hunknown] at hyes hno
  exact ⟨hvalid, hunknown, hyes, hno⟩

end Predicate

end CatalogQuery
