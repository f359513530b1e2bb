/-
Patterns of dataset names.  In a pattern an asterisk stands for any text, a question mark for any
character and every other character for itself.  The pattern of `%` and `_` that is made of it
means just that.  The one that is passed on as it is means it as long as it has no bracket: from a
bracket on it is read as a class of characters, which stands for fewer characters than it is
written with.
-/
import CatalogQuery.Proofs.Sql.DatasetRows
import Mathlib.Data.List.Infix

namespace CatalogQuery.Sql

/-- A character of a pattern stands for a piece of a name. -/
def StandsFor (c : Char) (piece : List Char) : Prop :=
  match c with
  | '*' => True
  | '?' => ∃ d, piece = [d]
  | c => piece = [c]

/-- The name is made of pieces that the characters of the pattern stand for. -/
def MatchesGlob (glob name : String) : Prop :=
  ∃ pieces, List.Forall₂ StandsFor glob.toList pieces ∧ pieces.flatten = name.toList

theorem StandsFor.length_eq_one {c : Char} {piece : List Char} (h : StandsFor c piece)
    (hstar : c ≠ '*') : piece.length = 1 := by
  unfold StandsFor at h
  split at h
  · exact absurd rfl hstar
  · obtain ⟨d, rfl⟩ := h
    rfl
  · rw [h]
    rfl

namespace WildcardPart

/-- The part stands for a piece of a text. -/
def Covers (part : WildcardPart) (piece : List Char) : Prop :=
  part = .anyText ∨ ∃ c, piece = [c] ∧ part.accepts c = true

def isSingle : WildcardPart → Bool
  | .anyChar | .char _ | .oneOf _ _ => true
  | .anyText | .broken => false

/-- What a character of a pattern stands for by itself. -/
def plain (c : Char) : WildcardPart :=
  match c with
  | '*' => .anyText
  | '?' => .anyChar
  | c => .char c

theorem plain_of_ne {c : Char} (hstar : c ≠ '*') (hmark : c ≠ '?') : plain c = .char c := by
  unfold plain
  split
  · exact absurd rfl hstar
  · exact absurd rfl hmark
  · rfl

theorem covers_plain_iff {c : Char} {piece : List Char} :
    (plain c).Covers piece ↔ StandsFor c piece := by
  unfold plain StandsFor
  split
  · simp [Covers]
  · simp [Covers, accepts]
  · simp [Covers, accepts]

theorem isSingle_of_accepts {part : WildcardPart} {c : Char} (h : part.accepts c = true) :
    part.isSingle = true := by
  cases part with
  | anyChar | char d | oneOf negated ranges => rfl
  | anyText | broken => cases h

theorem allMatch_cons_of_ne {part : WildcardPart} (h : part ≠ .anyText)
    (parts : List WildcardPart) (text : List Char) :
    allMatch (part :: parts) text =
      match text with
      | [] => false
      | c :: rest => part.accepts c && allMatch parts rest := by
  cases part with
  | anyText => exact absurd rfl h
  | anyChar | char c | oneOf negated ranges | broken => cases text <;> rfl

theorem allMatch_cons_iff {part : WildcardPart} {parts : List WildcardPart} {text : List Char} :
    allMatch (part :: parts) text = true ↔
      ∃ piece rest, part.Covers piece ∧ piece ++ rest = text ∧ allMatch parts rest = true := by
  by_cases hany : part = .anyText
  · subst hany
    rw [allMatch, List.any_eq_true]
    constructor
    · rintro ⟨rest, hrest, h⟩
      obtain ⟨piece, hpiece⟩ := (List.mem_tails _ _).mp hrest
      exact ⟨piece, rest, .inl rfl, hpiece, h⟩
    · rintro ⟨piece, rest, -, hpiece, h⟩
      exact ⟨rest, (List.mem_tails _ _).mpr ⟨piece, hpiece⟩, h⟩
  · rw [allMatch_cons_of_ne hany]
    cases text with
    | nil =>
        refine ⟨nofun, ?_⟩
        rintro ⟨piece, rest, hcovers | ⟨c, rfl, -⟩, hpiece, -⟩
        · exact absurd hcovers hany
        · cases hpiece
    | cons c text =>
        rw [Bool.and_eq_true]
        constructor
        · rintro ⟨haccepts, h⟩
          exact ⟨[c], text, .inr ⟨c, rfl, haccepts⟩, rfl, h⟩
        · rintro ⟨piece, rest, hcovers | ⟨d, rfl, haccepts⟩, hpiece, h⟩
          · exact absurd hcovers hany
          · cases hpiece
            exact ⟨haccepts, h⟩

/-- A text matches if it is made of pieces that the parts stand for. -/
theorem allMatch_iff {parts : List WildcardPart} {text : List Char} :
    allMatch parts text = true ↔
      ∃ pieces, List.Forall₂ Covers parts pieces ∧ pieces.flatten = text := by
  induction parts generalizing text with
  | nil =>
      rw [allMatch, List.isEmpty_iff]
      constructor
      · rintro rfl
        exact ⟨[], .nil, rfl⟩
      · rintro ⟨_, ⟨⟩, rfl⟩
        rfl
  | cons part parts ih =>
      rw [allMatch_cons_iff]
      constructor
      · rintro ⟨piece, rest, hpiece, rfl, hrest⟩
        obtain ⟨pieces, hpieces, rfl⟩ := ih.mp hrest
        exact ⟨piece :: pieces, .cons hpiece hpieces, rfl⟩
      · rintro ⟨_, hpiece | ⟨hpiece, hpieces⟩, rfl⟩
        exact ⟨_, _, hpiece, rfl, ih.mpr ⟨_, hpieces, rfl⟩⟩

theorem exists_short_of_covers {parts : List WildcardPart} {pieces : List (List Char)}
    (h : List.Forall₂ Covers parts pieces) :
    ∃ short, List.Forall₂ Covers parts short ∧ short.flatten.length = parts.countP isSingle := by
  induction h with
  | nil => exact ⟨[], .nil, rfl⟩
  | @cons part piece parts _ hpiece _ ih =>
      obtain ⟨short, hshort, hlength⟩ := ih
      rcases hpiece with rfl | ⟨c, rfl, haccepts⟩
      · exact ⟨[] :: short, .cons (.inl rfl) hshort, hlength⟩
      · refine ⟨[c] :: short, .cons (.inr ⟨c, rfl, haccepts⟩) hshort, ?_⟩
        rw [List.countP_cons_of_pos (isSingle_of_accepts haccepts), ← hlength]
        simp only [List.flatten_cons, List.singleton_append, List.length_cons]

/-- Where anything matches, something matches that has one character for each part that stands for
a single one, and no others. -/
theorem exists_short_of_allMatch {parts : List WildcardPart} {text : List Char}
    (h : allMatch parts text = true) :
    ∃ short, allMatch parts short = true ∧ short.length = parts.countP isSingle := by
  obtain ⟨pieces, hpieces, -⟩ := allMatch_iff.mp h
  obtain ⟨short, hshort, hlength⟩ := exists_short_of_covers hpieces
  exact ⟨short.flatten, allMatch_iff.mpr ⟨short, hshort, rfl⟩, hlength⟩

end WildcardPart

open WildcardPart (plain isSingle)

/-- The characters stand for themselves as parts of a pattern. -/
theorem allMatch_map_plain_iff {glob name : String} :
    WildcardPart.allMatch (glob.toList.map plain) name.toList = true ↔ MatchesGlob glob name := by
  rw [WildcardPart.allMatch_iff, MatchesGlob]
  simp only [List.forall₂_map_left_iff, WildcardPart.covers_plain_iff]

theorem likeParts_cons_of_ne {c : Char} (hany : c ≠ '%') (hchar : c ≠ '_') (hescape : c ≠ '\\')
    (rest : List Char) : likeParts (c :: rest) = .char c :: likeParts rest := by
  rw [likeParts]
  · exact hany
  · exact hchar
  · exact fun _ _ hc _ => hescape hc
  · exact fun hc _ => hescape hc

/-- The pattern that is made of a glob is read as the characters of the glob. -/
theorem likeParts_likeOfGlob (glob : String) :
    likeParts (likeOfGlob glob).toList = glob.toList.map plain := by
  rw [likeOfGlob, String.toList_ofList]
  induction glob.toList with
  | nil => rfl
  | cons c rest ih =>
      rw [List.flatMap_cons, List.map_cons, ← ih]
      by_cases hstar : c = '*'
      · subst hstar
        rfl
      by_cases hmark : c = '?'
      · subst hmark
        rfl
      rw [if_neg hstar, if_neg hmark, WildcardPart.plain_of_ne hstar hmark]
      by_cases hspecial : c = '%' ∨ c = '_' ∨ c = '\\'
      · rw [if_pos hspecial]
        rfl
      · rw [if_neg hspecial]
        push Not at hspecial
        exact likeParts_cons_of_ne hspecial.1 hspecial.2.1 hspecial.2.2 _

/-- The pattern that is made of a glob matches what the glob matches. -/
theorem likeMatches_likeOfGlob {glob name : String} :
    likeMatches (likeOfGlob glob) name = true ↔ MatchesGlob glob name := by
  rw [likeMatches, likeParts_likeOfGlob, allMatch_map_plain_iff]

instance (glob name : String) : Decidable (MatchesGlob glob name) :=
  decidable_of_iff _ likeMatches_likeOfGlob

/-- A pattern without brackets is read as its characters. -/
theorem globParts_eq_map_plain {glob : List Char} (h : '[' ∉ glob) :
    globParts .outside glob = glob.map plain := by
  induction glob with
  | nil => rfl
  | cons c rest ih =>
      obtain ⟨hc, hrest⟩ := List.ne_and_not_mem_of_not_mem_cons h
      have hstep : BracketState.step c .outside = (some (plain c), .outside) := by
        rw [BracketState.step]
        by_cases hstar : c = '*'
        · subst hstar
          rfl
        by_cases hmark : c = '?'
        · subst hmark
          rfl
        rw [if_neg hstar, if_neg hmark, if_neg hc.symm, WildcardPart.plain_of_ne hstar hmark]
      rw [globParts, hstep, List.map_cons, ← ih hrest]
      rfl

theorem fst_stepInside_eq_none {c : Char} (hclose : c ≠ ']') (negated : Bool)
    (ranges : List (Char × Char)) (last : Option Char) (hyphen : Bool) :
    (BracketState.stepInside negated ranges last hyphen c).1 = none := by
  unfold BracketState.stepInside
  rw [if_neg hclose]
  cases last with
  | none => rfl
  | some lo =>
      cases hyphen with
      | true => rfl
      | false =>
          dsimp only
          split <;> rfl

/-- An asterisk completes no part that stands for a single character. -/
theorem countP_step_star (state : BracketState) :
    (state.step '*').1.toList.countP isSingle = 0 := by
  cases state with
  | outside => rfl
  | opened negated =>
      have hstep : (BracketState.opened negated).step '*' =
          BracketState.stepInside negated [] none false '*' := by simp [BracketState.step]
      rw [hstep, fst_stepInside_eq_none (by decide)]
      rfl
  | inside negated ranges last hyphen =>
      rw [BracketState.step, fst_stepInside_eq_none (by decide)]
      rfl

/-- A character completes at most one part that stands for a single character, and an asterisk
completes none. -/
theorem countP_step_le (c : Char) (state : BracketState) :
    (state.step c).1.toList.countP isSingle ≤ [c].countP (· ≠ '*') := by
  by_cases hstar : c = '*'
  · subst hstar
    rw [countP_step_star]
    exact Nat.zero_le _
  · rw [List.countP_singleton, if_pos (by simpa using hstar)]
    calc (state.step c).1.toList.countP isSingle ≤ (state.step c).1.toList.length :=
          List.countP_le_length
      _ ≤ 1 := by cases (state.step c).1 <;> simp

/-- A pattern with brackets has no more parts that stand for single characters than it has
characters other than asterisks. -/
theorem countP_globParts_le (state : BracketState) (glob : List Char) :
    (globParts state glob).countP isSingle ≤ glob.countP (· ≠ '*') := by
  induction glob generalizing state with
  | nil =>
      rw [globParts]
      split <;> exact Nat.le_refl 0
  | cons c rest ih =>
      rw [globParts, List.countP_append, ← List.singleton_append, List.countP_append]
      exact Nat.add_le_add (countP_step_le c state) (ih _)

theorem countP_globParts_lt {glob : List Char} (h : '[' ∈ glob) :
    (globParts .outside glob).countP isSingle < glob.countP (· ≠ '*') := by
  induction glob with
  | nil => cases h
  | cons c rest ih =>
      by_cases hbracket : c = '['
      · subst hbracket
        have hle := countP_globParts_le (.opened false) rest
        have hparts : globParts .outside ('[' :: rest) = globParts (.opened false) rest := rfl
        rw [hparts, List.countP_cons_of_pos (by decide)]
        omega
      · have hnext : (BracketState.step c .outside).2 = .outside := by
          simp only [BracketState.step]
          split_ifs <;> rfl
        have hle := countP_step_le c .outside
        have hlt := ih ((List.mem_cons.mp h).resolve_left (Ne.symm hbracket))
        rw [globParts, List.countP_append, ← List.singleton_append, List.countP_append, hnext]
        omega

theorem countP_le_length {glob : List Char} {pieces : List (List Char)}
    (h : List.Forall₂ StandsFor glob pieces) : glob.countP (· ≠ '*') ≤ pieces.flatten.length := by
  induction h with
  | nil => exact Nat.le_refl 0
  | @cons c piece rest _ hpiece _ ih =>
      rw [List.flatten_cons, List.length_append, ← List.singleton_append, List.countP_append]
      refine Nat.add_le_add ?_ ih
      by_cases hstar : c = '*'
      · subst hstar
        exact Nat.zero_le _
      · calc [c].countP (· ≠ '*') ≤ 1 := List.countP_le_length
          _ = piece.length := (hpiece.length_eq_one hstar).symm

/-- A pattern matches itself as a name. -/
theorem matchesGlob_self (glob : String) : MatchesGlob glob glob := by
  refine ⟨glob.toList.map fun c => [c], ?_, ?_⟩
  · rw [List.forall₂_map_right_iff, List.forall₂_same]
    intro c _
    unfold StandsFor
    split
    · trivial
    · exact ⟨_, rfl⟩
    · rfl
  · rw [← List.flatMap_def, List.flatMap_singleton']

/-- A pattern in the language with brackets is read as it is meant just if it has no opening
bracket. -/
theorem globMatches_iff_forall {glob : String} :
    (∀ name, globMatches glob name = true ↔ MatchesGlob glob name) ↔ '[' ∉ glob.toList := by
  constructor
  · intro hall hbracket
    -- the pattern matches itself, so it matches a name shorter than any that it stands for
    obtain ⟨short, hshort, hlength⟩ :=
      WildcardPart.exists_short_of_allMatch ((hall glob).mpr (matchesGlob_self glob))
    have hmatches : globMatches glob (String.ofList short) = true := by
      rw [globMatches, String.toList_ofList]
      exact hshort
    obtain ⟨pieces, hpieces, hflatten⟩ := (hall _).mp hmatches
    have hle := countP_le_length hpieces
    have hlt := countP_globParts_lt hbracket
    rw [hflatten, String.toList_ofList] at hle
    omega
  · intro h name
    rw [globMatches, globParts_eq_map_plain h, allMatch_map_plain_iff]

/-- The condition selects the datasets with these names, whatever else is in scope. -/
def Expr.SelectsNames (db : Database) (p : String → Prop) (condition : Expr) : Prop :=
  ∀ (d : CatalogDataset) (scope : Scope) (known : Bool), ∃ b,
    condition.Selects db ((.d, Database.datasetFields d) :: scope) known b ∧ (b = true ↔ p d.name)

def plainDataset (name : String) : CatalogDataset where
  space := "s"
  name := name
  metadata := .emptyObject
  isObject := Document.isObject_emptyObject

theorem Expr.Selects.unique {db : Database} {scope : Scope} {known b c : Bool} {condition : Expr}
    (h : condition.Selects db scope known b) (hother : condition.Selects db scope known c) :
    b = c := by
  obtain ⟨t, ht, rfl, -⟩ := h
  obtain ⟨u, hu, rfl, -⟩ := hother
  rw [Option.some.inj (ht.symm.trans hu)]

theorem selectsNames_iff {db : Database} {dialect : Dialect} {selector : DatasetSelector}
    {p : String → Prop} :
    (nameCondition dialect selector).SelectsNames db p ↔
      ∀ name, nameMatches dialect selector name = true ↔ p name := by
  constructor
  · intro h name
    obtain ⟨b, hb, hiff⟩ := h (plainDataset name) [] true
    have hsame : nameMatches dialect selector name = b :=
      (selects_nameCondition dialect selector (plainDataset name) [] true).unique hb
    rw [hsame]
    exact hiff
  · intro h d scope known
    exact ⟨_, selects_nameCondition dialect selector d scope known, h d.name⟩

/-- The condition that is made of `%` and `_` always selects the names that a pattern matches.  The
one that passes the pattern on selects the same names just if there is no opening bracket in it.
So far the query for it returns the datasets of the namespace with these names. -/
theorem selectsNames_nameCondition (db : Database) {selector : DatasetSelector}
    (h : selector.pattern = true) :
    (nameCondition .postgres selector).SelectsNames db (MatchesGlob selector.name) ∧
      ((nameCondition .sqlite selector).SelectsNames db (MatchesGlob selector.name) ↔
        '[' ∉ selector.name.toList) ∧
      ∀ dialect space, dialect = .postgres ∨ '[' ∉ selector.name.toList →
        (namedDatasets dialect space selector).ReturnsDatasets db
          (db.catalog.datasets.filter fun d =>
            decide (d.space = space ∧ MatchesGlob selector.name d.name)) := by
  have hpostgres (name : String) :
      nameMatches .postgres selector name = true ↔ MatchesGlob selector.name name := by
    simp only [nameMatches, h]
    exact likeMatches_likeOfGlob
  have hsqlite (name : String) :
      nameMatches .sqlite selector name = globMatches selector.name name := by
    simp only [nameMatches, h]
  refine ⟨selectsNames_iff.mpr hpostgres, ?_, fun dialect space hmeant => ?_⟩
  · rw [selectsNames_iff]
    simp only [hsqlite]
    exact globMatches_iff_forall
  · have hname (name : String) :
        nameMatches dialect selector name = decide (MatchesGlob selector.name name) := by
      rw [Bool.eq_iff_iff, decide_eq_true_iff]
      cases dialect with
      | postgres => exact hpostgres name
      | sqlite =>
          rw [hsqlite]
          exact globMatches_iff_forall.mpr (hmeant.resolve_left nofun) name
    simp only [Bool.decide_and, ← hname]
    exact returnsDatasets_namedDatasets dialect space selector

/-- The datasets whose names go on after a given beginning. -/
def runSelector : DatasetSelector := ⟨some "s", "run_?*", true, false, false⟩

theorem selectsNames_nameCondition_run :
    runSelector.pattern = true ∧
      (nameCondition .postgres runSelector).SelectsNames mixedStore (MatchesGlob "run_?*") ∧
      (nameCondition .sqlite runSelector).SelectsNames mixedStore (MatchesGlob "run_?*") ∧
      MatchesGlob "run_?*" "run_12" ∧ ¬MatchesGlob "run_?*" "runs12" := by
  have hpattern : runSelector.pattern = true := rfl
  have hall := selectsNames_nameCondition mixedStore hpattern
  exact ⟨hpattern, hall.1, hall.2.1.mpr (by decide), by decide, by decide⟩

/-- The datasets whose name is this one, with its brackets. -/
def bracketSelector : DatasetSelector := ⟨some "test", "run[1]", true, false, false⟩

/-- Passed on as it is, the pattern selects another name and not the one that it means. -/
theorem not_selectsNames_brackets :
    bracketSelector.pattern = true ∧
      (nameCondition .sqlite bracketSelector).Selects mixedStore
        [(.d, Database.datasetFields (plainDataset "run1"))] true true ∧
      (nameCondition .postgres bracketSelector).Selects mixedStore
        [(.d, Database.datasetFields (plainDataset "run1"))] true false ∧
      (nameCondition .sqlite bracketSelector).Selects mixedStore
        [(.d, Database.datasetFields (plainDataset "run[1]"))] true false ∧
      MatchesGlob "run[1]" "run[1]" ∧ ¬MatchesGlob "run[1]" "run1" := by
  have hselects (dialect : Dialect) (name : String) :
      (nameCondition dialect bracketSelector).Selects mixedStore
        [(.d, Database.datasetFields (plainDataset name))] true
        (nameMatches dialect bracketSelector name) :=
    selects_nameCondition dialect bracketSelector (plainDataset name) [] true
  have hmatches : nameMatches .sqlite bracketSelector "run1" = true ∧
      nameMatches .postgres bracketSelector "run1" = false ∧
      nameMatches .sqlite bracketSelector "run[1]" = false := by decide
  refine ⟨rfl, ?_, ?_, ?_, by decide, by decide⟩
  · exact hmatches.1 ▸ hselects .sqlite "run1"
  · exact hmatches.2.1 ▸ hselects .postgres "run1"
  · exact hmatches.2.2 ▸ hselects .sqlite "run[1]"

end CatalogQuery.Sql
