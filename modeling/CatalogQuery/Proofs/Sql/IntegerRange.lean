/-
The integers of the queries that trees are made into.  Constants and positions have sixty-four
bits with a sign, and so have the numbers that a condition brings itself; hence each integer of a
condition fits.  A query for files has the integers of the queries that it is made of, and those
of its own window.
-/
import CatalogQuery.Proofs.Sql.Integers
import CatalogQuery.Proofs.Sql.Composition
import CatalogQuery.Sql.Datasets
import CatalogQuery.Sql.Files
import CatalogQuery.Word64

namespace CatalogQuery.Sql

/-- All of the integers fit sixty-four bits with a sign. -/
def AllFit (is : List Int) : Prop := ∀ n ∈ is, fitsInt64 n = true

section Lists

variable {is js : List Int}

theorem allFit_nil : AllFit [] := nofun

theorem AllFit.append (h : AllFit is) (h' : AllFit js) : AllFit (is ++ js) :=
  List.forall_mem_append.mpr ⟨h, h'⟩

theorem AllFit.not_mem (h : AllFit is) {n : Int} (hn : fitsInt64 n = false) : n ∉ is := by
  intro hmem
  rw [h n hmem] at hn
  cases hn

theorem allFit_singleton {n : Int} (h : fitsInt64 n = true) : AllFit [n] :=
  List.forall_mem_singleton.mpr h

end Lists

theorem allFit_literal (c : Constant) : AllFit (literal c).integers := by
  cases c with
  | int n => exact allFit_singleton (fitsInt64_toInt n)
  | bool b | float x | text s => exact allFit_nil

theorem allFit_truth (dialect : Dialect) (b : Bool) : AllFit (truth dialect b).integers := by
  cases dialect with
  | sqlite => cases b <;> exact allFit_singleton rfl
  | postgres => exact allFit_nil

theorem IsElement.allFit {e : Expr} (h : IsElement e) : AllFit e.integers := by
  cases h <;> exact allFit_nil

/-- What is built from parts whose integers fit has integers that fit. -/
theorem Expr.IsBuiltFrom.allFit {p : Expr → Prop} {e : Expr} (h : e.IsBuiltFrom p)
    (hp : ∀ e, p e → AllFit e.integers) : AllFit e.integers := by
  have hone : AllFit [1] := allFit_singleton rfl
  induction h with
  | part h => exact hp _ h
  | text s => exact allFit_nil
  | literal c => exact allFit_literal c
  | truth dialect b => exact allFit_truth dialect b
  | binary op _ _ ihleft ihright => exact (ihleft hp).append (ihright hp)
  | guarded _ _ ihguard ihtest => exact (ihguard hp).append (ihtest hp)
  | jsonbItem _ i ih => exact (ih hp).append (allFit_singleton (fitsInt64_toInt i))
  | someJsonItem _ _ _ ih ihcondition | someJsonbItem _ _ ih ihcondition =>
      exact hone.append ((ih hp).append (ihcondition fun e he => he.allFit))
  | group _ ih | not _ ih | isNull _ ih | isNotNull _ ih | jsonbType _ ih | jsonbText _ ih
  | jsonbArrayLength _ ih => exact ih hp
  | oneOf _ _ ih | jsonType _ _ ih | jsonExtract _ _ ih | jsonArrayLength _ _ ih
  | jsonbMember _ _ ih | jsonbCast _ _ ih => exact ih hp

/-- The integers of the condition of a normal form fit if those of the document do. -/
theorem allFit_condition {document : Expr} (h : AllFit document.integers) (dialect : Dialect)
    (form : Dnf) : AllFit (condition dialect document form).integers := by
  apply (isBuiltFrom_condition dialect document form).allFit
  rintro e rfl
  exact h

attribute [local simp] Item.integers OrderKey.integers Window.integers Expr.integers
  Source.integers Query.integers

section Fragments

variable {columns : ColumnSet} {inner : Fragment}

theorem integers_projection (columns : ColumnSet) (a : Alias) :
    (columns.projection a).flatMap Item.integers = [] := by
  obtain ⟨metadata, provenance⟩ := columns
  cases metadata <;> cases provenance <;> rfl

theorem integers_filesWhere (columns : ColumnSet) (condition : Expr) :
    (columns.filesWhere condition).integers = condition.integers := by
  simp [ColumnSet.filesWhere, integers_projection]

theorem integers_combined {α : Type} (op : SetOperation) (operand : α → Nat → Query)
    {integersOf : α → List Int} (h : ∀ a i, (operand a i).integers = integersOf a) (q : Query)
    (rest : List α) (n : Nat) :
    ((rest.zipIdx n).foldl (fun q (a, i) => .combined op q (operand a i)) q).integers =
      q.integers ++ rest.flatMap integersOf := by
  induction rest generalizing q n with
  | nil => exact (List.append_nil _).symm
  | cons a rest ih =>
      rw [List.zipIdx_cons, List.foldl_cons, ih, Query.integers, h, List.flatMap_cons,
        List.append_assoc]

namespace Fragment

theorem integers_ofIds (ids : List String) (columns : ColumnSet) :
    (ofIds ids columns).query.integers = [] :=
  integers_filesWhere columns _

theorem integers_anyNamed (first : String × String) (rest : List (String × String)) :
    (anyNamed first rest).integers = [] := by
  fun_induction anyNamed first rest with
  | case1 => rfl
  | case2 did next rest ih => rw [Expr.integers, ih]; rfl

theorem integers_ofDids (first : String × String) (rest : List (String × String))
    (columns : ColumnSet) : (ofDids first rest columns).query.integers = [] :=
  (integers_filesWhere columns _).trans (integers_anyNamed first rest)

theorem integers_combine (op : SetOperation) (first : Fragment) (rest : List Fragment)
    (columns : ColumnSet) :
    (combine op first rest columns).query.integers =
      (first :: rest).flatMap fun f => f.query.integers := by
  have hoperand (f : Fragment) (i : Nat) : (f.operandIds i).integers = f.query.integers := rfl
  have hall := integers_combined op operandIds hoperand (first.operandIds 0) rest 1
  exact (integers_filesWhere columns _).trans hall

theorem integers_step (direction : Direction) (inner : Fragment) (columns : ColumnSet) :
    (inner.step direction columns).query.integers = inner.query.integers :=
  integers_filesWhere columns _

theorem integers_windowed (window : Window) (inner : Fragment) (columns : ColumnSet) :
    (inner.windowed window columns).query.integers = inner.query.integers ++ window.integers := by
  simp [windowed, Fragment.as, integers_projection]

theorem integers_filtered (condition : Expr) (inner : Fragment) (columns : ColumnSet) :
    (inner.filtered condition columns).query.integers =
      inner.query.integers ++ condition.integers := by
  simp [filtered, Fragment.as, integers_projection]

theorem allFit_notRetired (dialect : Dialect) : AllFit (notRetired dialect).integers := by
  cases dialect with
  | sqlite => exact allFit_singleton rfl
  | postgres => exact allFit_nil

theorem allFit_inDatasets {datasets : Query} (h : AllFit datasets.integers) :
    AllFit (inDatasets datasets).integers := by
  have hone : AllFit [1] := allFit_singleton rfl
  have hsource : AllFit (datasets.integers ++ []) := h.append allFit_nil
  exact hone.append (hsource.append allFit_nil)

theorem allFit_everyFile (dialect : Dialect) {datasets : Option Query}
    (h : ∀ q ∈ datasets, AllFit q.integers) (includeRetired : Bool) (columns : ColumnSet) :
    AllFit (everyFile dialect datasets includeRetired columns).query.integers := by
  cases datasets with
  | none =>
      cases includeRetired with
      | true =>
          have hnone : (everyFile dialect none true columns).query.integers = [] := by
            simp [everyFile, integers_projection]
          exact hnone ▸ allFit_nil
      | false => exact (integers_filesWhere columns _).symm ▸ allFit_notRetired dialect
  | some q =>
      have hq := allFit_inDatasets (h q rfl)
      cases includeRetired with
      | true => exact (integers_filesWhere columns _).symm ▸ hq
      | false =>
          exact (integers_filesWhere columns _).symm ▸ hq.append (allFit_notRetired dialect)

end Fragment

end Fragments

section Datasets

theorem integers_namedDatasets (dialect : Dialect) (space : String) (selector : DatasetSelector) :
    (namedDatasets dialect space selector).integers = [] := by
  have hname : (nameCondition dialect selector).integers = [] := by
    unfold nameCondition
    split <;> rfl
  simp [namedDatasets, Expr.and, Expr.equal, hname, datasetColumns]

theorem integers_withDescendants {base : Query} (h : base.integers = []) (recursively : Bool) :
    (withDescendants base recursively).integers = [] := by
  cases recursively <;>
    simp [withDescendants, childrenOf, Expr.and, Expr.equal, h]

theorem allFit_selectedDatasets (dialect : Dialect) (space : String)
    (selector : DatasetSelector) : AllFit (selectedDatasets dialect space selector).integers := by
  have hbase := integers_namedDatasets dialect space selector
  unfold selectedDatasets
  cases selector.withChildren with
  | false => exact hbase.symm ▸ allFit_nil
  | true =>
      have hone : AllFit [1] := allFit_singleton rfl
      have hbelow := integers_withDescendants hbase selector.recursively
      simpa [Expr.and, Expr.equal, datasetColumns, hbelow] using hone

theorem AllFit.having {inner : Query} (h : AllFit inner.integers) (dialect : Dialect)
    (form : Dnf) :
    AllFit (datasetsHaving inner (condition dialect datasetMetadata form)).integers := by
  have hdocument : AllFit datasetMetadata.integers := allFit_nil
  exact h.append (allFit_condition hdocument dialect form)

theorem allFit_datasetUnion {first : Query} {rest : List Query}
    (h : ∀ q ∈ first :: rest, AllFit q.integers) : AllFit (datasetUnion first rest).integers := by
  have hoperand (q : Query) (i : Nat) : (operandRows q i).integers = q.integers := rfl
  have hall : (datasetUnion first rest).integers =
      (first :: rest).flatMap fun q => q.integers :=
    integers_combined .union operandRows hoperand (operandRows first 0) rest 1
  intro n hn
  rw [hall] at hn
  obtain ⟨q, hq, hmem⟩ := List.mem_flatMap.mp hn
  exact h q hq n hmem

end Datasets

end CatalogQuery.Sql
