/-
Sets of files in the store.  A query for files selects a set of files; from its rows other
queries read the identifiers only, so that what they select depends on these sets alone.
-/
import CatalogQuery.Proofs.Sql.FileRows
import Mathlib.Data.List.Forall2
import Mathlib.Data.Set.Basic

namespace CatalogQuery.Sql

variable {db : Database} {columns : ColumnSet}

/-- The row holds an identifier and nothing else. -/
def Fields.IsId (id : String) (row : Fields) : Prop :=
  row.map Prod.snd = [.text id]

def ListIds (rows : List Fields) (ids : Set String) : Prop :=
  (∀ row ∈ rows, ∃ id ∈ ids, row.IsId id) ∧ ∀ id ∈ ids, ∃ row ∈ rows, row.IsId id

/-- The query lists the identifiers of a set wherever it stands. -/
def Query.Lists (db : Database) (q : Query) (ids : Set String) : Prop :=
  ∃ rows, q.Returns db rows ∧ ListIds rows ids

def SetOperation.onSets : SetOperation → Set String → Set String → Set String
  | .union, left, right => left ∪ right
  | .intersect, left, right => left ∩ right
  | .except, left, right => left \ right

theorem Fields.IsId.cells {id : String} {row : Fields} (h : row.IsId id) :
    row.cells = [.text id] := by
  have hcells : row.cells = (row.map Prod.snd).map Value.toCell := by
    simp [Fields.cells]
  rw [hcells, h]
  rfl

theorem Fields.IsId.eq_of_cells {id other : String} {row next : Fields} (h : row.IsId id)
    (hnext : next.IsId other) (hcells : row.cells = next.cells) : id = other := by
  rw [h.cells, hnext.cells] at hcells
  simpa using hcells

theorem map_snd_relabel (names : List (Option Column)) (row : Fields) :
    (relabel names row).map Prod.snd = row.map Prod.snd := by
  induction names generalizing row with
  | nil => simp only [relabel]
  | cons name rest ih =>
      cases row with
      | nil => rfl
      | cons field others =>
          simp only [relabel, List.map_cons, ih]

section ListIds

variable {rows left right : List Fields} {ids others : Set String}

theorem ListIds.distinctOn (h : ListIds rows ids) :
    ListIds (distinctOn Fields.cells rows) ids := by
  obtain ⟨hrows, hids⟩ := h
  constructor
  · intro row hrow
    exact hrows row (mem_of_mem_distinctOn hrow)
  · intro id hid
    obtain ⟨row, hrow, hisId⟩ := hids id hid
    obtain ⟨other, hother, hcells⟩ := exists_mem_distinctOn hrow
    obtain ⟨next, -, hnext⟩ := hrows other (mem_of_mem_distinctOn hother)
    refine ⟨other, hother, ?_⟩
    rwa [hisId.eq_of_cells hnext hcells.symm]

theorem ListIds.hasRow_iff (h : ListIds rows ids) {id : String} {row : Fields}
    (hrow : row.IsId id) : hasRow rows row = true ↔ id ∈ ids := by
  simp only [hasRow, List.any_eq_true, beq_iff_eq]
  constructor
  · rintro ⟨other, hother, hcells⟩
    obtain ⟨next, hnext, hisId⟩ := h.1 other hother
    rwa [hrow.eq_of_cells hisId hcells.symm]
  · intro hid
    obtain ⟨other, hother, hisId⟩ := h.2 id hid
    exact ⟨other, hother, hisId.cells.trans hrow.cells.symm⟩

theorem ListIds.append (hleft : ListIds left ids) (hright : ListIds right others) :
    ListIds (left ++ right) (ids ∪ others) := by
  constructor
  · intro row hrow
    rcases List.mem_append.mp hrow with hmem | hmem
    · obtain ⟨id, hid, hisId⟩ := hleft.1 row hmem
      exact ⟨id, Or.inl hid, hisId⟩
    · obtain ⟨id, hid, hisId⟩ := hright.1 row hmem
      exact ⟨id, Or.inr hid, hisId⟩
  · rintro id (hid | hid)
    · obtain ⟨row, hrow, hisId⟩ := hleft.2 id hid
      exact ⟨row, List.mem_append_left _ hrow, hisId⟩
    · obtain ⟨row, hrow, hisId⟩ := hright.2 id hid
      exact ⟨row, List.mem_append_right _ hrow, hisId⟩

theorem ListIds.filter (h : ListIds rows ids) {keep : Fields → Bool} {kept : Set String}
    (hkeep : ∀ (id : String) (row : Fields), row.IsId id → (keep row = true ↔ id ∈ kept)) :
    ListIds (rows.filter keep) (ids ∩ kept) := by
  constructor
  · intro row hrow
    obtain ⟨hmem, hkept⟩ := List.mem_filter.mp hrow
    obtain ⟨id, hid, hisId⟩ := h.1 row hmem
    exact ⟨id, ⟨hid, (hkeep id row hisId).mp hkept⟩, hisId⟩
  · rintro id ⟨hid, hkept⟩
    obtain ⟨row, hmem, hisId⟩ := h.2 id hid
    exact ⟨row, List.mem_filter.mpr ⟨hmem, (hkeep id row hisId).mpr hkept⟩, hisId⟩

theorem ListIds.apply (op : SetOperation) (hleft : ListIds left ids)
    (hright : ListIds right others) : ListIds (op.apply left right) (op.onSets ids others) := by
  cases op with
  | union => exact (hleft.append hright).distinctOn
  | intersect => exact (hleft.filter fun id row hrow => hright.hasRow_iff hrow).distinctOn
  | except =>
      have hkeep (id : String) (row : Fields) (hrow : row.IsId id) :
          (!hasRow right row) = true ↔ id ∈ othersᶜ := by
        rw [Set.mem_compl_iff, ← hright.hasRow_iff hrow, Bool.not_eq_true', Bool.not_eq_true]
      have hfilter := (hleft.filter hkeep).distinctOn
      rwa [← Set.sdiff_eq] at hfilter

/-- The values in the first column of a list of identifiers. -/
theorem exists_firsts (made : List (Scope × Fields))
    (h : ∀ row ∈ made.map Prod.snd, ∃ id ∈ ids, row.IsId id) :
    ∃ firsts : List String,
      made.mapM (fun row => row.2.head?.map Prod.snd) = some (firsts.map .text) ∧
        ∀ id, id ∈ firsts ↔ ∃ row ∈ made.map Prod.snd, row.IsId id := by
  induction made with
  | nil => exact ⟨[], rfl, by simp⟩
  | cons row rest ih =>
      obtain ⟨firsts, hmapM, hfirst⟩ :=
        ih fun other hother => h other (List.mem_cons_of_mem _ hother)
      obtain ⟨id, -, hisId⟩ := h row.2 List.mem_cons_self
      have hhead : row.2.head?.map Prod.snd = some (.text id) := by
        rw [← List.head?_map, hisId]
        rfl
      refine ⟨id :: firsts, ?_, fun other => ?_⟩
      · rw [List.mapM_cons, hhead, hmapM]
        rfl
      · simp only [List.mem_cons, hfirst, List.map_cons, exists_eq_or_imp]
        constructor
        · rintro (rfl | hother)
          · exact Or.inl hisId
          · exact Or.inr hother
        · rintro (hother | hother)
          · exact Or.inl (hother.eq_of_cells hisId rfl)
          · exact Or.inr hother

theorem ListIds.relabel (h : ListIds rows ids) (names : List (Option Column)) :
    ListIds (rows.map (relabel names)) ids := by
  constructor
  · intro row hrow
    obtain ⟨old, hold, rfl⟩ := List.mem_map.mp hrow
    obtain ⟨id, hid, hisId⟩ := h.1 old hold
    exact ⟨id, hid, (map_snd_relabel names old).trans hisId⟩
  · intro id hid
    obtain ⟨old, hold, hisId⟩ := h.2 id hid
    exact ⟨_, List.mem_map_of_mem hold, (map_snd_relabel names old).trans hisId⟩

end ListIds

namespace Query.Lists

variable {q left right : Query} {ids others : Set String}

theorem combined (op : SetOperation) (hleft : left.Lists db ids) (hright : right.Lists db others) :
    (Query.combined op left right).Lists db (op.onSets ids others) := by
  obtain ⟨lefts, hlefts, hids⟩ := hleft
  obtain ⟨rights, hrights, hothers⟩ := hright
  exact ⟨_, hlefts.combined hrights op, (hids.apply op hothers).relabel left.names⟩

/-- An identifier is among the rows of a query if it is in the set that they list. -/
theorem selects_within {e : Expr} {scope : Scope} {id : String} {known b : Bool}
    (h : q.Lists db ids) (he : e.eval db scope = some (.text id)) (hb : b = true ↔ id ∈ ids) :
    (Expr.within e q).Selects db scope known b := by
  obtain ⟨rows, hrows, hids, hall⟩ := h
  obtain ⟨made, hmade, rfl⟩ := hrows scope
  obtain ⟨firsts, hmapM, hfirst⟩ := exists_firsts made hids
  have hcontains : firsts.contains id = b := by
    rw [Bool.eq_iff_iff, hb, List.contains_iff_mem, hfirst]
    constructor
    · rintro ⟨row, hrow, hisId⟩
      obtain ⟨other, hother, hotherIs⟩ := hids row hrow
      rwa [hisId.eq_of_cells hotherIs rfl]
    · exact hall id
  apply Expr.Selects.of_truth
  apply Expr.truth_of_eval
  simp only [Expr.eval, he, hmade, hmapM, Option.bind_eq_bind, Option.bind_some,
    amongValues_text, hcontains, Option.pure_def]

end Query.Lists

/-- The query of the fragment returns the files of a set, each once, wherever it stands. -/
def Fragment.Selects (db : Database) (fragment : Fragment) (ids : Set String) : Prop :=
  ∃ files : List CatalogFile,
    fragment.query.Returns db (files.map (db.returned fragment.columns)) ∧
      (∀ f ∈ files, f ∈ db.catalog.files) ∧ (files.map CatalogFile.id).Nodup ∧
      ∀ id, id ∈ files.map CatalogFile.id ↔ id ∈ ids

/-- The identifiers of the files that are kept. -/
def Catalog.idsWhere (c : Catalog) (keep : CatalogFile → Prop) : Set String :=
  {id | ∃ f ∈ c.files, keep f ∧ f.id = id}

theorem mem_sortedFiles (files : List CatalogFile) (f : CatalogFile) :
    f ∈ sortedFiles files ↔ f ∈ files :=
  (List.mergeSort_perm files _).mem_iff

theorem nodup_sortedFiles {files : List CatalogFile} (h : (files.map CatalogFile.id).Nodup) :
    ((sortedFiles files).map CatalogFile.id).Nodup :=
  ((List.mergeSort_perm files _).map CatalogFile.id).nodup_iff.mpr h

theorem map_snd_fileRows (db : Database) (columns : ColumnSet) (scope : Scope)
    (files : List CatalogFile) :
    (fileRows db columns scope files).map Prod.snd = files.map (db.returned columns) := by
  simp [fileRows]

/-- The files that a condition is true of. -/
theorem selects_filesWhere {condition : Expr} {keep : CatalogFile → Prop}
    (h : ∀ scope, ∀ f ∈ db.catalog.files, ∀ b, (b = true ↔ keep f) →
      condition.Selects db (db.fileScope columns scope f) false b) :
    Fragment.Selects db ⟨columns.filesWhere condition, columns⟩ (db.catalog.idsWhere keep) := by
  classical
  let kept := db.catalog.files.filter fun f => decide (keep f)
  refine ⟨sortedFiles kept, fun scope => ?_, fun f hf => ?_, ?_, fun id => ?_⟩
  · refine ⟨_, eval_filesWhere fun f hf => h scope f hf (decide (keep f)) decide_eq_true_iff, ?_⟩
    rw [map_snd_fileRows]
  · exact List.mem_of_mem_filter ((mem_sortedFiles kept f).mp hf)
  · apply nodup_sortedFiles
    exact db.catalog.ids_nodup.sublist (List.filter_sublist.map CatalogFile.id)
  · simp only [List.mem_map, mem_sortedFiles, kept, List.mem_filter, decide_eq_true_iff,
      Catalog.idsWhere, Set.mem_ofPred_eq, and_assoc]

theorem selects_allFiles :
    Fragment.Selects db ⟨.ordered (.select false (columns.projection .f)
      (.table columns.table .f)) (.column .f .id) .all, columns⟩
      (db.catalog.idsWhere fun _ => True) := by
  refine ⟨sortedFiles db.catalog.files, fun scope => ?_, fun f hf => ?_, ?_, fun id => ?_⟩
  · refine ⟨_, eval_everyFile, ?_⟩
    rw [map_snd_fileRows]
  · exact (mem_sortedFiles _ f).mp hf
  · exact nodup_sortedFiles db.catalog.ids_nodup
  · simp only [List.mem_map, mem_sortedFiles, Catalog.idsWhere, Set.mem_ofPred_eq, true_and]

namespace Fragment.Selects

variable {fragment : Fragment} {ids : Set String}

theorem mem_files (h : fragment.Selects db ids) {id : String} (hid : id ∈ ids) :
    ∃ f ∈ db.catalog.files, f.id = id := by
  obtain ⟨files, -, hfiles, -, hids⟩ := h
  obtain ⟨f, hf, rfl⟩ := List.mem_map.mp ((hids id).mpr hid)
  exact ⟨f, hfiles f hf, rfl⟩

theorem lists (h : fragment.Selects db ids) (a : Alias) :
    (Query.select false [.column a .id] (fragment.as a)).Lists db ids := by
  obtain ⟨files, hreturns, -, -, hids⟩ := h
  refine ⟨files.map fun f => [(some .id, .text f.id)], ?_, ?_, ?_⟩
  · apply returns_select (hreturns.gives_derived a) rfl
    · intro other c
      simp
    · intro scope f _
      simp only [project, List.mapM_cons, Item.eval, Scope.column?, List.lookup_cons_self]
      rfl
  · intro row hrow
    obtain ⟨f, hf, rfl⟩ := List.mem_map.mp hrow
    exact ⟨f.id, (hids f.id).mp (List.mem_map_of_mem hf), rfl⟩
  · intro id hid
    obtain ⟨f, hf, rfl⟩ := List.mem_map.mp ((hids id).mpr hid)
    exact ⟨_, List.mem_map_of_mem hf, rfl⟩

end Fragment.Selects

end CatalogQuery.Sql
