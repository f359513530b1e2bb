/-
Answers of a store.  A store that evaluates queries by the rules of its dialect answers a
query for files with their records, whether all at once or one by one.
-/
import CatalogQuery.Engine.Run
import CatalogQuery.Proofs.Expansion
import CatalogQuery.Proofs.Sql.DatasetRows
import CatalogQuery.Proofs.Sql.Fragments

namespace CatalogQuery

open Sql (CatalogDataset CatalogFile ColumnSet Database Direction Fragment Query)

variable {db : Database} {store : Responses} {columns : ColumnSet} {context : String}
  {debug : Bool}

/-- Wherever a query raises no error, the store answers it with its rows. -/
structure Responses.Answers (store : Responses) (db : Database) : Prop where
  execute : ∀ {q : Query} {rows : List Row}, db.answer q = some rows →
    ∃ answer, store.execute .catalog (.query q) = .ok answer ∧ answer.rows = rows
  openCursor : ∀ {q : Query} {rows : List Row}, db.answer q = some rows →
    ∃ cursor, store.openCursor (.query q) = .ok cursor ∧ cursor.rows = rows.map .ok

/-- The failure of a store whose evaluation raises an error. -/
def evaluationFailure : Failure := .store "evaluation failed"

def Sql.Database.responses (db : Database) : Responses where
  execute
    | .catalog, .query q =>
      match db.answer q with
      | some rows => .ok { rows }
      | none => .error evaluationFailure
    | _, _ => .error evaluationFailure
  openCursor
    | .query q =>
      match db.answer q with
      | some rows => .ok ⟨0, rows.map .ok⟩
      | none => .error evaluationFailure
    | _ => .error evaluationFailure

theorem Sql.Database.responses_answers (db : Database) : db.responses.Answers db where
  execute {_ rows} h := ⟨{ rows }, by simp only [responses, h], rfl⟩
  openCursor {_ rows} h := ⟨⟨0, rows.map .ok⟩, by simp only [responses, h], rfl⟩

theorem mapM_eq_ok {ε α β : Type} {f : α → Except ε β} {xs : List α} {ys : List β}
    (h : xs.map f = ys.map .ok) : xs.mapM f = .ok ys := by
  induction xs generalizing ys with
  | nil =>
      cases ys with
      | nil => rfl
      | cons y rest => cases h
  | cons x rest ih =>
      cases ys with
      | nil => cases h
      | cons y others =>
          simp only [List.map_cons, List.cons.injEq] at h
          rw [List.mapM_cons, h.1, ih h.2]
          rfl

/-- The rows of files are the records of the files. -/
theorem exists_records {files : List CatalogFile} (hfiles : ∀ f ∈ files, f ∈ db.catalog.files)
    (columns : ColumnSet) (context : String) :
    ∃ records, (files.map fun f => (db.returned columns f).cells).map (Record.ofRow context) =
        records.map .ok ∧ idsOf records = files.map CatalogFile.id := by
  induction files with
  | nil => exact ⟨[], rfl, rfl⟩
  | cons f rest ih =>
      obtain ⟨hf, hrest⟩ := List.forall_mem_cons.mp hfiles
      obtain ⟨record, hrecord, hid⟩ := Sql.exists_record columns hf context
      obtain ⟨records, hrecords, hids⟩ := ih hrest
      refine ⟨record :: records, ?_, ?_⟩
      · simp only [List.map_cons, hrecord, hrecords]
      · simp only [idsOf, List.map_cons, hid] at hids ⊢
        rw [hids]

theorem run_ofCursor (convert : Except Failure Row → StreamItem) (cursor : Nat)
    (rows : List (Except Failure Row)) :
    (RecordStream.ofCursor convert cursor rows).run store = (rows.map convert, ()) := by
  induction rows with
  | nil => rfl
  | cons row rest ih => simp only [RecordStream.ofCursor, Flow.run, ih, List.map_cons]

theorem answer_of_returns {α : Type} {q : Query} {xs : List α} {fields : α → Sql.Fields}
    (h : q.Returns db (xs.map fields)) :
    db.answer q = some (xs.map fun x => (fields x).cells) := by
  obtain ⟨made, hmade, hrows⟩ := h []
  have hcells := congrArg (List.map Sql.Fields.cells) hrows
  rw [List.map_map, List.map_map] at hcells
  rw [Database.answer, hmade, Option.map_some]
  exact congrArg some hcells

/-- The rows that the store answers a query for files with. -/
theorem exists_answer {fragment : Fragment} {ids : Set String} (h : fragment.Selects db ids)
    (context : String) :
    ∃ rows records, db.answer fragment.query = some rows ∧
      rows.map (Record.ofRow context) = records.map .ok ∧ (idsOf records).Nodup ∧
      ∀ id, id ∈ idsOf records ↔ id ∈ ids := by
  obtain ⟨files, hreturns, hfiles, hnodup, hids⟩ := h
  obtain ⟨records, hrecords, hrecordIds⟩ := exists_records hfiles fragment.columns context
  refine ⟨_, records, answer_of_returns hreturns, hrecords, ?_, ?_⟩
  · rwa [hrecordIds]
  · rwa [hrecordIds]

/-- The records of a query are those of the files that it selects. -/
theorem denotes_ofQuery (hstore : store.Answers db) {fragment : Fragment} {ids : Set String}
    (h : fragment.Selects db ids) (context : String) (debug : Bool) :
    (RecordStream.ofQuery fragment.query context debug).Denotes store ids := by
  obtain ⟨rows, records, hanswer, hrecords, hnodup, hids⟩ := exists_answer h context
  obtain ⟨cursor, hcursor, hcursorRows⟩ := hstore.openCursor hanswer
  refine ⟨records, ?_, hnodup, hids⟩
  simp only [RecordStream.Yields, RecordStream.ofQuery, Flow.run, hcursor, run_ofCursor,
    hcursorRows, List.map_map]
  rw [← hrecords]
  rfl

theorem run_rows (hstore : store.Answers db) {α : Type} {q : Query} {rows : List Row}
    (h : db.answer q = some rows) (context : String) (debug : Bool) :
    (q.rows context debug : Flow α _).run store = ([], .ok rows) := by
  obtain ⟨answer, hanswer, rfl⟩ := hstore.execute h
  simp only [Sql.Query.rows, Flow.run, hanswer]
  rfl

/-- The rows of datasets are the records of the datasets. -/
theorem exists_datasetRecords (datasets : List CatalogDataset) (context : String) :
    ∃ records, (datasets.map fun d => (Database.datasetFields d).cells).mapM
        (DatasetRecord.ofRow context) = .ok records ∧
      records.map (fun d => (d.space, d.name)) = datasets.map fun d => (d.space, d.name) := by
  induction datasets with
  | nil => exact ⟨[], rfl, rfl⟩
  | cons d rest ih =>
      obtain ⟨records, hrecords, hpairs⟩ := ih
      obtain ⟨members, hmembers⟩ := d.isObject
      have hrecord : DatasetRecord.ofRow context (Database.datasetFields d).cells =
          .ok ⟨d.space, d.name, members⟩ := by
        have hcells : (Database.datasetFields d).cells =
            [.text d.space, .text d.name, (Sql.Value.document d.metadata).toCell] := rfl
        rw [hcells]
        simp only [DatasetRecord.ofRow, DatasetRecord.ofCells, Cell.requireText, bind, Except.bind,
          Sql.requireJson_document, hmembers]
        rfl
      refine ⟨⟨d.space, d.name, members⟩ :: records, ?_, ?_⟩
      · rw [List.map_cons, List.mapM_cons, hrecord, hrecords]
        rfl
      · rw [List.map_cons, List.map_cons, hpairs]

/-- What a query for datasets is answered with. -/
theorem exists_run_datasets (hstore : store.Answers db) {e : Engine} {o : Options} {node : Node}
    {q : Query} {datasets : List CatalogDataset} (hcompile : e.compileDatasets o node = .ok q)
    (h : q.ReturnsDatasets db datasets) :
    ∃ records, ((e.datasets o node).run store).2 = .ok records ∧
      records.map (fun d => (d.space, d.name)) = datasets.map fun d => (d.space, d.name) := by
  obtain ⟨records, hrecords, hpairs⟩ := exists_datasetRecords datasets node.kind
  have hanswer := answer_of_returns h.returns
  refine ⟨records, ?_, hpairs⟩
  simp only [Engine.datasets, hcompile, Flow.run_bind, run_rows hstore hanswer]
  exact hrecords

/-- There is an edge between two files in the given direction. -/
def Sql.Catalog.Steps (c : Sql.Catalog) (direction : Direction) (known wanted : String) : Prop :=
  c.IsFile known ∧ c.IsFile wanted ∧ c.Leads direction known wanted

theorem mem_idsWhere_ends {c : Sql.Catalog} {direction : Direction} {ids known : Set String}
    (hids : ∀ id, id ∈ ids ↔ id ∈ known ∧ c.IsFile id) (id : String) :
    id ∈ c.idsWhere (fun f => f.id ∈ c.ends direction ids) ↔
      id ∈ RecordStream.reached (c.Steps direction) known := by
  constructor
  · rintro ⟨f, hf, ⟨k, hk, hleads⟩, rfl⟩
    obtain ⟨hknown, hfile⟩ := (hids k).mp hk
    exact ⟨k, hknown, hfile, ⟨f, hf, rfl⟩, hleads⟩
  · rintro ⟨k, hknown, hfile, ⟨f, hf, rfl⟩, hleads⟩
    exact ⟨f, hf, ⟨k, (hids k).mpr ⟨hknown, hfile⟩, hleads⟩, rfl⟩

theorem Sql.Fragment.Selects.step {fragment : Fragment} {ids : Set String}
    (h : fragment.Selects db ids) (direction : Direction) (columns : ColumnSet) :
    (fragment.step direction columns).Selects db
      (RecordStream.reached (db.catalog.Steps direction) ids) := by
  apply (Sql.selects_step h direction).congr
  apply mem_idsWhere_ends
  exact fun id => ⟨fun hid => ⟨hid, h.mem_files hid⟩, And.left⟩

/-- The store looks up the files one step away from given ones. -/
theorem looksUp (hstore : store.Answers db) (direction : Direction) (columns : ColumnSet) :
    RecordStream.AlwaysLooksUp (Flow.unchanging store) direction columns
      (db.catalog.Steps direction) := by
  intro _ ids _
  have hids : (Fragment.ofIds ids .ids).Selects db (db.catalog.idsWhere fun f => f.id ∈ ids) :=
    Sql.selects_ofIds ids
  have hstep : ((Fragment.ofIds ids .ids).step direction columns).Selects db
      (RecordStream.reached (db.catalog.Steps direction) (RecordStream.members ids)) := by
    apply (Sql.selects_step hids direction).congr
    apply mem_idsWhere_ends
    intro id
    constructor
    · rintro ⟨f, hf, hid, rfl⟩
      exact ⟨hid, f, hf, rfl⟩
    · rintro ⟨hid, f, hf, rfl⟩
      exact ⟨f, hf, hid, rfl⟩
  obtain ⟨rows, records, hanswer, hrecords, -, hmem⟩ := exists_answer hstep direction.name
  obtain ⟨answer, hexecute, rfl⟩ := hstore.execute hanswer
  exact ⟨answer, records, hexecute, mapM_eq_ok hrecords, hmem⟩

end CatalogQuery
