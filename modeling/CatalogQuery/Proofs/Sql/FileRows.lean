/-
Rows of files.  A query for files reads its rows from the table of files, keeps those that
meet its condition and puts them in order; each row then becomes the record of its file.
-/
import CatalogQuery.FileSet.Basic
import CatalogQuery.Proofs.Result
import CatalogQuery.Proofs.Sql.Rows

namespace CatalogQuery.Sql

variable {db : Database} {scope : Scope} {columns : ColumnSet}

/-- The columns of a file in the table that the given columns are read from. -/
def Database.tableFields (db : Database) (columns : ColumnSet) (f : CatalogFile) : Fields :=
  if columns.provenance then db.provenanceFields f else db.fileFields f

/-- The columns that a query for files returns of a file. -/
def Database.returned (db : Database) (columns : ColumnSet) (f : CatalogFile) : Fields :=
  fieldsOf [(.id, .text f.id), (.space, .text f.space), (.name, .text f.name),
    (.metadata, if columns.metadata then .document f.metadata else .null),
    (.parents, if columns.provenance then .document (db.catalog.parents f) else .null),
    (.children, if columns.provenance then .document (db.catalog.children f) else .null)]

/-- The relations in which a condition on a file is tested. -/
def Database.fileScope (db : Database) (columns : ColumnSet) (scope : Scope) (f : CatalogFile) :
    Scope :=
  (.f, db.tableFields columns f) :: scope

theorem rows_table (db : Database) (columns : ColumnSet) :
    db.rows columns.table = db.catalog.files.map (db.tableFields columns) := by
  unfold ColumnSet.table Database.tableFields
  cases columns.provenance <;> rfl

theorem column?_id (f : CatalogFile) :
    (db.fileScope columns scope f).column? .f .id = some (.text f.id) := by
  obtain ⟨metadata, provenance⟩ := columns
  cases provenance <;> rfl

theorem column?_space (f : CatalogFile) :
    (db.fileScope columns scope f).column? .f .space = some (.text f.space) := by
  obtain ⟨metadata, provenance⟩ := columns
  cases provenance <;> rfl

theorem column?_name (f : CatalogFile) :
    (db.fileScope columns scope f).column? .f .name = some (.text f.name) := by
  obtain ⟨metadata, provenance⟩ := columns
  cases provenance <;> rfl

theorem column?_retired (f : CatalogFile) :
    (db.fileScope columns scope f).column? .f .retired = some (db.flag f.retired) := by
  obtain ⟨metadata, provenance⟩ := columns
  cases provenance <;> rfl

theorem project_projection (f : CatalogFile) :
    project (db.fileScope columns scope f) (columns.projection .f) =
      some (db.returned columns f) := by
  obtain ⟨metadata, provenance⟩ := columns
  cases metadata <;> cases provenance <;> rfl

def sortedFiles (files : List CatalogFile) : List CatalogFile :=
  files.mergeSort fun f g => mayPrecede (.text f.id) (.text g.id)

/-- The rows that a query for files returns of some files. -/
def fileRows (db : Database) (columns : ColumnSet) (scope : Scope) (files : List CatalogFile) :
    List (Scope × Fields) :=
  files.map fun f => (db.fileScope columns scope f, db.returned columns f)

theorem orderRows_fileRows (files : List CatalogFile) :
    orderRows (.column .f .id) (fileRows db columns scope files) =
      some (fileRows db columns scope (sortedFiles files)) := by
  let keyed (f : CatalogFile) : Value × Scope × Fields :=
    (.text f.id, db.fileScope columns scope f, db.returned columns f)
  have hkeys : (fileRows db columns scope files).mapM
      (fun row => ((OrderKey.column .f .id).eval row).map fun v => (v, row)) =
        some (files.map keyed) := by
    simp only [fileRows, List.mapM_map]
    apply mapM_eq_some
    intro f _
    simp only [Function.comp_apply, OrderKey.eval, column?_id, Option.map_some, keyed]
  have hsort : (files.map keyed).mergeSort (fun a b => mayPrecede a.1 b.1) =
      (sortedFiles files).map keyed := by
    symm
    apply List.map_mergeSort
    intro f _ g _
    rfl
  simp only [orderRows, hkeys, Option.bind_eq_bind, Option.bind_some, hsort, List.map_map]
  rfl

theorem any_isTotal_projection (columns : ColumnSet) (a : Alias) :
    (columns.projection a).any Item.isTotal = false := by
  obtain ⟨metadata, provenance⟩ := columns
  cases metadata <;> cases provenance <;> rfl

theorem projection_ne_objectKeys (columns : ColumnSet) (a other : Alias)
    (c : Column) : columns.projection a ≠ [.objectKeys other c] := by
  simp [ColumnSet.projection]

theorem eval_filesTable :
    (Source.table columns.table .f).eval db scope =
      some (db.catalog.files.map (db.fileScope columns scope)) := by
  have hgives := gives_table db columns.table .f
  rw [rows_table] at hgives
  exact hgives.eval_map scope

/-- The rows of the files that a condition selects. -/
theorem eval_filesWhere {condition : Expr} {keep : CatalogFile → Bool}
    (h : ∀ f ∈ db.catalog.files,
      condition.Selects db (db.fileScope columns scope f) false (keep f)) :
    (columns.filesWhere condition).eval db scope =
      some (fileRows db columns scope (sortedFiles (db.catalog.files.filter keep))) := by
  have hrows : (Query.selectWhere (columns.projection .f) (.table columns.table .f)
      condition).eval db scope =
        some (fileRows db columns scope (db.catalog.files.filter keep)) :=
    eval_selectWhere eval_filesTable h (any_isTotal_projection columns .f)
      (projection_ne_objectKeys columns .f) fun f _ => project_projection f
  rw [ColumnSet.filesWhere, Query.eval, hrows, Option.bind_eq_bind, Option.bind_some,
    orderRows_fileRows]
  rfl

theorem eval_everyFile :
    (Query.ordered (.select false (columns.projection .f) (.table columns.table .f))
      (.column .f .id) .all).eval db scope =
        some (fileRows db columns scope (sortedFiles db.catalog.files)) := by
  have hrows : (Query.select false (columns.projection .f) (.table columns.table .f)).eval db
      scope = some (fileRows db columns scope db.catalog.files) :=
    eval_select eval_filesTable (any_isTotal_projection columns .f)
      (projection_ne_objectKeys columns .f) fun f _ => project_projection f
  rw [Query.eval, hrows, Option.bind_eq_bind, Option.bind_some, orderRows_fileRows]
  rfl

theorem requireJson_document (column : String) (d : Document) :
    Cell.requireJson column (Value.document d).toCell = .ok (some d.value) := by
  simp only [Value.toCell, Cell.requireJson, Cell.readJson, d.reads]

theorem requireIds_document {column : String} {d : Document} {items : List Json}
    (h : d.value = .array items) :
    ∃ ids, requireIds column (Value.document d).toCell = .ok ids := by
  refine ⟨some (sortedTexts (items.filterMap identifierOf?)), ?_⟩
  simp only [requireIds, requireJson_document, h]
  rfl

theorem requireMetadata_document {id : String} {d : Document} (h : d.IsObject) :
    ∃ members, requireMetadata id (Value.document d).toCell = .ok members := by
  obtain ⟨members, hmembers⟩ := h
  refine ⟨members, ?_⟩
  simp only [requireMetadata, requireJson_document, hmembers]
  rfl

/-- A row of a file is the record of the file. -/
theorem exists_record (columns : ColumnSet) {f : CatalogFile} (hf : f ∈ db.catalog.files)
    (context : String) :
    ∃ record, Record.ofRow context (db.returned columns f).cells = .ok record ∧
      record.id = f.id := by
  obtain ⟨metadata, provenance⟩ := columns
  have hmetadata : ∃ members, requireMetadata f.id
      (if metadata then Value.document f.metadata else .null).toCell = .ok members := by
    cases metadata with
    | false => exact ⟨[], rfl⟩
    | true => exact requireMetadata_document f.isObject
  have hparents : ∃ ids, requireIds "parents"
      (if provenance then Value.document (db.catalog.parents f) else .null).toCell = .ok ids := by
    cases provenance with
    | false => exact ⟨none, rfl⟩
    | true => exact requireIds_document (db.catalog.parents_value f hf)
  have hchildren : ∃ ids, requireIds "children"
      (if provenance then Value.document (db.catalog.children f) else .null).toCell = .ok ids := by
    cases provenance with
    | false => exact ⟨none, rfl⟩
    | true => exact requireIds_document (db.catalog.children_value f hf)
  obtain ⟨members, hmembers⟩ := hmetadata
  obtain ⟨parents, hparents⟩ := hparents
  obtain ⟨children, hchildren⟩ := hchildren
  refine ⟨⟨f.id, f.space, f.name, none, members, parents, children⟩, ?_, rfl⟩
  have hcells : (Database.returned db ⟨metadata, provenance⟩ f).cells =
      [.text f.id, .text f.space, .text f.name,
        (if metadata then Value.document f.metadata else .null).toCell,
        (if provenance then Value.document (db.catalog.parents f) else .null).toCell,
        (if provenance then Value.document (db.catalog.children f) else .null).toCell] := rfl
  rw [Record.ofRow, hcells]
  simp only [Record.ofCells, Cell.requireText, bind, Except.bind, hmembers, hparents, hchildren]
  rfl

end CatalogQuery.Sql
