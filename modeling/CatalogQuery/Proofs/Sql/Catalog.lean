/-
The tables of a catalog as a store has them.  Files have an identifier each; the rows of
the other tables relate files and datasets.  Columns that hold documents hold JSON texts
that can be read.
-/
import CatalogQuery.Proofs.Sql.Value
import CatalogQuery.Store.Flow

namespace CatalogQuery.Sql

/-- A file. -/
structure CatalogFile where
  id : String
  space : String
  name : String
  size : Option UInt64
  metadata : Document
  isObject : metadata.IsObject
  retired : Bool

/-- A dataset. -/
structure CatalogDataset where
  space : String
  name : String
  metadata : Document
  isObject : metadata.IsObject

/-- The identifiers at one end of the edges that have a given one at the other. -/
def endsOf (near far : String × String → String) (edges : List (String × String))
    (id : String) : List String :=
  (edges.filter fun edge => near edge == id).map far

/-- The tables. -/
structure Catalog where
  files : List CatalogFile
  ids_nodup : (files.map CatalogFile.id).Nodup
  datasets : List CatalogDataset
  /-- Pairs of a file and the namespace and name of a dataset it belongs to. -/
  memberships : List (String × (String × String))
  /-- Pairs of a parent and a child. -/
  edges : List (String × String)
  /-- Pairs of a parent and a child among datasets. -/
  datasetEdges : List ((String × String) × (String × String))
  /-- What the view of files with provenance lists as the parents of a file. -/
  parents : CatalogFile → Document
  parents_value : ∀ f ∈ files,
    (parents f).value = .array ((endsOf Prod.snd Prod.fst edges f.id).map .string)
  /-- What the view of files with provenance lists as the children of a file. -/
  children : CatalogFile → Document
  children_value : ∀ f ∈ files,
    (children f).value = .array ((endsOf Prod.fst Prod.snd edges f.id).map .string)

/-- A store: the dialect it speaks, its tables and its pattern operators. -/
structure Database where
  dialect : Dialect
  catalog : Catalog
  patterns : PatternOperators
  /-- The rows of the relation that a recursive query defines, as far as they are known. -/
  closure : List (String × String) := []

/-- The columns of a row with their names, if they have any. -/
abbrev Fields := List (Option Column × Value)

namespace Fields

def get? (fields : Fields) (c : Column) : Option Value :=
  fields.lookup (some c)

def cells (fields : Fields) : Row :=
  fields.map fun field => field.2.toCell

end Fields

/-- A row of named columns. -/
def fieldsOf (columns : List (Column × Value)) : Fields :=
  columns.map fun (c, v) => (some c, v)

namespace Database

def flag (db : Database) (b : Bool) : Value :=
  match db.dialect with
  | .sqlite => .int (if b then 1 else 0)
  | .postgres => .truth b

def fileFields (db : Database) (f : CatalogFile) : Fields :=
  fieldsOf [(.id, .text f.id), (.space, .text f.space), (.name, .text f.name),
    (.size, f.size.elim .null fun n => .int n.toNat), (.metadata, .document f.metadata),
    (.retired, db.flag f.retired)]

/-- The row of a file with the identifiers of its parents and children. -/
def provenanceFields (db : Database) (f : CatalogFile) : Fields :=
  db.fileFields f ++ fieldsOf [(.parents, .document (db.catalog.parents f)),
    (.children, .document (db.catalog.children f))]

/-- The row of a pair of texts in the given columns. -/
def pairFields (first second : Column) (pair : String × String) : Fields :=
  fieldsOf [(first, .text pair.1), (second, .text pair.2)]

/-- The row of a file and a dataset it belongs to. -/
def membershipFields (m : String × (String × String)) : Fields :=
  fieldsOf [(.fileId, .text m.1)] ++ pairFields .datasetSpace .datasetName m.2

def datasetEdgeFields (edge : (String × String) × (String × String)) : Fields :=
  pairFields .parentSpace .parentName edge.1 ++ pairFields .childSpace .childName edge.2

def datasetFields (d : CatalogDataset) : Fields :=
  fieldsOf [(.space, .text d.space), (.name, .text d.name), (.metadata, .document d.metadata)]

def rows (db : Database) : Table → List Fields
  | .files => db.catalog.files.map db.fileFields
  | .filesWithProvenance => db.catalog.files.map db.provenanceFields
  | .filesDatasets => db.catalog.memberships.map membershipFields
  | .parentChild => db.catalog.edges.map (pairFields .parentId .childId)
  | .datasets => db.catalog.datasets.map datasetFields
  | .datasetsParentChild => db.catalog.datasetEdges.map datasetEdgeFields
  | .closure => db.closure.map (pairFields .space .name)

end Database

/-- The relations in reach with their current rows, the innermost one first. -/
abbrev Scope := List (Alias × Fields)

namespace Scope

def column? (scope : Scope) (a : Alias) (c : Column) : Option Value :=
  (scope.lookup a).bind fun fields => fields.get? c

end Scope

end CatalogQuery.Sql
