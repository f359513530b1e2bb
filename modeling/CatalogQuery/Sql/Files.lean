/-
Queries for files.  Every one of them returns the six columns of the same projection,
of which those that nobody asked for are not filled, and its rows have an order unless
it filters the rows of another one.
-/
import CatalogQuery.Sql.Text

namespace CatalogQuery.Sql

/-- The columns besides identifier, namespace and name that a query has to fill. -/
structure ColumnSet where
  metadata : Bool := false
  provenance : Bool := false
deriving DecidableEq, Inhabited

namespace ColumnSet

/-- No further column. -/
def ids : ColumnSet := {}

def withMetadata (columns : ColumnSet) : ColumnSet :=
  { columns with metadata := true }

def table (columns : ColumnSet) : Table :=
  if columns.provenance then .filesWithProvenance else .files

/-- The returned columns of a relation. -/
def projection (columns : ColumnSet) (a : Alias) : List Item :=
  [.column a .id, .column a .space, .column a .name,
    if columns.metadata then .column a .metadata else .missing .metadata,
    if columns.provenance then .column a .parents else .missing .parents,
    if columns.provenance then .column a .children else .missing .children]

/-- Selects the columns from the table of files. -/
def filesWhere (columns : ColumnSet) (condition : Expr) : Query :=
  .ordered (.selectWhere (columns.projection .f) (.table columns.table .f) condition)
    (.column .f .id) .all

end ColumnSet

/-- A query for files with the columns it fills. -/
structure Fragment where
  query : Query
  columns : ColumnSet

namespace Fragment

def text (f : Fragment) : String := f.query.text

/-- The fragment as a relation. -/
def as (f : Fragment) (a : Alias) : Source := .derived f.query a

/-- The condition that a file belongs to one of the datasets of a query. -/
def inDatasets (datasets : Query) : Expr :=
  .exists_ (.selectWhere [.one]
    (.join (.table .filesDatasets .fd) (.derived datasets .d)
      ((Expr.equal (.column .d .space) (.column .fd .datasetSpace)).and
        (.equal (.column .d .name) (.column .fd .datasetName))))
    (.equal (.column .fd .fileId) (.column .f .id)))

def notRetired : Dialect → Expr
  | .sqlite => .equal (.column .f .retired) (.integer 0)
  | .postgres => .not (.column .f .retired)

/-- The files of a `basic_files` node: all of them, or those of the datasets of a query. -/
def everyFile (dialect : Dialect) (datasets : Option Query) (includeRetired : Bool)
    (columns : ColumnSet) : Fragment :=
  let query := match datasets, includeRetired with
    | none, true =>
      .ordered (.select false (columns.projection .f) (.table columns.table .f))
        (.column .f .id) .all
    | none, false => columns.filesWhere (notRetired dialect)
    | some q, true => columns.filesWhere (inDatasets q)
    | some q, false => columns.filesWhere ((inDatasets q).and (notRetired dialect))
  ⟨query, columns⟩

def ofIds (ids : List String) (columns : ColumnSet) : Fragment :=
  ⟨columns.filesWhere (.oneOf (.column .f .id) ids), columns⟩

/-- The condition that a file has a namespace and a name. -/
def named (did : String × String) : Expr :=
  .group ((Expr.equal (.column .f .space) (.text did.1)).and
    (.equal (.column .f .name) (.text did.2)))

/-- The disjunction of the conditions for each of some pairs of namespace and name. -/
def anyNamed : String × String → List (String × String) → Expr
  | did, [] => named did
  | did, next :: rest => .binary .or (named did) (anyNamed next rest)

/-- The files with one of the pairs of namespace and name. -/
def ofDids (first : String × String) (rest : List (String × String)) (columns : ColumnSet) :
    Fragment :=
  ⟨columns.filesWhere (anyNamed first rest), columns⟩

def operandIds (f : Fragment) (i : Nat) : Query :=
  .select false [.column (.u i) .id] (f.as (.u i))

/-- The identifiers that a set operation makes of those of its operands. -/
def combineIds (op : SetOperation) (first : Fragment) (rest : List Fragment) : Query :=
  (rest.zipIdx 1).foldl (fun q (f, i) => .combined op q (f.operandIds i)) (first.operandIds 0)

/-- Combines operands by their identifiers and reads the rows anew. -/
def combine (op : SetOperation) (first : Fragment) (rest : List Fragment)
    (columns : ColumnSet) : Fragment :=
  ⟨columns.filesWhere (.within (.column .f .id) (combineIds op first rest)), columns⟩

end Fragment

/-- The direction of a step between files and those they were made of. -/
inductive Direction
  | parents
  | children
deriving DecidableEq

namespace Direction

/-- The name of a query that takes the step. -/
def name : Direction → String
  | .parents => "parents_of"
  | .children => "children_of"

/-- The column of the files that are looked for. -/
def wanted : Direction → Column
  | .parents => .parentId
  | .children => .childId

/-- The column of the files that are known. -/
def known : Direction → Column
  | .parents => .childId
  | .children => .parentId

end Direction

namespace Fragment

/-- The files one step away from those of another fragment, for `parents_of` and
`children_of`. -/
def step (direction : Direction) (inner : Fragment) (columns : ColumnSet) : Fragment :=
  ⟨columns.filesWhere
    (.within (.column .f .id)
      (.selectWhere [.column .pc direction.wanted] (.table .parentChild .pc)
        (.within (.column .pc direction.known)
          (.select false [.column .c .id] (inner.as .c))))),
    columns⟩

/-- A part of the rows of a fragment, in the order of their identifiers. -/
def windowed (window : Window) (inner : Fragment) (columns : ColumnSet) : Fragment :=
  ⟨.ordered (.select false (columns.projection .t) (inner.as .t)) (.column .t .id) window,
    columns⟩

/-- The first rows of a fragment. -/
def limit (count : UInt64) (inner : Fragment) (columns : ColumnSet) : Fragment :=
  inner.windowed (.first count) columns

/-- The rows of a fragment without the first ones. -/
def skip (dialect : Dialect) (count : UInt64) (inner : Fragment) (columns : ColumnSet) :
    Fragment :=
  inner.windowed
    (match dialect with
      | .sqlite => .afterUnlimited count
      | .postgres => .after count)
    columns

def metadataColumn : Expr := .column .t .metadata

/-- The rows of a fragment with a condition on `metadataColumn`. -/
def filtered (condition : Expr) (inner : Fragment) (columns : ColumnSet) : Fragment :=
  ⟨.selectWhere (columns.projection .t) (inner.as .t) condition, columns⟩

def withMetadata (f : Fragment) : Fragment :=
  if f.columns.metadata then f else combine .union f [] f.columns.withMetadata

/-- The number of the files and their total size. -/
def counts (f : Fragment) : Query :=
  .selectWhere [.rowCount, .total .f .size] (.table .files .f)
    (.within (.column .f .id) (.select false [.column .q .id] (f.as .q)))

def metadataKeys (dialect : Dialect) (f : Fragment) : Query :=
  let q := f.withMetadata.as .q
  let keys := match dialect with
    | .sqlite =>
      .select true [.column .k .key] (.cross q (.jsonMembers (.column .q .metadata) .k))
    | .postgres => .select true [.objectKeys .q .metadata] q
  .ordered keys .firstItem .all

end Fragment

def totalSize (ids : List String) : Query :=
  .selectWhere [.total .f .size] (.table .files .f) (.oneOf (.column .f .id) ids)

end CatalogQuery.Sql
