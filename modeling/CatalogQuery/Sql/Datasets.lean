/-
Queries for datasets.  Every one of them returns namespace, name and metadata.
-/
import CatalogQuery.Query.Node
import CatalogQuery.Sql.Text

namespace CatalogQuery.Sql

/-- A glob of `*` and `?` as a pattern of `%` and `_`. -/
def likeOfGlob (glob : String) : String :=
  String.ofList <| glob.toList.flatMap fun c =>
    if c = '*' then ['%']
    else if c = '?' then ['_']
    else if c = '%' ∨ c = '_' ∨ c = '\\' then ['\\', c]
    else [c]

def datasetColumns : List Item :=
  [.column .d .space, .column .d .name, .column .d .metadata]

/-- The metadata column that conditions on datasets are about. -/
def datasetMetadata : Expr := .column .d .metadata

/-- The condition that the name of a dataset is the given one or matches it. -/
def nameCondition (dialect : Dialect) (selector : DatasetSelector) : Expr :=
  match selector.pattern, dialect with
  | false, _ => .equal (.column .d .name) (.text selector.name)
  | true, .sqlite => .binary .glob (.column .d .name) (.text selector.name)
  | true, .postgres => .like (.column .d .name) (likeOfGlob selector.name)

def namedDatasets (dialect : Dialect) (space : String) (selector : DatasetSelector) : Query :=
  .selectWhere datasetColumns (.table .datasets .d)
    ((Expr.equal (.column .d .space) (.text space)).and (nameCondition dialect selector))

def childrenOf (parents : Source) (a : Alias) : Query :=
  .select false [.column .pc .childSpace, .column .pc .childName]
    (.join (.table .datasetsParentChild .pc) parents
      ((Expr.equal (.column .pc .parentSpace) (.column a .space)).and
        (.equal (.column .pc .parentName) (.column a .name))))

/-- Namespaces and names of the datasets of a query and of their children, or of all that
are below them. -/
def withDescendants (base : Query) (recursively : Bool) : Query :=
  let named := .select false [.column .b .space, .column .b .name] (.derived base .b)
  if recursively then .closure named (childrenOf (.table .closure .c) .c)
  else .combined .union named (childrenOf (.derived base .p) .p)

def selectedDatasets (dialect : Dialect) (space : String) (selector : DatasetSelector) :
    Query :=
  let base := namedDatasets dialect space selector
  if selector.withChildren then
    .selectWhere datasetColumns (.table .datasets .d)
      (.exists_ (.selectWhere [.one] (.derived (withDescendants base selector.recursively) .x)
        ((Expr.equal (.column .x .space) (.column .d .space)).and
          (.equal (.column .x .name) (.column .d .name)))))
  else base

/-- The datasets of a query with a condition on `datasetMetadata`. -/
def datasetsHaving (inner : Query) (condition : Expr) : Query :=
  .selectWhere datasetColumns (.derived inner .d) condition

/-- The rows of an operand of a union. -/
def operandRows (q : Query) (i : Nat) : Query :=
  .select false [.everything] (.derived q (.u i))

def datasetUnion (first : Query) (rest : List Query) : Query :=
  (rest.zipIdx 1).foldl (fun q (r, i) => .combined .union q (operandRows r i))
    (operandRows first 0)

end CatalogQuery.Sql
