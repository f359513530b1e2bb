/-
What queries are answered with: the dialect of the store, the filters and the stored
queries.  Queries for datasets always become one query of the store.
-/
import CatalogQuery.Filter.Basic
import CatalogQuery.Query.Options
import CatalogQuery.Query.Registry
import CatalogQuery.Sql.Datasets

namespace CatalogQuery

/-- What queries are answered with. -/
structure Engine where
  dialect : Sql.Dialect
  filters : FilterRegistry
  queries : NamedQueries

def Options.columns (o : Options) : Sql.ColumnSet := ⟨o.withMeta, o.withProvenance⟩

/-- The namespace that is given, or the default one. -/
def Options.requireSpace (o : Options) (space : Option String) (subject : String) :
    Except Failure String :=
  match space <|> o.defaultNamespace with
  | some space => .ok space
  | none => .error (.missingNamespace subject)

namespace Engine

/-- Fails because a query of one type stands where another type is needed. -/
def mismatch {α : Type} (needed : QueryType) (node : Node) : Except Failure α :=
  .error (.queryTypeMismatch needed.name node.kind)

mutual

/-- The query of the store that a query for datasets becomes. -/
def compileDatasets (e : Engine) (o : Options) : Node → Except Failure Sql.Query
  | .datasets selector => do
    let space ← o.requireSpace selector.space "dataset reference"
    return Sql.selectedDatasets e.dialect space selector
  | .datasetsHaving query predicate => do
    let inner ← compileDatasets e o query
    match ← predicate.normalize with
    | .always => return inner
    | form =>
      let condition ← Sql.condition? e.dialect Sql.datasetMetadata form
      return Sql.datasetsHaving inner condition
  | .datasetUnion parts => do
    match ← compileDatasetParts e o parts with
    | [] => .error (.invalidOperand (Node.datasetUnion parts).kind .noDataset)
    | [only] => return only
    | first :: rest => return Sql.datasetUnion first rest
  | other => mismatch .dataset other

/-- The queries of the store that the parts of a union become. -/
def compileDatasetParts (e : Engine) (o : Options) :
    List Node → Except Failure (List Sql.Query)
  | [] => .ok []
  | part :: rest => do
    let first ← compileDatasets e o part
    let rest ← compileDatasetParts e o rest
    return first :: rest

end

end Engine

end CatalogQuery
