/-
Query trees.  A tree selects files, selects datasets or lists stored queries,
according to the kind of its root.
-/
import CatalogQuery.Dict
import CatalogQuery.Predicate.Basic

namespace CatalogQuery

/-- What a query returns. -/
inductive QueryType
  | file
  | dataset
  | queries
deriving DecidableEq

def QueryType.name : QueryType → String
  | .file => "file"
  | .dataset => "dataset"
  | .queries => "query"

/-- Files given by their identity. -/
inductive FileList
  | ids (ids : List String)
  /-- Texts `namespace:name`; one without a namespace takes the default one. -/
  | dids (dids : List String)
  | names (space : Option String) (names : List String)
deriving DecidableEq

/-- The arguments of a filter. -/
structure Arguments where
  positional : List Constant := []
  keyword : Dict String Constant := .empty

/-- A filter and its arguments. -/
structure FilterCall extends Arguments where
  name : String

/-- Datasets given by name. -/
structure DatasetSelector where
  space : Option String
  name : String
  /-- The name is a glob of `*` and `?`. -/
  pattern : Bool
  withChildren : Bool
  recursively : Bool
deriving DecidableEq

/-- A query. -/
inductive Node
  /-- `basic_files` without datasets: every file of the catalog. -/
  | everyFile
  /-- `basic_files` of the datasets that a query selects. -/
  | filesOf (query : Node)
  /-- `named_query`: a stored query, spliced in where it is named. -/
  | named (space : Option String) (name : String)
  | list (files : FileList)
  | union (operands : List Node)
  | join (operands : List Node)
  | minus (left right : Node)
  /-- `parents_of`: the files that those of a query were made of, one step away. -/
  | parentsOf (query : Node)
  | childrenOf (query : Node)
  | limit (query : Node) (count : UInt64)
  | skip (query : Node) (count : UInt64)
  | metaFilter (query : Node) (predicate : Predicate)
  | filter (call : FilterCall) (inputs : List Node)
  /-- `dataset_ref`: datasets by name. -/
  | datasets (selector : DatasetSelector)
  | datasetsHaving (query : Node) (predicate : Predicate)
  | datasetUnion (parts : List Node)
  /-- The stored queries of a namespace whose names match a glob. -/
  | namedQueries (space pattern : Option String)

instance : Inhabited Node := ⟨.everyFile⟩

namespace Node

def kind : Node → String
  | .everyFile | .filesOf _ => "basic_files"
  | .named .. => "named_query"
  | .list _ => "file_list"
  | .union _ => "union"
  | .join _ => "join"
  | .minus .. => "minus"
  | .parentsOf _ => "parents_of"
  | .childrenOf _ => "children_of"
  | .limit .. => "limit"
  | .skip .. => "skip"
  | .metaFilter .. => "meta_filter"
  | .filter .. => "filter"
  | .datasets _ => "dataset_ref"
  | .datasetsHaving .. => "dataset_having"
  | .datasetUnion _ => "dataset_union"
  | .namedQueries .. => "named_queries"

/-- What the query returns. -/
def type : Node → QueryType
  | .datasets _ | .datasetsHaving .. | .datasetUnion _ => .dataset
  | .namedQueries .. => .queries
  | _ => .file

def dataset (space name : String) : Node :=
  .datasets ⟨some space, name, false, false, false⟩

end Node

end CatalogQuery
