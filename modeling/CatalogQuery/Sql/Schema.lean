/-
The tables of the catalog that the queries read.
-/
import CatalogQuery.Sql.Text

namespace CatalogQuery.Sql

/-- The words in which dialects differ when tables are created. -/
structure Vocabulary where
  /-- The type of a file size. -/
  size : String
  /-- The type of a document. -/
  document : String
  /-- The type of a flag and its value when it is not set. -/
  flag : String
  unset : String
  createView : String
  /-- The query that makes one array of all values of a column. -/
  arrayOf : (column condition : String) → String

/-- The words of a dialect. -/
def vocabulary : Dialect → Vocabulary
  | .sqlite =>
    { size := "integer", document := "text", flag := "integer", unset := "0"
      createView := "create view if not exists"
      arrayOf := fun column condition =>
        "(select json_group_array(pc." ++ column ++ ") from parent_child pc where pc." ++
          condition ++ ")" }
  | .postgres =>
    { size := "bigint", document := "jsonb", flag := "boolean", unset := "false"
      createView := "create or replace view"
      arrayOf := fun column condition =>
        "coalesce((select jsonb_agg(pc." ++ column ++ ") from parent_child pc where pc." ++
          condition ++ "), '[]'::jsonb)" }

def createTable (t : Table) (columns : List String) : Statement :=
  .define ("create table if not exists " ++ t.label ++ " (" ++ ", ".intercalate columns ++ ")")

/-- The statements that create the tables. -/
def schema (dialect : Dialect) : List Statement :=
  let words := vocabulary dialect
  let metadata := "metadata " ++ words.document ++ " not null default '\x7b\x7d'"
  [ createTable .files
      ["id text primary key", "namespace text not null", "name text not null",
        "size " ++ words.size, metadata,
        "retired " ++ words.flag ++ " not null default " ++ words.unset,
        "unique (namespace, name)"],
    createTable .datasets
      ["namespace text not null", "name text not null", metadata, "description text",
        "primary key (namespace, name)"],
    createTable .filesDatasets
      ["file_id text not null references files(id)", "dataset_namespace text not null",
        "dataset_name text not null",
        "primary key (file_id, dataset_namespace, dataset_name)"],
    createTable .parentChild
      ["parent_id text not null references files(id)",
        "child_id text not null references files(id)", "primary key (parent_id, child_id)"],
    .define "create index if not exists parent_child_child on parent_child (child_id)",
    createTable .datasetsParentChild
      ["parent_namespace text not null", "parent_name text not null",
        "child_namespace text not null", "child_name text not null",
        "primary key (parent_namespace, parent_name, child_namespace, child_name)"],
    .define (words.createView ++ " files_with_provenance as select f.id, f.namespace, f.name, " ++
      "f.size, f.metadata, f.retired, " ++ words.arrayOf "parent_id" "child_id = f.id" ++
      " as parents, " ++ words.arrayOf "child_id" "parent_id = f.id" ++
      " as children from files f") ]

end CatalogQuery.Sql
