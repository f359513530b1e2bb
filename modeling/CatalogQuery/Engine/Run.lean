/-
Answers to queries.  Files come as a set that asks nothing of the store before its first
record is pulled; datasets and summaries are asked for at once.
-/
import CatalogQuery.Engine.Compile
import CatalogQuery.FileSet.Summary
import CatalogQuery.Sql.Schema

namespace CatalogQuery

open Sql (ColumnSet)

inductive QueryAnswer
  | files (files : FileSet)
  | datasets (datasets : List DatasetRecord)
  | namedQueries (queries : List StoredQuery)

/-- The summaries of a query for files. -/
inductive Summary
  | count
  | keys
deriving DecidableEq

inductive SummaryAnswer
  | count (counts : Counts)
  | keys (keys : List String)

/-- The record without the columns that nobody asked for. -/
def Record.only (columns : ColumnSet) (r : Record) : Record :=
  { r with
    metadata := if columns.metadata then r.metadata else []
    parents := if columns.provenance then r.parents else none
    children := if columns.provenance then r.children else none }

/-- The set with the columns of its records that somebody asked for. -/
def FileSet.only (columns : ColumnSet) (s : FileSet) : FileSet :=
  .ofStream s.dialect (s.stream.mapItems fun item => item.map (Record.only columns))

namespace Engine

def files (e : Engine) (o : Options) (node : Node) : Except Failure FileSet := do
  match ← e.compile o node with
  | .query fragment => return .ofQuery e.dialect fragment node.kind o.debug
  | .records files => return files.only o.columns

def datasets (e : Engine) (o : Options) (node : Node) :
    Action (Except Failure (List DatasetRecord)) :=
  match e.compileDatasets o node with
  | .error f => .finish (.error f)
  | .ok query =>
    (query.rows node.kind o.debug).bind fun answer =>
      .finish (answer.bind fun rows => rows.mapM (DatasetRecord.ofRow node.kind))

def query (e : Engine) (o : Options) (node : Node) : Action (Except Failure QueryAnswer) :=
  match node with
  | .namedQueries space pattern =>
    .finish ((e.queries.search space pattern).map .namedQueries)
  | node =>
    match node.type with
    | .dataset => (e.datasets o node).bind fun answer => .finish (answer.map .datasets)
    | _ => .finish ((e.files o node).map .files)

/-- Sums up a query for files.  The columns that the summary needs are asked for whatever
the options say. -/
def summary (e : Engine) (o : Options) (kind : Summary) (node : Node) :
    Action (Except Failure SummaryAnswer) :=
  if node.type ≠ .file then .finish (mismatch .file node)
  else
    match e.files { o with withMeta := kind = .keys, withProvenance := false } node with
    | .error f => .finish (.error f)
    | .ok files =>
      match kind with
      | .count => files.counts.bind fun answer => .finish (answer.map .count)
      | .keys => files.metadataKeys.bind fun answer => .finish (answer.map .keys)

end Engine

def runAll : List Sql.Statement → Action (Except Failure Unit)
  | [] => .finish (.ok ())
  | statement :: rest =>
    .execute .catalog statement fun answer =>
      match answer with
      | .error f => .finish (.error f)
      | .ok _ => runAll rest

def createTables (dialect : Sql.Dialect) : Action (Except Failure Unit) :=
  runAll (Sql.schema dialect)

end CatalogQuery
