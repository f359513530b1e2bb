/-
How queries are written.  The text is a row of pieces: words that are fixed by the
query's form, and literals.  A text literal stands between quotes and a quote inside it
is written twice, so that what it says never becomes part of the query's form.
-/
import CatalogQuery.Binary64.Notation
import CatalogQuery.Sql.Basic

namespace CatalogQuery.Sql

/-- A piece of a query's text. -/
inductive Piece
  | word (s : String)
  | text (s : String)
  | integer (n : Int)
  | real (x : Binary64)

/-- A text with every `quote` in it written twice. -/
def doubled (quote : Char) (s : String) : String :=
  String.ofList (s.toList.flatMap fun c => if c = quote then [quote, quote] else [c])

def quoteText (s : String) : String :=
  "'" ++ doubled '\x27' s ++ "'"

def quoteName (s : String) : String :=
  "\"" ++ doubled '"' s ++ "\""

def Piece.write : Piece → String
  | .word s => s
  | .text s => quoteText s
  | .integer n => toString n
  | .real x => Notation.plain.write x

/-- Pieces with a word between them. -/
def separated (separator : String) : List (List Piece) → List Piece
  | [] => []
  | [ps] => ps
  | ps :: qs :: rest => ps ++ .word separator :: separated separator (qs :: rest)

def Table.label : Table → String
  | .files => "files"
  | .filesWithProvenance => "files_with_provenance"
  | .filesDatasets => "files_datasets"
  | .parentChild => "parent_child"
  | .datasets => "datasets"
  | .datasetsParentChild => "datasets_parent_child"
  | .closure => "closure"

def Column.label : Column → String
  | .id => "id"
  | .space => "namespace"
  | .name => "name"
  | .size => "size"
  | .metadata => "metadata"
  | .retired => "retired"
  | .parents => "parents"
  | .children => "children"
  | .parentId => "parent_id"
  | .childId => "child_id"
  | .fileId => "file_id"
  | .datasetSpace => "dataset_namespace"
  | .datasetName => "dataset_name"
  | .parentSpace => "parent_namespace"
  | .parentName => "parent_name"
  | .childSpace => "child_namespace"
  | .childName => "child_name"
  | .key => "key"
  | .value => "value"
  | .type => "type"
  | .item => "v"

def Alias.label : Alias → String
  | .b => "b"
  | .c => "c"
  | .d => "d"
  | .e => "e"
  | .f => "f"
  | .fd => "fd"
  | .k => "k"
  | .p => "p"
  | .pc => "pc"
  | .q => "q"
  | .t => "t"
  | .u i => "u" ++ toString i
  | .x => "x"

/-- A column with its relation's name. -/
def qualified (a : Alias) (c : Column) : String :=
  a.label ++ "." ++ c.label

def PathStep.write : PathStep → String
  | .key k => ".\"" ++ k ++ "\""
  | .item i => (if i < 0 then "[#" else "[") ++ toString i ++ "]"

def writePath (path : List PathStep) : String :=
  "$" ++ String.join (path.map PathStep.write)

def BinaryOp.name : BinaryOp → String
  | .and => "and"
  | .or => "or"
  | .eq => "="
  | .ne => "<>"
  | .lt => "<"
  | .le => "<="
  | .gt => ">"
  | .ge => ">="
  | .glob => "glob"
  | .regexp => "regexp"
  | .matching false false => "~"
  | .matching true false => "~*"
  | .matching false true => "!~"
  | .matching true true => "!~*"

def SetOperation.name : SetOperation → String
  | .union => "union"
  | .intersect => "intersect"
  | .except => "except"

def CastType.name : CastType → String
  | .numeric => "numeric"
  | .boolean => "boolean"

def Item.write : Item → String
  | .column a c => qualified a c
  | .bare c => c.label
  | .missing c => "null as " ++ c.label
  | .everything => "*"
  | .one => "1"
  | .rowCount => "count(*)"
  | .total a c => "coalesce(sum(" ++ qualified a c ++ "), 0)"
  | .objectKeys a c => "jsonb_object_keys(" ++ qualified a c ++ ") as key"

/-- The text of a selection up to its source. -/
def writeSelect (distinct : Bool) (items : List Item) : String :=
  (if distinct then "select distinct " else "select ") ++
    ", ".intercalate (items.map Item.write) ++ " from "

def OrderKey.write : OrderKey → String
  | .column a c => qualified a c
  | .firstItem => "1"

def Window.pieces : Window → List Piece
  | .all => []
  | .first count => [.word " limit ", .integer count.toNat]
  | .after count => [.word " offset ", .integer count.toNat]
  | .afterUnlimited count =>
    [.word " limit ", .integer (-1), .word " offset ", .integer count.toNat]

mutual

def Expr.pieces : Expr → List Piece
  | .column a c => [.word (qualified a c)]
  | .text s => [.text s]
  | .integer n => [.integer n]
  | .real x => [.real x]
  | .boolean b => [.word (if b then "true" else "false")]
  | .group e => .word "(" :: (e.pieces ++ [.word ")"])
  | .binary op left right =>
    left.pieces ++ .word (" " ++ op.name ++ " ") :: right.pieces
  | .not e => .word "not " :: e.pieces
  | .isNull e => e.pieces ++ [.word " is null"]
  | .isNotNull e => e.pieces ++ [.word " is not null"]
  | .like e pattern => e.pieces ++ [.word " like ", .text pattern, .word " escape ", .text "\\"]
  | .oneOf e values =>
    e.pieces ++ .word " in (" :: (separated ", " (values.map fun v => [.text v]) ++ [.word ")"])
  | .within e q => e.pieces ++ .word " in (" :: (q.pieces ++ [.word ")"])
  | .exists_ q => .word "exists (" :: (q.pieces ++ [.word ")"])
  | .guarded guard test =>
    .word "case when " :: (guard.pieces ++ .word " then " ::
      (test.pieces ++ [.word " else false end"]))
  | .jsonType document path =>
    .word "json_type(" :: (document.pieces ++ [.word ", ", .text (writePath path), .word ")"])
  | .jsonExtract document path =>
    .word "json_extract(" ::
      (document.pieces ++ [.word ", ", .text (writePath path), .word ")"])
  | .jsonArrayLength document path =>
    .word "json_array_length(" ::
      (document.pieces ++ [.word ", ", .text (writePath path), .word ")"])
  | .jsonbMember e key => .word "(" :: (e.pieces ++ [.word " -> ", .text key, .word ")"])
  | .jsonbItem e i => .word "(" :: (e.pieces ++ [.word " -> ", .integer i, .word ")"])
  | .jsonbType e => .word "jsonb_typeof(" :: (e.pieces ++ [.word ")"])
  | .jsonbText e =>
    .word "(" :: (e.pieces ++ [.word " #>> ", .text "\x7b\x7d", .word ")"])
  | .jsonbCast e type => .word "(" :: (e.pieces ++ [.word (")::" ++ type.name)])
  | .jsonbArrayLength e => .word "jsonb_array_length(" :: (e.pieces ++ [.word ")"])

def Source.pieces : Source → List Piece
  | .table t a => [.word (t.label ++ " " ++ a.label)]
  | .derived q a => .word "(" :: (q.pieces ++ [.word (") " ++ a.label)])
  | .join left right condition =>
    left.pieces ++ .word " join " :: (right.pieces ++ .word " on " :: condition.pieces)
  | .cross left right => left.pieces ++ .word ", " :: right.pieces
  | .jsonItems document path a =>
    .word "json_each(" ::
      (document.pieces ++ [.word ", ", .text (writePath path), .word (") " ++ a.label)])
  | .jsonMembers document a =>
    .word "json_each(" :: (document.pieces ++ [.word (") " ++ a.label)])
  | .jsonbItems e a =>
    .word "jsonb_array_elements(" :: (e.pieces ++ [.word (") " ++ a.label ++ "(v)")])

def Query.pieces : Query → List Piece
  | .select distinct items source => .word (writeSelect distinct items) :: source.pieces
  | .selectWhere items source condition =>
    .word (writeSelect false items) :: (source.pieces ++ .word " where " :: condition.pieces)
  | .ordered q key window =>
    q.pieces ++ .word (" order by " ++ key.write) :: window.pieces
  | .combined op left right =>
    left.pieces ++ .word (" " ++ op.name ++ " ") :: right.pieces
  | .closure base step =>
    .word "with recursive closure(namespace, name) as (" ::
      (base.pieces ++ .word " union " ::
        (step.pieces ++ [.word ") select namespace, name from closure"]))
  | .verbatim text => [.word text]

end

def writePieces (ps : List Piece) : String :=
  String.join (ps.map Piece.write)

def Query.text (q : Query) : String :=
  writePieces q.pieces

def Statement.text : Statement → String
  | .query q => q.text
  | .define text => text
  | .rowsBetween table column low high =>
    "select * from " ++ quoteName table ++ " where " ++ quoteName column ++ " between " ++
      toString low.toInt ++ " and " ++ toString high.toInt

end CatalogQuery.Sql
