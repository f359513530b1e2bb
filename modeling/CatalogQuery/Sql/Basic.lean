/-
Queries of a relational store as data.  A query is a tree of selections, sources and
expressions over the tables of the catalog; texts that come from outside appear in it
as literals only.  How a tree is written down is the matter of `Sql.Text`.
-/
import CatalogQuery.Binary64.Basic

namespace CatalogQuery.Sql

/-- The two kinds of store that queries are written for. -/
inductive Dialect
  | sqlite
  | postgres
deriving DecidableEq, Inhabited

/-- The tables of the catalog. -/
inductive Table
  | files
  /-- The files with the identifiers of their parents and children. -/
  | filesWithProvenance
  | filesDatasets
  | parentChild
  | datasets
  | datasetsParentChild
  /-- The relation that a recursive query defines. -/
  | closure
deriving DecidableEq

/-- The columns of those tables, and of the rows that a document is unfolded to. -/
inductive Column
  | id
  | space
  | name
  | size
  | metadata
  | retired
  | parents
  | children
  | parentId
  | childId
  | fileId
  | datasetSpace
  | datasetName
  | parentSpace
  | parentName
  | childSpace
  | childName
  | key
  | value
  | type
  | item
deriving DecidableEq

/-- The names that relations are given inside a query. -/
inductive Alias
  | b
  | c
  | d
  | e
  | f
  | fd
  | k
  | p
  | pc
  | q
  | t
  /-- The operands of a set operation, by position. -/
  | u (i : Nat)
  | x
deriving DecidableEq

/-- A step into a document. -/
inductive PathStep
  | key (k : String)
  /-- An item, counted from the end if the position is negative. -/
  | item (i : Int)
deriving DecidableEq

/-- Operators that are written between their operands. -/
inductive BinaryOp
  | and
  | or
  | eq
  | ne
  | lt
  | le
  | gt
  | ge
  | glob
  | regexp
  /-- A pattern match. -/
  | matching (ignoreCase negated : Bool)
deriving DecidableEq

/-- The operations that combine the rows of two queries as sets. -/
inductive SetOperation
  | union
  | intersect
  | except
deriving DecidableEq

/-- The types that a JSON value is cast to. -/
inductive CastType
  | numeric
  | boolean
deriving DecidableEq

/-- A column of the rows that a selection returns. -/
inductive Item
  | column (a : Alias) (c : Column)
  /-- A column without its relation's name. -/
  | bare (c : Column)
  /-- A column that is not filled. -/
  | missing (c : Column)
  | everything
  | one
  | rowCount
  /-- The sum of a column, zero without rows. -/
  | total (a : Alias) (c : Column)
  /-- The keys of an object, each on a row of its own. -/
  | objectKeys (a : Alias) (c : Column)
deriving DecidableEq

/-- What rows are put in order by. -/
inductive OrderKey
  | column (a : Alias) (c : Column)
  | firstItem
deriving DecidableEq

/-- The part of the ordered rows that is returned. -/
inductive Window
  | all
  | first (count : UInt64)
  | after (count : UInt64)
  /-- The rows after the first ones, where an offset has to follow a limit. -/
  | afterUnlimited (count : UInt64)
deriving DecidableEq

mutual

/-- An expression.  Parentheses are a constructor of their own. -/
inductive Expr
  | column (a : Alias) (c : Column)
  | text (s : String)
  | integer (n : Int)
  | real (x : Binary64)
  | boolean (b : Bool)
  | group (e : Expr)
  | binary (op : BinaryOp) (left right : Expr)
  | not (e : Expr)
  | isNull (e : Expr)
  | isNotNull (e : Expr)
  /-- A pattern match in which a backslash takes the meaning from `%` and `_`. -/
  | like (e : Expr) (pattern : String)
  /-- Membership in a list of texts. -/
  | oneOf (e : Expr) (values : List String)
  /-- Membership in the rows of a query. -/
  | within (e : Expr) (q : Query)
  | exists_ (q : Query)
  /-- The test where the guard holds, and false elsewhere. -/
  | guarded (guard test : Expr)
  /-- The type of the value at a path of a document. -/
  | jsonType (document : Expr) (path : List PathStep)
  /-- The value at a path of a document. -/
  | jsonExtract (document : Expr) (path : List PathStep)
  /-- The length of the array at a path of a document. -/
  | jsonArrayLength (document : Expr) (path : List PathStep)
  /-- The member of a binary JSON value. -/
  | jsonbMember (e : Expr) (key : String)
  /-- The item of a binary JSON value. -/
  | jsonbItem (e : Expr) (i : Int)
  /-- The type of a binary JSON value. -/
  | jsonbType (e : Expr)
  /-- The text of a binary JSON value. -/
  | jsonbText (e : Expr)
  | jsonbCast (e : Expr) (type : CastType)
  | jsonbArrayLength (e : Expr)

/-- What rows are selected from. -/
inductive Source
  | table (t : Table) (a : Alias)
  | derived (q : Query) (a : Alias)
  | join (left right : Source) (condition : Expr)
  /-- Each row of the one with each row of the other. -/
  | cross (left right : Source)
  /-- The items of the array at a path of a document. -/
  | jsonItems (document : Expr) (path : List PathStep) (a : Alias)
  /-- The members of a document. -/
  | jsonMembers (document : Expr) (a : Alias)
  /-- The items of a binary JSON array. -/
  | jsonbItems (e : Expr) (a : Alias)

inductive Query
  | select (distinct : Bool) (items : List Item) (source : Source)
  | selectWhere (items : List Item) (source : Source) (condition : Expr)
  | ordered (q : Query) (key : OrderKey) (window : Window)
  | combined (op : SetOperation) (left right : Query)
  /-- The pairs of a namespace and a name that the first query returns or that the
  second one adds, time and again, to those there are. -/
  | closure (base step : Query)
  /-- A query given as a text. -/
  | verbatim (text : String)

end

/-- The conjunction of two expressions. -/
def Expr.and (left right : Expr) : Expr := .binary .and left right

/-- The equation of two expressions. -/
def Expr.equal (left right : Expr) : Expr := .binary .eq left right

/-- What a store is asked to do. -/
inductive Statement
  | query (q : Query)
  /-- Creates a table, a view or an index. -/
  | define (text : String)
  /-- The rows of a table with an integer between two bounds in a column. -/
  | rowsBetween (table column : String) (low high : Int64)

end CatalogQuery.Sql
