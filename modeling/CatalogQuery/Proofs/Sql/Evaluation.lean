/-
What the expressions and queries of the store mean, by the rules of both dialects.  A
condition has three truth values and a row is kept where the condition is true.  Operands
are all evaluated, so that an expression without an error has none in whatever order a
store takes them; only a guard comes before its test.
-/
import CatalogQuery.Proofs.Sql.Catalog
import CatalogQuery.Proofs.Sql.Wildcard

namespace CatalogQuery.Sql

/-- What an operator makes of its operands. -/
def BinaryOp.apply (op : BinaryOp) (db : Database) (left right : Value) : Option Value :=
  match op with
  | .and => do return .ofTruth ((← left.truth?).and (← right.truth?))
  | .or => do return .ofTruth ((← left.truth?).or (← right.truth?))
  | .eq => compareValues db.dialect .eq left right
  | .ne => compareValues db.dialect .ne left right
  | .lt => compareValues db.dialect .lt left right
  | .le => compareValues db.dialect .le left right
  | .gt => compareValues db.dialect .gt left right
  | .ge => compareValues db.dialect .ge left right
  | .glob =>
    match left, right with
    | .null, _ | _, .null => some .null
    | .text s, .text pattern => some (.truth (globMatches pattern s))
    | _, _ => none
  | .regexp =>
    match left, right with
    | .text s, .text pattern => some (.truth (db.patterns.regexp pattern s))
    | _, .text _ => some (.truth false)
    | _, _ => none
  | .matching ignoreCase negated =>
    match left, right with
    | .null, _ | _, .null => some .null
    | .text s, .text pattern =>
      some (.truth (db.patterns.matching ignoreCase pattern s != negated))
    | _, _ => none

/-- The value of a returned column in a row; none for what is not about a single row. -/
def Item.eval (scope : Scope) : Item → Option Fields
  | .column a c => (scope.column? a c).map fun v => [(some c, v)]
  | .bare c => (scope.findSome? fun relation => relation.2.get? c).map fun v => [(some c, v)]
  | .missing c => some [(some c, .null)]
  | .everything => scope.head?.map Prod.snd
  | .one => some [(none, .int 1)]
  | .rowCount | .total _ _ | .objectKeys _ _ => none

/-- The returned columns of a row. -/
def project (scope : Scope) (items : List Item) : Option Fields :=
  (items.mapM (Item.eval scope)).map List.flatten

/-- The sum of a column over rows, zero without rows; missing values do not count. -/
def totalOf (a : Alias) (c : Column) : List Scope → Option Int
  | [] => some 0
  | scope :: rest => do
    let total ← totalOf a c rest
    match ← scope.column? a c with
    | .null => return total
    | .number (.int n) => return n + total
    | _ => none

/-- What a returned column is over all rows, if it is about all of them. -/
def Item.sumUp (scopes : List Scope) : Item → Option Fields
  | .rowCount => some [(none, .int scopes.length)]
  | .total a c => (totalOf a c scopes).map fun n => [(none, .int n)]
  | _ => none

/-- The keys of an object, each on a row of its own. -/
def keyRows (scopes : List Scope) (a : Alias) (c : Column) : Option (List (Scope × Fields)) := do
  let rows ← scopes.mapM fun scope => do
    match (← scope.column? a c).json? with
    | some (.object members) =>
      return members.map fun (key, _) => (scope, fieldsOf [(.key, .text key)])
    | _ => none
  return rows.flatten

/-- Whether a returned column is about all rows at once. -/
def Item.isTotal : Item → Bool
  | .rowCount | .total _ _ => true
  | _ => false

/-- The rows that a selection returns, each with the relations it was made from. -/
def returnedRows (items : List Item) (scopes : List Scope) : Option (List (Scope × Fields)) :=
  match items with
  | [.objectKeys a c] => keyRows scopes a c
  | items =>
    if items.any Item.isTotal then
      (items.mapM (Item.sumUp scopes)).map fun fields => [([], fields.flatten)]
    else scopes.mapM fun scope => (project scope items).map fun fields => (scope, fields)

/-- Adds a row to others unless one of them has the same cells. -/
def addDistinct {α : Type} (cells : α → Row) (kept : List α) (row : α) : List α :=
  if kept.any fun other => cells other == cells row then kept else kept ++ [row]

/-- Rows without those whose cells an earlier one has. -/
def distinctOn {α : Type} (cells : α → Row) (rows : List α) : List α :=
  rows.foldl (addDistinct cells) []

def hasRow (rows : List Fields) (row : Fields) : Bool :=
  rows.any fun other => other.cells == row.cells

/-- Combines the rows of two queries as sets. -/
def SetOperation.apply (op : SetOperation) (left right : List Fields) : List Fields :=
  match op with
  | .union => distinctOn Fields.cells (left ++ right)
  | .intersect => distinctOn Fields.cells (left.filter (hasRow right))
  | .except => distinctOn Fields.cells (left.filter fun row => !hasRow right row)

def Table.columns : Table → List Column
  | .files => [.id, .space, .name, .size, .metadata, .retired]
  | .filesWithProvenance =>
    [.id, .space, .name, .size, .metadata, .retired, .parents, .children]
  | .filesDatasets => [.fileId, .datasetSpace, .datasetName]
  | .parentChild => [.parentId, .childId]
  | .datasets => [.space, .name, .metadata]
  | .datasetsParentChild => [.parentSpace, .parentName, .childSpace, .childName]
  | .closure => [.space, .name]

/-- The name of a returned column, if it has one. -/
def Item.name? : Item → Option Column
  | .column _ c | .bare c | .missing c => some c
  | .objectKeys _ _ => some .key
  | .everything | .one | .rowCount | .total _ _ => none

mutual

/-- The names of the columns of the innermost relation of a source. -/
@[simp]
def Source.names : Source → List (Option Column)
  | .table t _ => t.columns.map some
  | .derived q _ => q.names
  | .join _ right _ | .cross _ right => right.names
  | .jsonItems _ _ _ | .jsonMembers _ _ => [some .key, some .value, some .type]
  | .jsonbItems _ _ => [some .item]

/-- The names of the columns of a query.  Those of a set operation are those of its first
operand. -/
@[simp]
def Query.names : Query → List (Option Column)
  | .select _ items source | .selectWhere items source _ =>
    items.flatMap fun item => if item = .everything then source.names else [item.name?]
  | .ordered q _ _ => q.names
  | .combined _ left _ => left.names
  | .closure _ _ => [some .space, some .name]
  | .verbatim _ => []

end

/-- Gives the columns of a row their names, by position. -/
def relabel : List (Option Column) → Fields → Fields
  | name :: names, (_, v) :: rest => (name, v) :: relabel names rest
  | _, rest => rest

def OrderKey.eval (row : Scope × Fields) : OrderKey → Option Value
  | .column a c => row.1.column? a c
  | .firstItem => row.2.head?.map Prod.snd

/-- Whether a value may stand before another one.  Only texts are ordered here. -/
def mayPrecede : Value → Value → Bool
  | .text s, .text t => compare s t != .gt
  | _, _ => true

def orderRows (key : OrderKey) (rows : List (Scope × Fields)) :
    Option (List (Scope × Fields)) := do
  let keyed ← rows.mapM fun row => (key.eval row).map fun v => (v, row)
  return (keyed.mergeSort fun a b => mayPrecede a.1 b.1).map Prod.snd

/-- The part of some rows that is returned. -/
def Window.apply {α : Type} (rows : List α) : Window → List α
  | .all => rows
  | .first count => rows.take count.toNat
  | .after count | .afterUnlimited count => rows.drop count.toNat

/-- The pair of a namespace and a name in a row. -/
def pairOf? (row : Scope × Fields) : Option (String × String) :=
  match row.2.map Prod.snd with
  | [.text space, .text name] => some (space, name)
  | _ => none

/-- The pairs that are not among some others, each once. -/
def freshPairs (known : List (String × String)) : List (String × String) → List (String × String)
  | [] => []
  | pair :: rest =>
    if pair ∈ known then freshPairs known rest else pair :: freshPairs (pair :: known) rest

/-- Adds pairs in rounds until so many rounds have passed. -/
def addRounds (step : List (String × String) → Option (List (String × String))) :
    Nat → List (String × String) → Option (List (String × String))
  | 0, known => some known
  | rounds + 1, known => do
    let more ← step known
    addRounds step rounds (known ++ freshPairs known more)

/-- The rows of the items of a document: those of an array, of an object, or the value
itself. -/
def itemFields (v : Json) : List Fields :=
  let fields (key : Value) (item : Json) : Fields :=
    fieldsOf [(.key, key), (.value, extracted item), (.type, .text (typeName item))]
  match v with
  | .array items => items.zipIdx.map fun (item, i) => fields (.int i) item
  | .object members => members.map fun (key, member) => fields (.text key) member
  | v => [fields .null v]

/-- The rows of the items at a path of a document. -/
def itemsAt (path : List PathStep) (document : Value) : Option (List Fields) :=
  if path.all PathStep.isQuotable then
    match document with
    | .null => some []
    | document => document.json?.map fun v => (valueAt? path v).elim [] itemFields
  else none

/-- The rows of the items of a binary JSON array.  What is no array raises an error. -/
def binaryItems : Value → Option (List Fields)
  | .null => some []
  | v => do
    match ← v.json? with
    | .array items => return items.map fun item => fieldsOf [(.item, .json item)]
    | _ => none

/-- The relations of a row of a source, in front of those around it. -/
def withRows (scope : Scope) (a : Alias) (rows : List Fields) : List Scope :=
  rows.map fun fields => (a, fields) :: scope

/-- The relations in which a condition is true. -/
def keepWhere (condition : Scope → Option Value) : List Scope → Option (List Scope)
  | [] => some []
  | scope :: rest => do
    let t ← (← condition scope).truth?
    let kept ← keepWhere condition rest
    return if t = .yes then scope :: kept else kept

mutual

/-- The value of an expression. -/
@[simp]
def Expr.eval (db : Database) (scope : Scope) : Expr → Option Value
  | .column a c => scope.column? a c
  | .text s => some (.text s)
  | .integer n => some (.int n)
  | .real x => some (.number (.float x))
  | .boolean b => some (.truth b)
  | .group e => e.eval db scope
  | .binary op left right => do
    let v ← left.eval db scope
    let w ← right.eval db scope
    op.apply db v w
  | .not e => do
    let v ← e.eval db scope
    return .ofTruth (← v.truth?).not
  | .isNull e => do
    let v ← e.eval db scope
    return .truth v.isNull
  | .isNotNull e => do
    let v ← e.eval db scope
    return .truth (!v.isNull)
  | .like e pattern => do
    match ← e.eval db scope with
    | .null => return .null
    | .text s => return .truth (likeMatches pattern s)
    | _ => none
  | .oneOf e values => do
    let v ← e.eval db scope
    return .ofTruth (← amongValues db.dialect v (values.map .text))
  | .within e q => do
    let v ← e.eval db scope
    let rows ← q.eval db scope
    let firsts ← rows.mapM fun row => row.2.head?.map Prod.snd
    return .ofTruth (← amongValues db.dialect v firsts)
  | .exists_ q => do
    let rows ← q.eval db scope
    return .truth (!rows.isEmpty)
  | .guarded guard test => do
    let v ← guard.eval db scope
    if (← v.truth?) = .yes then test.eval db scope else return .truth false
  | .jsonType document path => do
    atPath path (fun v => .text (typeName v)) (← document.eval db scope)
  | .jsonExtract document path => do
    atPath path extracted (← document.eval db scope)
  | .jsonArrayLength document path => do
    atPath path lengthOf (← document.eval db scope)
  | .jsonbMember e key => do
    onJson (fun v => partOf (memberOf? key v)) (← e.eval db scope)
  | .jsonbItem e i => do
    let v ← e.eval db scope
    if fitsInt32 i then onJson (fun v => partOf (itemOf? i v)) v else none
  | .jsonbType e => do
    onJson (fun v => some (.text (binaryTypeName v))) (← e.eval db scope)
  | .jsonbText e => do
    onJson (fun v => some (plainText v)) (← e.eval db scope)
  | .jsonbCast e type => do
    onJson (castJson type) (← e.eval db scope)
  | .jsonbArrayLength e => do
    onJson binaryLength (← e.eval db scope)

/-- The rows of a source, as the relations that each of them puts in reach. -/
@[simp]
def Source.eval (db : Database) (scope : Scope) : Source → Option (List Scope)
  | .table t a => some (withRows scope a (db.rows t))
  | .derived q a => do
    let rows ← q.eval db scope
    return withRows scope a (rows.map Prod.snd)
  | .join left right condition => do
    let lefts ← left.eval db scope
    let pairs ← lefts.mapM fun inner => right.eval db inner
    keepWhere (fun inner => condition.eval db inner) pairs.flatten
  | .cross left right => do
    let lefts ← left.eval db scope
    let pairs ← lefts.mapM fun inner => right.eval db inner
    return pairs.flatten
  | .jsonItems document path a => do
    let items ← itemsAt path (← document.eval db scope)
    return withRows scope a items
  | .jsonMembers document a => do
    let items ← itemsAt [] (← document.eval db scope)
    return withRows scope a items
  | .jsonbItems e a => do
    let items ← binaryItems (← e.eval db scope)
    return withRows scope a items

/-- The rows of a query, each with the relations it was made from. -/
@[simp]
def Query.eval (db : Database) (scope : Scope) : Query → Option (List (Scope × Fields))
  | .select distinct items source => do
    let rows ← returnedRows items (← source.eval db scope)
    return if distinct then distinctOn (fun row => row.2.cells) rows else rows
  | .selectWhere items source condition => do
    let scopes ← source.eval db scope
    returnedRows items (← keepWhere (fun inner => condition.eval db inner) scopes)
  | .ordered q key window => do
    let rows ← orderRows key (← q.eval db scope)
    return window.apply rows
  | .combined op left right => do
    let lefts ← left.eval db scope
    let rights ← right.eval db scope
    return (op.apply (lefts.map Prod.snd) (rights.map Prod.snd)).map fun fields =>
      ([], relabel left.names fields)
  | .closure base step => do
    let start ← (← base.eval db scope).mapM pairOf?
    let round (known : List (String × String)) : Option (List (String × String)) := do
      let rows ← step.eval { db with closure := known } scope
      rows.mapM pairOf?
    -- Each round but the last adds the end of an edge that no round before it added.
    let pairs ← addRounds round (db.catalog.datasetEdges.length + 1) (freshPairs [] start)
    return pairs.map fun pair => ([], Database.pairFields .space .name pair)
  | .verbatim _ => none

end

/-- The rows that a store answers a query with; none if it raises an error. -/
def Database.answer (db : Database) (q : Query) : Option (List Row) :=
  (q.eval db []).map fun rows => rows.map fun row => row.2.cells

/-- The truth value of a condition. -/
def Expr.truth (db : Database) (scope : Scope) (e : Expr) : Option Truth :=
  (e.eval db scope).bind Value.truth?

end CatalogQuery.Sql
