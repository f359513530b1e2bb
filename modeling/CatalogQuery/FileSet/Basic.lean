/-
Sets of files, given by a query or by a stream of records.  An operation on queries
makes another query; as soon as one operand is a stream, the others become streams, too.
Nothing is asked of the store before the first record is pulled.
-/
import CatalogQuery.FileSet.Stream
import CatalogQuery.Record.Row
import CatalogQuery.Sql.Condition
import CatalogQuery.Sql.Files

namespace CatalogQuery

open Sql (ColumnSet Dialect Direction Fragment)

/-- Where the records of a set come from. -/
inductive FileSet.Source
  /-- A query, and the step of the whole that it belongs to. -/
  | query (fragment : Fragment) (context : String)
  | stream (s : RecordStream)

/-- A set of files. -/
structure FileSet where
  dialect : Dialect
  /-- Whether errors of the store show the failing statement. -/
  debug : Bool
  source : FileSet.Source

/-- A failure of a store, as one of a step of the query. -/
def Failure.atStep (context : String) (debug : Bool) (statement : Sql.Query) (cause : Failure) :
    Failure :=
  .storeFailure context (if debug then some statement.text else none) cause.description

/-- Runs a query for the sake of a step and returns all its rows. -/
def Sql.Query.rows {α : Type} (query : Sql.Query) (context : String) (debug : Bool) :
    Flow α (Except Failure (List Row)) :=
  .execute .catalog (.query query) fun answer =>
    .finish ((answer.map Answer.rows).mapError (Failure.atStep context debug query))

namespace RecordStream

def ofQuery (query : Sql.Query) (context : String) (debug : Bool) : RecordStream :=
  .openCursor (.query query) fun answer =>
    match answer with
    | .error f => fail (f.atStep context debug query)
    | .ok cursor =>
      ofCursor
        (fun row =>
          match row with
          | .error f => .error (f.atStep context debug query)
          | .ok row => Record.ofRow context row)
        cursor.number cursor.rows

/-- Looks up the files one step away from some others.  Those that were seen before are
left out, and a row that is no record fails the whole look-up. -/
def lookUp (direction : Direction) (columns : ColumnSet) (debug : Bool) (seen : IdSet)
    (ids : List String) : Flow StreamItem (Verdict (List String × IdSet) Unit) :=
  let query := ((Fragment.ofIds ids .ids).step direction columns).query
  (query.rows direction.name debug).bind fun answer =>
    match answer.bind fun rows => rows.mapM (Record.ofRow direction.name) with
    | .error f => .yield (.error f) (.finish (.stop ()))
    | .ok records =>
      let fresh := records.foldl
        (fun (fresh, seen) record =>
          if seen.contains record.id then (fresh, seen)
          else (record :: fresh, seen.insert record.id))
        (([] : List Record), seen)
      (Flow.ofList (fresh.1.reverse.map .ok)).bind fun _ => .finish (.next ([], fresh.2))

/-- The files one step away from those of a stream, each once.  Records are taken in
batches, and each batch is looked up before the next one is taken. -/
def expand (direction : Direction) (columns : ColumnSet) (debug : Bool) (s : RecordStream) :
    RecordStream :=
  s.consume
    (fun (ids, seen) item =>
      match item with
      | .error f => .yield (.error f) (.finish (.stop ()))
      | .ok record =>
        let ids := record.id :: ids
        if lookupSize ≤ ids.length then lookUp direction columns debug seen ids.reverse
        else .finish (.next (ids, seen)))
    (fun (ids, seen) _ =>
      if ids.isEmpty then .finish ()
      else (lookUp direction columns debug seen ids.reverse).bind fun _ => .finish ())
    (([] : List String), (∅ : IdSet))

end RecordStream

namespace FileSet

def ofQuery (dialect : Dialect) (fragment : Fragment) (context : String) (debug : Bool) :
    FileSet :=
  ⟨dialect, debug, .query fragment context⟩

def ofStream (dialect : Dialect) (s : RecordStream) : FileSet :=
  ⟨dialect, false, .stream s⟩

def ofRecords (dialect : Dialect) (records : List Record) : FileSet :=
  ofStream dialect (.ofList (records.map .ok))

/-- The query of the set, if it is given by one. -/
def fragment? (s : FileSet) : Option Fragment :=
  match s.source with
  | .query fragment _ => some fragment
  | .stream _ => none

/-- The set as it is shown in messages. -/
def describe (s : FileSet) : String :=
  match s.source with
  | .query fragment context =>
    "FileSet \x7b context: " ++ Text.quoted context ++ ", sql: " ++
      Text.quoted fragment.text ++ " \x7d"
  | .stream _ => "FileSet \x7b stream: \"..\" \x7d"

/-- The records of the set. -/
def stream (s : FileSet) : RecordStream :=
  match s.source with
  | .query fragment context => .ofQuery fragment.query context s.debug
  | .stream records => records

/-- Batches of the records. -/
def chunks (size : Nat) (s : FileSet) : Flow (Except Failure (List Record)) Unit :=
  s.stream.chunks size

/-- The result of a set operation: one query if each operand is given by a query, and the
given stream otherwise. -/
def combined (op : Sql.SetOperation) (context : String) (s : FileSet) (others : List FileSet)
    (records : RecordStream) : FileSet :=
  let debug := s.debug || others.any FileSet.debug
  match s.fragment?, others.mapM fragment? with
  | some first, some rest =>
    ofQuery s.dialect (.combine op first rest first.columns) context debug
  | _, _ => ⟨s.dialect, debug, .stream records⟩

/-- The files of all operands.  A single operand is returned as it is. -/
def union (s : FileSet) : List FileSet → FileSet
  | [] => s
  | others => combined .union "union" s others (.union (s.stream :: others.map stream))

/-- The files that all operands have in common.  A single operand is returned as it is. -/
def intersect (s : FileSet) : List FileSet → FileSet
  | [] => s
  | first :: rest =>
    combined .intersect "join" s (first :: rest)
      (s.stream.intersect first.stream (rest.map stream))

/-- The files of the first operand that the second one does not have. -/
def difference (s other : FileSet) : FileSet :=
  combined .except "minus" s [other] (s.stream.difference other.stream)

/-- The files one step away from those of the set: its parents or its children. -/
def step (direction : Direction) (columns : ColumnSet) (s : FileSet) : FileSet :=
  match s.source with
  | .query fragment _ =>
    ofQuery s.dialect (fragment.step direction columns) direction.name s.debug
  | .stream records => { s with source := .stream (records.expand direction columns s.debug) }

/-- The first files. -/
def limit (count : UInt64) (s : FileSet) : FileSet :=
  match s.source with
  | .query fragment _ => ofQuery s.dialect (fragment.limit count fragment.columns) "limit" s.debug
  | .stream records => { s with source := .stream (records.take count.toNat) }

/-- The files without the first ones. -/
def skip (count : UInt64) (s : FileSet) : FileSet :=
  match s.source with
  | .query fragment _ =>
    ofQuery s.dialect (fragment.skip s.dialect count fragment.columns) "skip" s.debug
  | .stream records => { s with source := .stream (records.drop count.toNat) }

/-- The files whose metadata satisfies a predicate. -/
def filterMetadata (p : Predicate) (s : FileSet) : Except Failure FileSet :=
  match s.source with
  | .query fragment _ => do
    match ← p.normalize with
    | .always => .ok s
    | form =>
      let condition ← Sql.condition? s.dialect Fragment.metadataColumn form
      .ok (ofQuery s.dialect (fragment.withMetadata.filtered condition fragment.columns)
        "meta_filter" s.debug)
  | .stream records => do
    let form ← p.toNnf
    .ok { s with source := .stream (records.filterMetadata form.holds) }

end FileSet

end CatalogQuery
