/-
A filter that looks up the run of each file in a table of the history store and adds
what is known of it to the metadata.  The run of a file is the first item of its field
`core.runs`.
-/
import CatalogQuery.Filter.Basic

namespace CatalogQuery

/-- Where runs are looked up and where the findings go. -/
structure RunHistory where
  table : String
  /-- The column with the number of the run. -/
  runColumn : String
  /-- What comes before the name of a column to make a field. -/
  space : String := "runs_history"

abbrev RunFields := List (String × Json)

/-- The runs that have been looked up and found. -/
abbrev KnownRuns := Dict Int RunFields

/-- The run of a file. -/
def runNumber? (metadata : Metadata) : Option Int :=
  match Assoc.get? "core.runs" metadata with
  | some (.array (.number (.int n) :: _)) =>
    if fitsInt64 n then some n else none
  | _ => none

/-- A cell as the value of a field; what JSON cannot express is no value. -/
def Cell.toJson : Cell → Json
  | .null | .blob _ => .null
  | .integer n => .int n.toInt
  | .real x => if x.isFinite then .float x else .null
  | .text s => .string s

namespace RunHistory

/-- The fields of a row: each column but the one at `key`. -/
def fieldsOf (h : RunHistory) (columns : List String) (key : Nat) (row : Row) : RunFields :=
  ((columns.zip row).eraseIdx key).map fun (column, cell) =>
    (h.space ++ "." ++ column, cell.toJson)

/-- Adds the run of a row, if the row has one that is not known yet. -/
def addRow (h : RunHistory) (columns : List String) (key : Nat) (known : KnownRuns)
    (row : Row) : KnownRuns :=
  match row[key]?.bind Cell.asInteger? with
  | none => known
  | some run =>
    if (known.get? run.toInt).isSome then known
    else known.insert run.toInt (h.fieldsOf columns key row)

/-- Adds the runs of an answer. -/
def addAnswer (h : RunHistory) (known : KnownRuns) (answer : Answer) :
    Except Failure KnownRuns :=
  match answer.columns.findIdx? (· == h.runColumn) with
  | none =>
    .error (.filter ("run history table " ++ h.table ++ " has no column " ++ h.runColumn))
  | some key => .ok (answer.rows.foldl (h.addRow answer.columns key) known)

/-- Looks up runs, all between the least and the greatest of them at once. -/
def lookUp (h : RunHistory) (known : KnownRuns) (runs : List Int) :
    Flow StreamItem (Except Failure KnownRuns) :=
  match runs.min?, runs.max? with
  | some low, some high =>
    .execute .history (.rowsBetween h.table h.runColumn (.ofInt low) (.ofInt high)) fun answer =>
      .finish (answer.bind (h.addAnswer known))
  | _, _ => .finish (.ok known)

/-- The record with what is known of its run. -/
def annotate (known : KnownRuns) (record : Record) : Record :=
  match (runNumber? record.metadata).bind known.get? with
  | none => record
  | some fields =>
    { record with
      metadata := fields.foldl (fun m (key, value) => Assoc.insert key value m) record.metadata }

/-- Annotates the records of a stream batch by batch.  Runs of a batch that are not known
are looked up before its first record is passed on. -/
def annotateAll (h : RunHistory) (records : RecordStream) : RecordStream :=
  (records.chunks lookupSize).consume
    (fun known batch =>
      match batch with
      | .error f => .yield (.error f) (.finish (.stop ()))
      | .ok batch =>
        let missing := (batch.filterMap fun record => runNumber? record.metadata).filter
          fun run => (known.get? run).isNone
        (h.lookUp known missing).bind fun found =>
          match found with
          | .error f => .yield (.error f) (.finish (.stop ()))
          | .ok known =>
            (Flow.ofList (batch.map fun record => .ok (annotate known record))).bind fun _ =>
              .finish (.next known))
    (fun _ _ => .finish ())
    (.empty : KnownRuns)

def filter (h : RunHistory) : Filter := fun inputs _ => .finish do
  let input ← Filter.singleInput "run_history" inputs
  .ok (h.annotateAll input.stream)

end RunHistory

end CatalogQuery
