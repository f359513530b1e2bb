/-
Summaries of sets of files: how many there are and how large, and which metadata keys
they have.  A set that is given by a query is summed up by the store in one statement.
-/
import CatalogQuery.FileSet.Basic

namespace CatalogQuery

/-- The number of files and their total size.  Both wrap around at sixty-four bits. -/
structure Counts where
  count : UInt64
  totalSize : UInt64
deriving DecidableEq, Inhabited

/-- The number in a column of the first row; without one, or if it is negative, zero. -/
def naturalAt (column : Nat) (rows : List Row) : UInt64 :=
  match rows.head? with
  | none => 0
  | some row =>
    match row[column]?.bind Cell.asInteger? with
    | none => 0
    | some n => UInt64.ofNat n.toInt.toNat

namespace FileSet

/-- The summary of a batch of records so far. -/
structure Tally where
  seen : IdSet := ∅
  count : UInt64 := 0
  size : UInt64 := 0
  /-- The files whose size is not known, the last one first. -/
  unknown : List String := []

/-- Counts a record that was not counted before. -/
def Tally.add (tally : Tally) (record : Record) : Tally :=
  if tally.seen.contains record.id then tally
  else
    let tally :=
      { tally with seen := tally.seen.insert record.id, count := tally.count + 1 }
    match record.size with
    | some size => { tally with size := tally.size + size }
    | none => { tally with unknown := record.id :: tally.unknown }

def lookUpSize (ids : List String) (debug : Bool) : Action (Except Failure UInt64) :=
  ((Sql.totalSize ids).rows "count" debug).bind fun answer =>
    .finish (answer.map (naturalAt 0))

/-- Counts a batch of records and looks up the sizes that they do not carry. -/
def countBatch (debug : Bool) (tally : Tally) (batch : List Record) :
    Action (Verdict Tally (Except Failure Counts)) :=
  let tally := batch.foldl Tally.add { tally with unknown := [] }
  if tally.unknown.isEmpty then .finish (.next tally)
  else
    (lookUpSize tally.unknown.reverse debug).bind fun answer =>
      match answer with
      | .error f => .finish (.stop (.error f))
      | .ok size => .finish (.next { tally with size := tally.size + size })

/-- Counts the files, each identifier once. -/
def counts (s : FileSet) : Action (Except Failure Counts) :=
  match s.source with
  | .query fragment _ =>
    (fragment.counts.rows "count" s.debug).bind fun answer =>
      .finish (answer.map fun rows => ⟨naturalAt 0 rows, naturalAt 1 rows⟩)
  | .stream records =>
    (records.chunks lookupSize).consume
      (fun tally batch =>
        match batch with
        | .error f => .finish (.stop (.error f))
        | .ok batch => countBatch s.debug tally batch)
      (fun tally _ => .finish (.ok ⟨tally.count, tally.size⟩))
      {}

/-- The metadata keys of the files, in order and each once. -/
def metadataKeys (s : FileSet) : Action (Except Failure (List String)) :=
  match s.source with
  | .query fragment _ =>
    ((fragment.metadataKeys s.dialect).rows "keys" s.debug).bind fun answer =>
      .finish (answer.map fun rows =>
        (Std.TreeSet.ofList
          (rows.filterMap fun row => row.head?.bind Cell.asText?)).toList)
  | .stream records =>
    records.consume
      (fun (keys : IdSet) item =>
        match item with
        | .error f => .finish (.stop (.error f))
        | .ok record => .finish (.next (keys.insertMany (record.metadata.map Prod.fst))))
      (fun keys _ => .finish (.ok keys.toList))
      ∅

end FileSet

end CatalogQuery
