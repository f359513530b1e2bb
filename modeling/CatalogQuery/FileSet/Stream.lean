/-
Streams of records and the set operations on them.  Records are told apart by their
identifiers; every operation keeps the order of its first operand and the first record
of each identifier.  A failure is an item like any other and passes through.
-/
import Std.Data.TreeSet
import CatalogQuery.Record.Basic
import CatalogQuery.Store.Flow

namespace CatalogQuery

/-- A record, or the failure that stands in its place. -/
abbrev StreamItem := Except Failure Record

/-- A program that yields records. -/
abbrev RecordStream := Flow StreamItem Unit

abbrev IdSet := Std.TreeSet String

/-- How many identifiers go into one statement where the store is asked about records. -/
def lookupSize : Nat := 1000

namespace RecordStream

/-- The stream of a single failure. -/
def fail (f : Failure) : RecordStream := .yield (.error f) (.finish ())

/-- The streams one after another; none is started before the one in front has ended. -/
def concat : List RecordStream → RecordStream
  | [] => .finish ()
  | first :: rest => first.bind fun _ => concat rest

/-- Keeps the records whose identifier is accepted. -/
def filterIds (accept : String → Bool) (s : RecordStream) : RecordStream :=
  s.filterItems
    (fun _ item =>
      match item with
      | .ok record => (accept record.id, ())
      | .error _ => (true, ()))
    ()

/-- Keeps the records whose metadata is accepted. -/
def filterMetadata (accept : Metadata → Bool) (s : RecordStream) : RecordStream :=
  s.filterItems
    (fun _ item =>
      match item with
      | .ok record => (accept record.metadata, ())
      | .error _ => (true, ()))
    ()

/-- Keeps the first record of each identifier. -/
def dedupe (s : RecordStream) : RecordStream :=
  s.filterItems
    (fun seen item =>
      match item with
      | .ok record => (!seen.contains record.id, seen.insert record.id)
      | .error _ => (true, seen))
    (∅ : IdSet)

/-- The records of all operands. -/
def union (operands : List RecordStream) : RecordStream :=
  dedupe (concat operands)

/-- Reads a stream to its end for the identifiers of its records; its first failure ends
the reading. -/
def collectIds (s : RecordStream) : Flow StreamItem (Except Failure IdSet) :=
  s.consume
    (fun ids item =>
      match item with
      | .ok record => .finish (.next (ids.insert record.id))
      | .error f => .finish (.stop (.error f)))
    (fun ids _ => .finish (.ok ids))
    ∅

/-- The identifiers that all of some streams have in common with a given set. -/
def collectCommon (ids : IdSet) : List RecordStream → Flow StreamItem (Except Failure IdSet)
  | [] => .finish (.ok ids)
  | s :: rest =>
    (collectIds s).bind fun found =>
      match found with
      | .error f => .finish (.error f)
      | .ok more => collectCommon (ids.filter more.contains) rest

/-- The records of the first operand whose identifiers the other operands have as well.
The others are read before the first one is started. -/
def intersect (left first : RecordStream) (rest : List RecordStream) : RecordStream :=
  (collectIds first).bind fun found =>
    match found with
    | .error f => fail f
    | .ok ids =>
      (collectCommon ids rest).bind fun found =>
        match found with
        | .error f => fail f
        | .ok ids => dedupe (left.filterIds ids.contains)

/-- The records of the first operand whose identifiers the second one does not have.  The
second one is read before the first one is started. -/
def difference (left right : RecordStream) : RecordStream :=
  (collectIds right).bind fun found =>
    match found with
    | .error f => fail f
    | .ok ids => dedupe (left.filterIds fun id => !ids.contains id)

/-- Takes the rows of a cursor one after another. -/
def ofCursor (convert : Except Failure Row → StreamItem) (cursor : Nat) :
    List (Except Failure Row) → RecordStream
  | [] => .finish ()
  | row :: rest => .advance cursor (.yield (convert row) (ofCursor convert cursor rest))

end RecordStream

end CatalogQuery
