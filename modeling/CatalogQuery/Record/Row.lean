/-
Records from rows.  The first columns are texts, the others JSON texts or nothing.  The
identifiers of parents and children are put in order, each once, as stores aggregate
them in any order.
-/
import CatalogQuery.Failure
import CatalogQuery.Json.Reader
import CatalogQuery.Record.Basic
import CatalogQuery.Store.Flow

namespace CatalogQuery

namespace Cell

/-- The text of a column; an integer counts as its decimal text. -/
def requireText (column : String) : Cell → Except RowFault String
  | .text s => .ok s
  | .integer n => .ok (toString n.toInt)
  | found => .error (.notText column found)

def readJson (column text : String) : Except RowFault (Option Json) :=
  match Json.read? text with
  | some value => .ok (some value)
  | none => .error (.notJson column)

/-- The JSON value of a column, if there is one. -/
def requireJson (column : String) : Cell → Except RowFault (Option Json)
  | .null => .ok none
  | .text s => readJson column s
  | .blob bytes =>
    match String.fromUTF8? ⟨bytes.toArray⟩ with
    | some s => readJson column s
    | none => .error (.notJson column)
  | found => .error (.notJsonText column found)

end Cell

/-- The identifier that an item of an array stands for: a text for itself and any other
value but `null` for its own text. -/
def identifierOf? : Json → Option String
  | .string s => some s
  | .null => none
  | other => some other.write

/-- Texts in increasing order, each once. -/
def sortedTexts (texts : List String) : List String :=
  (Dict.ofList (texts.map fun s => (s, ()))).keys

/-- The identifiers of a column, if it is filled. -/
def requireIds (column : String) (cell : Cell) : Except RowFault (Option (List String)) := do
  match ← cell.requireJson column with
  | none => .ok none
  | some (.array items) => .ok (some (sortedTexts (items.filterMap identifierOf?)))
  | some _ => .error (.notArray column)

/-- The metadata of the file with an identifier. -/
def requireMetadata (id : String) (cell : Cell) : Except RowFault Metadata := do
  match ← cell.requireJson "metadata" with
  | none => .ok []
  | some (.object members) => .ok members
  | some found => .error (.metadataNotObject id found)

def Record.ofCells : Row → Except RowFault Record
  | id :: space :: name :: metadata :: parents :: children :: _ => do
    let id ← id.requireText "id"
    let space ← space.requireText "namespace"
    let name ← name.requireText "name"
    let metadata ← requireMetadata id metadata
    let parents ← requireIds "parents" parents
    let children ← requireIds "children" children
    return { id, space, name, metadata, parents, children }
  | row => .error (.tooShort 6 row.length)

/-- The record of a row that was read for the sake of a query. -/
def Record.ofRow (context : String) (row : Row) : Except Failure Record :=
  (Record.ofCells row).mapError (.invalidRow context)

/-- The dataset of a row with all three columns.  What is no object counts as no metadata. -/
def DatasetRecord.ofCells : Row → Except RowFault DatasetRecord
  | space :: name :: metadata :: _ => do
    let space ← space.requireText "namespace"
    let name ← name.requireText "name"
    let metadata := match ← metadata.requireJson "metadata" with
      | some (.object members) => members
      | _ => []
    return { space, name, metadata }
  | row => .error (.tooShort 3 row.length)

/-- The dataset of a row that was read for the sake of a query. -/
def DatasetRecord.ofRow (context : String) (row : Row) : Except Failure DatasetRecord :=
  (DatasetRecord.ofCells row).mapError (.invalidRow context)

end CatalogQuery
