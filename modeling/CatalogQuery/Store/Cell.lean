/-
Cells of the rows that a store answers with.
-/
import CatalogQuery.Json.Basic
import CatalogQuery.Text.Quoted
import CatalogQuery.Word64

namespace CatalogQuery

/-- One cell of a row. -/
inductive Cell
  | null
  | integer (n : Int64)
  | real (x : Binary64)
  | text (s : String)
  | blob (bytes : List UInt8)
deriving DecidableEq, Inhabited

namespace Cell

def asText? : Cell → Option String
  | .text s => some s
  | _ => none

/-- The integer of an integer cell, or of a number cell that holds an integer; one
that is too large counts as the largest there is. -/
def asInteger? : Cell → Option Int64
  | .integer n => some n
  | .real x => x.toInt?.map clampToInt64
  | _ => none

def describe : Cell → String
  | .null => "Null"
  | .integer n => "Integer(" ++ toString n.toInt ++ ")"
  | .real x => "Real(" ++ Notation.plain.write x ++ ")"
  | .text s => "Text(" ++ Text.quoted s ++ ")"
  | .blob bytes => "Blob([" ++ ", ".intercalate (bytes.map fun b => toString b.toNat) ++ "])"

/-- The encoded form of a cell: its kind, and under it what it holds. -/
def encode : Cell → Json
  | .null => .string "Null"
  | .integer n => .object [("Integer", .int n.toInt)]
  | .real x => .object [("Real", .float x)]
  | .text s => .object [("Text", .string s)]
  | .blob bytes => .object [("Blob", .array (bytes.map fun b => .int b.toNat))]

end Cell

end CatalogQuery
