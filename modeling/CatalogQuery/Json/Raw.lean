/-
What a JSON text says before its values are used.  Brackets, commas and tokens are
in order, but a number outside the range of floating point and a string with half
of a surrogate pair are only marked, and nesting has no bound yet.  Those faults
count where a value is used and not where it is passed over, so `toJson?` and the
decoders of other types look for them.
-/
import CatalogQuery.Json.Basic

namespace CatalogQuery.Json

/-- A value of a well-formed text, members in text order with all repetitions. -/
inductive Raw
  | null
  | bool (b : Bool)
  /-- A number, or none where the text overflows the floating point range. -/
  | number (n : Option Number)
  /-- A string, or none where an escape is half of a surrogate pair. -/
  | string (s : Option String)
  | array (items : List Raw)
  | object (members : List (Option String × Raw))
deriving Inhabited

/-- How many arrays and objects may be open at once in a text whose value is used. -/
def depthLimit : Nat := 127

namespace Raw

/-- Names every key; none when a key is not a proper string. -/
def named? {α : Type} (members : List (Option String × α)) : Option (List (String × α)) :=
  members.mapM fun (key, value) => key.map fun k => (k, value)

/-- The value, if no more than `room` arrays and objects are nested in it and all its
numbers and strings are in order.  Members are put in key order and a repeated key
keeps its last value. -/
def toJson? : Nat → Raw → Option Json
  | _, .null => some .null
  | _, .bool b => some (.bool b)
  | _, .number n => n.map .number
  | _, .string s => s.map .string
  | room + 1, .array items => (items.mapM (toJson? room)).map .array
  | room + 1, .object members => do
    let members ← named? members
    let members ← members.mapM fun (k, v) => (toJson? room v).map fun v => (k, v)
    return .object (Assoc.ofList members)
  | 0, .array _ => none
  | 0, .object _ => none

def toMetadata? (room : Nat) (raw : Raw) : Option Metadata :=
  match raw.toJson? room with
  | some (.object members) => some members
  | _ => none

end Raw

end CatalogQuery.Json
