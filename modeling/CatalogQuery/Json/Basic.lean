/-
JSON values and their compact text.  An integer and a floating point number are
different values even where they are equal as numbers; members of an object keep
the order they are given in.
-/
import CatalogQuery.Binary64.Notation
import CatalogQuery.Dict

namespace CatalogQuery

/-- A number as a text distinguishes it: `1` is an integer, `1.0` is not. -/
inductive Json.Number
  | int (n : Int)
  | float (x : Binary64)
deriving DecidableEq, Inhabited

/-- A JSON value. -/
inductive Json
  | null
  | bool (b : Bool)
  | number (n : Json.Number)
  | string (s : String)
  | array (items : List Json)
  | object (members : List (String × Json))
deriving Inhabited

namespace Json

/-- The integer as a value. -/
def int (n : Int) : Json := .number (.int n)

/-- The floating point number as a value; what is not finite has no value. -/
def float (x : Binary64) : Json :=
  if x.isFinite then .number (.float x) else .null

def ofOption : Option String → Json
  | none => .null
  | some s => .string s

def Number.write : Number → String
  | .int n => toString n
  | .float x => if x.isFinite then Notation.encoded.write x else "null"

/-- A digit of a hexadecimal number below sixteen, in lower case. -/
def hexDigit (n : Nat) : Char :=
  Char.ofNat (if n < 10 then 48 + n else 87 + n)

/-- A character inside a string.  Quotes, backslashes and the control characters
below the space are escaped and nothing else is. -/
def escape (c : Char) : String :=
  if c = '"' then "\\\""
  else if c = '\\' then "\\\\"
  else if c = '\x08' then "\\b"
  else if c = '\x0c' then "\\f"
  else if c = '\n' then "\\n"
  else if c = '\r' then "\\r"
  else if c = '\t' then "\\t"
  else if c.toNat < 32 then
    String.ofList ['\\', 'u', '0', '0', hexDigit (c.toNat / 16), hexDigit (c.toNat % 16)]
  else String.singleton c

/-- A string in quotes. -/
def quote (s : String) : String :=
  "\"" ++ String.join (s.toList.map escape) ++ "\""

mutual

/-- The compact text of a value: no spaces, members in their order. -/
def write : Json → String
  | .null => "null"
  | .bool true => "true"
  | .bool false => "false"
  | .number n => n.write
  | .string s => quote s
  | .array items => "[" ++ writeItems items ++ "]"
  | .object members => "\x7b" ++ writeMembers members ++ "\x7d"

/-- The texts of values with commas between them. -/
def writeItems : List Json → String
  | [] => ""
  | [v] => v.write
  | v :: w :: rest => v.write ++ "," ++ writeItems (w :: rest)

/-- The texts of members with commas between them. -/
def writeMembers : List (String × Json) → String
  | [] => ""
  | [(k, v)] => quote k ++ ":" ++ v.write
  | (k, v) :: m :: rest => quote k ++ ":" ++ v.write ++ "," ++ writeMembers (m :: rest)

end

end Json

/-- The metadata of a file: field names in increasing order, each with a value. -/
abbrev Metadata := List (String × Json)

end CatalogQuery
