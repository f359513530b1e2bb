/-
Predicates as JSON.  A predicate is an alternative named for its operator; a constant
is written as the plain value.  Decoders take the number of arrays and objects that
may still be opened.
-/
import CatalogQuery.Json.Fields
import CatalogQuery.Predicate.Basic

namespace CatalogQuery

open Json (Raw)

namespace Constant

def encode : Constant → Json
  | .bool b => .bool b
  | .int n => .int n.toInt
  | .float x => .float x
  | .text s => .string s

/-- Reads a constant.  An integer that does not fit sixty-four signed bits becomes a
floating point number. -/
def decode? : Raw → Option Constant
  | .bool b => some (.bool b)
  | .number (some (.int n)) =>
    if fitsInt64 n then some (.int (.ofInt n))
    else some (.float (.ofInt n))
  | .number (some (.float x)) => some (.float x)
  | .string (some s) => some (.text s)
  | _ => none

/-- Reads a list of constants, if an array may be opened here. -/
def decodeList? : Nat → Raw → Option (List Constant)
  | _ + 1, .array items => items.mapM decode?
  | _, _ => none

end Constant

namespace Accessor

def encode : Accessor → Json
  | .value => .string "value"
  | .any => .string "any"
  | .all => .string "all"
  | .index i => .object [("index", .int i.toInt)]
  | .key k => .object [("key", .string k)]
  | .length => .string "length"

/-- The accessor of a name, if it has no operand. -/
def ofName? : String → Option Accessor
  | "value" => some .value
  | "any" => some .any
  | "all" => some .all
  | "length" => some .length
  | _ => none

/-- Reads an accessor. -/
def decode? (room : Nat) (raw : Raw) : Option Accessor :=
  match raw.tag? room with
  | some name => ofName? name
  | none =>
    match room, raw.tagged? with
    | _ + 1, some ("index", content) => content.int64?.map .index
    | _ + 1, some ("key", content) => content.text?.map .key
    | _, _ => none

end Accessor

namespace Scalar

def encode (s : Scalar) : Json :=
  .object [("name", .string s.name), ("accessor", s.accessor.encode)]

/-- Reads a scalar; the accessor may be left out. -/
def decode? : Nat → Raw → Option Scalar
  | room + 1, raw => do
    let [name, accessor] ← raw.fields? ["name", "accessor"] | none
    let name ← (← name).text?
    let accessor ← Raw.orElse? (Accessor.decode? room) .value accessor
    return ⟨name, accessor⟩
  | 0, _ => none

end Scalar

namespace Operator

def name : Operator → String
  | .order .eq => "eq"
  | .order .ne => "ne"
  | .order .lt => "lt"
  | .order .le => "le"
  | .order .gt => "gt"
  | .order .ge => "ge"
  | .pattern false false => "match"
  | .pattern false true => "not_match"
  | .pattern true false => "match_ci"
  | .pattern true true => "not_match_ci"

def ofName? : String → Option Operator
  | "eq" => some (.order .eq)
  | "ne" => some (.order .ne)
  | "lt" => some (.order .lt)
  | "le" => some (.order .le)
  | "gt" => some (.order .gt)
  | "ge" => some (.order .ge)
  | "match" => some (.pattern false false)
  | "not_match" => some (.pattern false true)
  | "match_ci" => some (.pattern true false)
  | "not_match_ci" => some (.pattern true true)
  | _ => none

/-- Reads an operator. -/
def decode? (room : Nat) (raw : Raw) : Option Operator :=
  (raw.tag? room).bind ofName?

end Operator

namespace Leaf

def encodeRange (scalar : Scalar) (low high : Constant) : Json :=
  .object [("scalar", scalar.encode), ("low", low.encode), ("high", high.encode)]

def encodeSet (scalar : Scalar) (values : List Constant) : Json :=
  .object [("scalar", scalar.encode), ("values", .array (values.map Constant.encode))]

/-- The containment of a constant as JSON. -/
def encodeItem (name : String) (value : Constant) : Json :=
  .object [("name", .string name), ("value", value.encode)]

def encode : Leaf → Json
  | .compare scalar op value =>
    .object [("compare",
      .object [("scalar", scalar.encode), ("op", .string op.name), ("value", value.encode)])]
  | .inRange scalar low high => .object [("in_range", encodeRange scalar low high)]
  | .notInRange scalar low high => .object [("not_in_range", encodeRange scalar low high)]
  | .inSet scalar values => .object [("in_set", encodeSet scalar values)]
  | .notInSet scalar values => .object [("not_in_set", encodeSet scalar values)]
  | .present name => .object [("present", .object [("name", .string name)])]
  | .notPresent name => .object [("not_present", .object [("name", .string name)])]
  | .arrayContains name value => .object [("array_contains", encodeItem name value)]
  | .arrayNotContains name value => .object [("array_not_contains", encodeItem name value)]

def decodeRange? (room : Nat) (raw : Raw) : Option (Scalar × Constant × Constant) := do
  let [scalar, low, high] ← raw.fields? ["scalar", "low", "high"] | none
  let scalar ← Scalar.decode? room (← scalar)
  let low ← Constant.decode? (← low)
  let high ← Constant.decode? (← high)
  return (scalar, low, high)

def decodeSet? (room : Nat) (raw : Raw) : Option (Scalar × List Constant) := do
  let [scalar, values] ← raw.fields? ["scalar", "values"] | none
  let scalar ← Scalar.decode? room (← scalar)
  let values ← Constant.decodeList? room (← values)
  return (scalar, values)

/-- Reads a field name that is an operand of its own. -/
def decodeName? (raw : Raw) : Option String := do
  let [name] ← raw.fields? ["name"] | none
  (← name).text?

/-- Reads the operands of a containment. -/
def decodeItem? (raw : Raw) : Option (String × Constant) := do
  let [name, value] ← raw.fields? ["name", "value"] | none
  let name ← (← name).text?
  let value ← Constant.decode? (← value)
  return (name, value)

/-- Reads a leaf from the name of its operator and its operands. -/
def decode? (room : Nat) (name : String) (raw : Raw) : Option Leaf :=
  match name with
  | "compare" => do
    let [scalar, op, value] ← raw.fields? ["scalar", "op", "value"] | none
    let scalar ← Scalar.decode? room (← scalar)
    let op ← Operator.decode? room (← op)
    let value ← Constant.decode? (← value)
    return .compare scalar op value
  | "in_range" => (decodeRange? room raw).map fun (s, low, high) => .inRange s low high
  | "not_in_range" => (decodeRange? room raw).map fun (s, low, high) => .notInRange s low high
  | "in_set" => (decodeSet? room raw).map fun (s, values) => .inSet s values
  | "not_in_set" => (decodeSet? room raw).map fun (s, values) => .notInSet s values
  | "present" => (decodeName? raw).map .present
  | "not_present" => (decodeName? raw).map .notPresent
  | "array_contains" => (decodeItem? raw).map fun (name, value) => .arrayContains name value
  | "array_not_contains" =>
    (decodeItem? raw).map fun (name, value) => .arrayNotContains name value
  | _ => none

end Leaf

namespace Predicate

mutual

def encode : Predicate → Json
  | .and args => .object [("and", .array (encodeList args))]
  | .or args => .object [("or", .array (encodeList args))]
  | .not p => .object [("not", p.encode)]
  | .leaf l => l.encode

/-- Predicates as JSON. -/
def encodeList : List Predicate → List Json
  | [] => []
  | p :: rest => p.encode :: encodeList rest

end

/-- Reads a predicate. -/
def decode? : Nat → Raw → Option Predicate
  | 0, _ => none
  | room + 1, raw => do
    let (name, content) ← raw.tagged?
    if name = "not" then (decode? room content).map .not
    else
      match room with
      | 0 => none
      | inner + 1 =>
        match name, content with
        | "and", .array items => (items.mapM (decode? inner)).map .and
        | "or", .array items => (items.mapM (decode? inner)).map .or
        | _, content => (Leaf.decode? inner name content).map .leaf

end Predicate

end CatalogQuery
