/-
The values that expressions have in a store, and what the operators of both dialects make
of them.  An operator that has no value for its operands raises an error, which is no value
at all here; a comparison with a missing value is neither true nor false.
-/
import CatalogQuery.Json.Reader
import CatalogQuery.Pattern.Basic
import CatalogQuery.Predicate.Basic
import CatalogQuery.Proofs.InlineFlag
import CatalogQuery.Proofs.Truth
import CatalogQuery.Sql.Basic
import CatalogQuery.Store.Cell

namespace CatalogQuery.Sql

/-- A JSON value together with the text that is stored for it. -/
structure Document where
  text : String
  value : Json
  reads : Json.read? text = some value

def Document.emptyArray : Document := ⟨"[]", .array [], rfl⟩

theorem read?_emptyObject : Json.read? "\x7b\x7d" = some (.object []) := rfl

def Document.emptyObject : Document := ⟨"\x7b\x7d", .object [], read?_emptyObject⟩

def Document.IsObject (d : Document) : Prop :=
  ∃ members, d.value = .object members

theorem Document.isObject_emptyObject : emptyObject.IsObject := ⟨[], rfl⟩

/-- A value. -/
inductive Value
  | null
  | truth (b : Bool)
  | number (n : Json.Number)
  | text (s : String)
  /-- A value of the binary JSON type. -/
  | json (v : Json)
  /-- A stored document. -/
  | document (d : Document)

namespace Value

def ofTruth : Truth → Value
  | .no => .truth false
  | .unknown => .null
  | .yes => .truth true

def int (n : Int) : Value := .number (.int n)

/-- The value as a condition; an integer is true unless it is zero. -/
def truth? : Value → Option Truth
  | .null => some .unknown
  | .truth b => some (.ofBool b)
  | .number (.int n) => some (.ofBool (n != 0))
  | .number (.float _) | .text _ | .json _ | .document _ => none

def isNull : Value → Bool
  | .null => true
  | _ => false

def json? : Value → Option Json
  | .json v => some v
  | .document d => some d.value
  | _ => none

/-- The cell that the value becomes in an answer. -/
def toCell : Value → Cell
  | .null => .null
  | .truth b => .integer (if b then 1 else 0)
  | .number (.int n) => .integer (Int64.ofInt n)
  | .number (.float x) => .real x
  | .text s => .text s
  | .json v => .text v.write
  | .document d => .text d.text

@[simp]
theorem truth?_ofTruth (t : Truth) : (ofTruth t).truth? = some t := by
  cases t <;> rfl

end Value

/-- Orders two numbers.  Integers of sixty-four bits are compared exactly and all others
as floating point numbers. -/
def orderNumbers? : Json.Number → Json.Number → Option Ordering
  | .int m, .int n =>
    if fitsInt64 m then some (compare m n)
    else (Binary64.ofInt m).compare? (.ofInt n)
  | .int m, .float y => (Binary64.ofInt m).compare? y
  | .float x, .int n => x.compare? (.ofInt n)
  | .float x, .float y => x.compare? y

/-- Compares two values.  Texts are ordered by their bytes.  A store that has one type for
all columns puts every number before every text; the other one does not compare them. -/
def compareValues (dialect : Dialect) (c : Comparison) : Value → Value → Option Value
  | .null, _ | _, .null => some .null
  | .number m, .number n =>
    match orderNumbers? m n with
    | some o => some (.truth (c.accepts o))
    | none => some (.truth false)
  | .text s, .text t => some (.truth (c.accepts (compare s t)))
  | .truth a, .truth b => some (.truth (c.accepts (compare a b)))
  | .number _, .text _ => if dialect = .sqlite then some (.truth (c.accepts .lt)) else none
  | .text _, .number _ => if dialect = .sqlite then some (.truth (c.accepts .gt)) else none
  | _, _ => none

/-- Whether a value is one of some others; it is unknown where it equals none of them and
one of them is missing. -/
def amongValues (dialect : Dialect) (v : Value) : List Value → Option Truth
  | [] => some .no
  | w :: rest => do
    let here ← (← compareValues dialect .eq v w).truth?
    let there ← amongValues dialect v rest
    return here.or there

/-- The name that a document column has for the type of a value. -/
def typeName : Json → String
  | .null => "null"
  | .bool true => "true"
  | .bool false => "false"
  | .number (.int _) => "integer"
  | .number (.float _) => "real"
  | .string _ => "text"
  | .array _ => "array"
  | .object _ => "object"

/-- The name that the binary JSON type has for the type of a value. -/
def binaryTypeName : Json → String
  | .null => "null"
  | .bool _ => "boolean"
  | .number _ => "number"
  | .string _ => "string"
  | .array _ => "array"
  | .object _ => "object"

/-- The value of an item of a document: truth values become numbers, and arrays and objects
their texts. -/
def extracted : Json → Value
  | .null => .null
  | .bool b => .int (if b then 1 else 0)
  | .number n => .number n
  | .string s => .text s
  | .array items => .text (Json.write (.array items))
  | .object members => .text (Json.write (.object members))

/-- The text of a value; `null` has none. -/
def plainText : Json → Value
  | .null => .null
  | .string s => .text s
  | v => .text v.write

/-- The item of an array, counted from zero or, if the position is negative, from the end.
What is no array has no items. -/
def itemOf? (i : Int) : Json → Option Json
  | .array items => if 0 ≤ i then items[i.toNat]? else items.reverse[(-i - 1).toNat]?
  | _ => none

/-- Whether an integer fits thirty-two bits with a sign.  Binary JSON has an operator for the
positions that do, and for no others. -/
def fitsInt32 (i : Int) : Bool := -2147483648 ≤ i && i ≤ 2147483647

/-- The member of an object.  What is no object has no members. -/
def memberOf? (key : String) : Json → Option Json
  | .object members => members.lookup key
  | _ => none

def PathStep.follow? : PathStep → Json → Option Json
  | .key k, v => memberOf? k v
  | .item i, v => itemOf? i v

def valueAt? (path : List PathStep) (v : Json) : Option Json :=
  path.foldlM (fun v step => step.follow? v) v

/-- Whether a key can be written between quotes in a path. -/
def PathStep.isQuotable : PathStep → Bool
  | .key k => !k.contains '"'
  | .item _ => true

/-- What a function of a document and a path makes of the value at the path.  Without a
document or without a value there is no result.  What is no document raises an error, and
so does a path whose text is not read as the path. -/
def atPath (path : List PathStep) (f : Json → Value) (document : Value) : Option Value :=
  if path.all PathStep.isQuotable then
    match document with
    | .null => some .null
    | document => document.json?.map fun v => (valueAt? path v).elim .null f
  else none

/-- The length of an array; everything else has none of its items. -/
def lengthOf : Json → Value
  | .array items => .int items.length
  | _ => .int 0

/-- What a partial function of a binary JSON value makes of it. -/
def onJson (f : Json → Option Value) : Value → Option Value
  | .null => some .null
  | v => v.json?.bind f

/-- A part of a binary JSON value, or no value. -/
def partOf (found : Option Json) : Option Value :=
  some (found.elim .null .json)

/-- Casts a binary JSON value.  A value of another type raises an error. -/
def castJson : CastType → Json → Option Value
  | .numeric, .number n => some (.number n)
  | .boolean, .bool b => some (.truth b)
  | _, _ => none

/-- The length of a binary JSON array.  What is no array raises an error. -/
def binaryLength : Json → Option Value
  | .array items => some (.int items.length)
  | _ => none

/-- The text that a pattern is given as where case cannot be ignored otherwise. -/
def flaggedSource (p : Pattern) : String :=
  if p.ignoreCase then "(?i)" ++ p.source else p.source

/-- The pattern operators of a store.  What they say of a pattern that the library accepts
is what the library says itself. -/
structure PatternOperators where
  regexp : (pattern text : String) → Bool
  matching : (ignoreCase : Bool) → (pattern text : String) → Bool
  regexp_eq : ∀ (p : Pattern) (text : String), regexp (flaggedSource p) text = p.isMatch text
  matching_eq : ∀ (p : Pattern) (text : String),
    matching p.ignoreCase p.source text = p.isMatch text

/-- Whether a text matches a pattern as it is written; only a flag that makes the pattern
too deeply nested is taken off. -/
def standardRegexp (pattern text : String) : Bool :=
  match Pattern.compile? false pattern with
  | some p => p.isMatch text
  | none =>
    match Pattern.compile? true (String.ofList (pattern.toList.drop 4)) with
    | some p => p.isMatch text
    | none => false

theorem standardRegexp_flaggedSource (p : Pattern) (text : String) :
    standardRegexp (flaggedSource p) text = p.isMatch text := by
  obtain ⟨q, hq, hregex⟩ := Pattern.exists_compile? p
  simp only [standardRegexp, flaggedSource]
  cases hcase : p.ignoreCase with
  | false =>
      rw [hcase] at hq
      simp [hq, Pattern.isMatch, hregex]
  | true =>
      rw [hcase] at hq
      have hparsed := p.parsed
      rw [hcase] at hparsed
      cases hflagged : Pattern.compile? false ("(?i)" ++ p.source) with
      | some r =>
          have hr := Pattern.parse?_flag hparsed (Pattern.compile?_eq_some hflagged)
          simp [Pattern.isMatch, hr, hflagged]
      | none => simp [hflagged, hq, Pattern.isMatch, hregex]

/-- Pattern operators that read patterns as the library does. -/
def PatternOperators.standard : PatternOperators where
  regexp := standardRegexp
  matching ignoreCase pattern text :=
    ((Pattern.compile? ignoreCase pattern).map (·.isMatch text)).getD false
  regexp_eq := standardRegexp_flaggedSource
  matching_eq := by
    intro p text
    obtain ⟨q, hq, hregex⟩ := Pattern.exists_compile? p
    simp [hq, Pattern.isMatch, hregex]

end CatalogQuery.Sql
