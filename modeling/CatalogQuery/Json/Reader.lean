/-
Reading JSON texts.  The reader takes one character at a time.  Its state is what
it expects next, together with the arrays and objects that are still open, so
reading is a fold over the characters and ends with them, however deeply the text
is nested.

Texts are strict: no leading zeros, no raw control characters in strings, no commas
before a closing bracket, and nothing but blanks around the value.
-/
import CatalogQuery.Json.Raw
import CatalogQuery.Word64

namespace CatalogQuery.Json

/-- A number under way, `± coefficient * 10 ^ (± exponent - places)`. -/
structure Numeral where
  negative : Bool
  /-- Neither a point nor an exponent has been read. -/
  whole : Bool
  coefficient : Nat
  places : Nat
  exponentNegative : Bool
  exponent : Nat
deriving DecidableEq

/-- How far into a number the reader is. -/
inductive Phase
  | sign
  | zero
  | digits
  | point
  | fraction
  | mark
  | markSign
  | exponent
deriving DecidableEq

/-- Whether a number may end in this phase. -/
def Phase.mayEnd : Phase → Bool
  | .zero | .digits | .fraction | .exponent => true
  | .sign | .point | .mark | .markSign => false

def digit? (c : Char) : Option Nat :=
  if '0' ≤ c ∧ c ≤ '9' then some (c.toNat - 48) else none

namespace Numeral

/-- A number before its first digit. -/
def start (negative : Bool) : Numeral := ⟨negative, true, 0, 0, false, 0⟩

/-- Adds a digit before the point. -/
def pushDigit (n : Numeral) (d : Nat) : Numeral :=
  { n with coefficient := n.coefficient * 10 + d }

/-- Adds a digit after the point. -/
def pushPlace (n : Numeral) (d : Nat) : Numeral :=
  { n with coefficient := n.coefficient * 10 + d, places := n.places + 1 }

def pushExponent (n : Numeral) (d : Nat) : Numeral :=
  { n with exponent := n.exponent * 10 + d }

/-- The number with one more character, if the character belongs to it. -/
def extend? (n : Numeral) (phase : Phase) (c : Char) : Option (Phase × Numeral) :=
  match phase, digit? c with
  | .sign, some 0 => some (.zero, n)
  | .sign, some d => some (.digits, n.pushDigit d)
  | .digits, some d => some (.digits, n.pushDigit d)
  | .point, some d | .fraction, some d => some (.fraction, n.pushPlace d)
  | .mark, some d | .markSign, some d | .exponent, some d =>
    some (.exponent, n.pushExponent d)
  | .zero, none | .digits, none =>
    if c = '.' then some (.point, { n with whole := false })
    else if c = 'e' ∨ c = 'E' then some (.mark, { n with whole := false })
    else none
  | .fraction, none => if c = 'e' ∨ c = 'E' then some (.mark, n) else none
  | .mark, none =>
    if c = '+' then some (.markSign, n)
    else if c = '-' then some (.markSign, { n with exponentNegative := true })
    else none
  | .zero, some _ | .sign, none | .point, none | .markSign, none | .exponent, none => none

/-- The integer that is read when there is neither point nor exponent. -/
def integer (n : Numeral) : Int :=
  if n.negative then -(n.coefficient : Int) else n.coefficient

def decimal (n : Numeral) : Decimal :=
  let exponent : Int := if n.exponentNegative then -(n.exponent : Int) else n.exponent
  ⟨n.negative, n.coefficient, exponent - n.places⟩

/-- The number.  It is an integer when it is written as one, is not a negative zero
and fits sixty-four bits with or without a sign; else it is the nearest floating
point number, if that is finite. -/
def number? (n : Numeral) : Option Number :=
  let fits := fitsInt64 n.integer || fitsUInt64 n.integer
  if n.whole ∧ ¬(n.negative ∧ n.coefficient = 0) ∧ fits then some (.int n.integer)
  else (Binary64.ofDecimal? n.decimal).map .float

end Numeral

/-- Joins the code values of a string, escaped surrogates in pairs; none when one of
them stands alone. -/
def ofCodes? : List Nat → Option (List Char)
  | [] => some []
  | [c] => if 0xD800 ≤ c ∧ c < 0xE000 then none else some [Char.ofNat c]
  | c :: d :: rest =>
    if 0xD800 ≤ c ∧ c < 0xDC00 then
      if 0xDC00 ≤ d ∧ d < 0xE000 then
        (ofCodes? rest).map (Char.ofNat (0x10000 + (c - 0xD800) * 0x400 + (d - 0xDC00)) :: ·)
      else none
    else if 0xDC00 ≤ c ∧ c < 0xE000 then none
    else (ofCodes? (d :: rest)).map (Char.ofNat c :: ·)

/-- The value of a hexadecimal digit in either case. -/
def hexValue? (c : Char) : Option Nat :=
  if '0' ≤ c ∧ c ≤ '9' then some (c.toNat - 48)
  else if 'a' ≤ c ∧ c ≤ 'f' then some (c.toNat - 87)
  else if 'A' ≤ c ∧ c ≤ 'F' then some (c.toNat - 55)
  else none

/-- The code value of an escape of one character. -/
def unescape? (c : Char) : Option Nat :=
  if c = '"' ∨ c = '\\' ∨ c = '/' then some c.toNat
  else if c = 'b' then some 8
  else if c = 'f' then some 12
  else if c = 'n' then some 10
  else if c = 'r' then some 13
  else if c = 't' then some 9
  else none

/-- An array or object that is still open, with what it holds so far from the last
to the first. -/
inductive Frame
  | array (items : List Raw)
  | object (members : List (Option String × Raw)) (key : Option String)

/-- What a string is read for: a value, or the next key of an object. -/
inductive Target
  | value (open_ : List Frame)
  | key (members : List (Option String × Raw)) (open_ : List Frame)

/-- What the reader expects next. -/
inductive State
  /-- A value. -/
  | value (open_ : List Frame)
  /-- The first item of an array, or its end. -/
  | firstItem (open_ : List Frame)
  /-- A comma or the end of an array. -/
  | nextItem (items : List Raw) (open_ : List Frame)
  /-- The first key of an object, or its end. -/
  | firstKey (open_ : List Frame)
  /-- A key. -/
  | key (members : List (Option String × Raw)) (open_ : List Frame)
  /-- The colon after a key. -/
  | colon (members : List (Option String × Raw)) (key : Option String) (open_ : List Frame)
  /-- A comma or the end of an object. -/
  | nextMember (members : List (Option String × Raw)) (open_ : List Frame)
  /-- The rest of a number. -/
  | numeral (phase : Phase) (n : Numeral) (open_ : List Frame)
  /-- The rest of a word that stands for a value. -/
  | word (rest : List Char) (v : Raw) (open_ : List Frame)
  /-- The rest of a string, its code values so far from the last to the first. -/
  | string (codes : List Nat) (target : Target)
  /-- What follows a backslash. -/
  | escape (codes : List Nat) (target : Target)
  /-- So many more hexadecimal digits of an escape. -/
  | hex (missing high : Nat) (codes : List Nat) (target : Target)
  /-- Nothing but blanks. -/
  | ended (v : Raw)

namespace State

/-- The state after a value is complete. -/
def completed (v : Raw) : List Frame → State
  | [] => .ended v
  | .array items :: rest => .nextItem (v :: items) rest
  | .object members name :: rest => .nextMember ((name, v) :: members) rest

/-- The state after the closing quote of a string. -/
def closed (codes : List Nat) : Target → State
  | .value open_ => completed (.string ((ofCodes? codes.reverse).map String.ofList)) open_
  | .key members open_ => .colon members ((ofCodes? codes.reverse).map String.ofList) open_

/-- Starts a value with its first character. -/
def begin? (c : Char) (open_ : List Frame) : Option State :=
  if c = '\x7b' then some (.firstKey open_)
  else if c = '[' then some (.firstItem open_)
  else if c = '"' then some (.string [] (.value open_))
  else if c = 't' then some (.word ['r', 'u', 'e'] (.bool true) open_)
  else if c = 'f' then some (.word ['a', 'l', 's', 'e'] (.bool false) open_)
  else if c = 'n' then some (.word ['u', 'l', 'l'] .null open_)
  else if c = '-' then some (.numeral .sign (.start true) open_)
  else ((Numeral.start false).extend? .sign c).map fun (phase, n) => .numeral phase n open_

/-- Whether a character may stand between tokens. -/
def isBlank (c : Char) : Bool :=
  c = ' ' || c = '\n' || c = '\t' || c = '\r'

/-- Takes a character between tokens. -/
def between? (s : State) (c : Char) : Option State :=
  if isBlank c then
    match s with
    | .value _ | .firstItem _ | .nextItem _ _ | .firstKey _ | .key _ _ | .colon _ _ _
    | .nextMember _ _ | .ended _ => some s
    | _ => none
  else
    match s with
    | .value open_ => begin? c open_
    | .firstItem open_ =>
      if c = ']' then some (completed (.array []) open_) else begin? c (.array [] :: open_)
    | .nextItem items open_ =>
      if c = ',' then some (.value (.array items :: open_))
      else if c = ']' then some (completed (.array items.reverse) open_)
      else none
    | .firstKey open_ =>
      if c = '"' then some (.string [] (.key [] open_))
      else if c = '\x7d' then some (completed (.object []) open_)
      else none
    | .key members open_ => if c = '"' then some (.string [] (.key members open_)) else none
    | .colon members name open_ =>
      if c = ':' then some (.value (.object members name :: open_)) else none
    | .nextMember members open_ =>
      if c = ',' then some (.key members open_)
      else if c = '\x7d' then some (completed (.object members.reverse) open_)
      else none
    | _ => none

/-- Takes one character.  A character that does not belong to a number ends it and
counts as the next one. -/
def step? (s : State) (c : Char) : Option State :=
  match s with
  | .numeral phase n open_ =>
    match n.extend? phase c with
    | some (phase, n) => some (.numeral phase n open_)
    | none => if phase.mayEnd then (completed (.number n.number?) open_).between? c else none
  | .word [] _ _ => none
  | .word (d :: rest) v open_ =>
    if c ≠ d then none
    else if rest.isEmpty then some (completed v open_)
    else some (.word rest v open_)
  | .string codes target =>
    if c = '"' then some (closed codes target)
    else if c = '\\' then some (.escape codes target)
    else if c.toNat < 32 then none
    else some (.string (c.toNat :: codes) target)
  | .escape codes target =>
    if c = 'u' then some (.hex 4 0 codes target)
    else (unescape? c).map fun code => .string (code :: codes) target
  | .hex missing high codes target =>
    (hexValue? c).map fun d =>
      if missing ≤ 1 then .string ((high * 16 + d) :: codes) target
      else .hex (missing - 1) (high * 16 + d) codes target
  | _ => s.between? c

/-- The value, if the text may end here. -/
def finish? : State → Option Raw
  | .ended v => some v
  | .numeral phase n [] => if phase.mayEnd then some (.number n.number?) else none
  | _ => none

end State

/-- Reads a text as one value. -/
def Raw.read? (text : String) : Option Raw :=
  (text.toList.foldlM State.step? (.value [])).bind State.finish?

/-- Reads a text as one value, every part of which is used. -/
def read? (text : String) : Option Json :=
  (Raw.read? text).bind (Raw.toJson? depthLimit)

end CatalogQuery.Json
