/-
Taking values apart.  A structure is written as an object, whose unknown members are
passed over, or as an array of its fields in their order, of which the last ones may
be left out.  An alternative is written as an object with a single member, whose key
names it; one without content may also be written as its name alone.
-/
import CatalogQuery.Json.Raw
import CatalogQuery.Word64

namespace CatalogQuery.Json.Raw

def text? : Raw → Option String
  | .string s => s
  | _ => none

/-- The truth value. -/
def bool? : Raw → Option Bool
  | .bool b => some b
  | _ => none

/-- The integer, if it fits sixty-four signed bits. -/
def int64? : Raw → Option Int64
  | .number (some (.int n)) =>
    if fitsInt64 n then some (.ofInt n) else none
  | _ => none

/-- The integer, if it fits sixty-four unsigned bits. -/
def uint64? : Raw → Option UInt64
  | .number (some (.int n)) =>
    if fitsUInt64 n then some (.ofNat n.toNat) else none
  | _ => none

/-- What a value stands for where it may be left out by writing `null`. -/
def optional? {α : Type} (f : Raw → Option α) : Raw → Option (Option α)
  | .null => some none
  | raw => (f raw).map some

/-- The items of an array of texts, if an array may be opened here. -/
def texts? : Nat → Raw → Option (List String)
  | _ + 1, .array items => items.mapM text?
  | _, _ => none

/-- The value of a field, or what it is when it is left out. -/
def orElse? {α : Type} (f : Raw → Option α) (missing : α) : Option Raw → Option α
  | none => some missing
  | some raw => f raw

/-- The values of the named fields, each none if it is left out.  No field may be given
twice, and an array must not be longer than the list of names. -/
def fields? (names : List String) : Raw → Option (List (Option Raw))
  | .object members => do
    let members ← named? members
    names.mapM fun name =>
      match members.filter fun m => m.1 == name with
      | [] => some none
      | [(_, raw)] => some (some raw)
      | _ => none
  | .array items =>
    if items.length ≤ names.length then
      some (items.map some ++ List.replicate (names.length - items.length) none)
    else none
  | _ => none

/-- The name of an alternative and its content. -/
def tagged? : Raw → Option (String × Raw)
  | .object [(some name, content)] => some (name, content)
  | _ => none

/-- The name of an alternative without content. -/
def tag? (room : Nat) : Raw → Option String
  | .string s => s
  | .object [(some name, .null)] => if room = 0 then none else some name
  | _ => none

end CatalogQuery.Json.Raw
