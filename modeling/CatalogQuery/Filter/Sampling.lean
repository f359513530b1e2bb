/-
Filters that keep a part of their input: every record at a distance, or a share that is
settled by the hashes of the identifiers.
-/
import CatalogQuery.Filter.Basic
import CatalogQuery.Hash.Xxh3

namespace CatalogQuery.Filter

/-- Keeps the records at the positions `offset`, `offset + n`, and so on.  Failures have
no position and pass through. -/
def atDistance (n offset : Nat) (records : RecordStream) : RecordStream :=
  records.filterItems
    (fun position item =>
      match item with
      | .ok _ => (position % n == offset, position + 1)
      | .error _ => (true, position))
    0

/-- Keeps one of every `n` records. -/
def everyNth : Filter := fun inputs args => .finish do
  let input ← singleInput "every_nth" inputs
  let n := ((args.int? 0 "n").map Int64.toInt).getD 0
  if n ≤ 0 then .error (.filter "every_nth needs a positive integer `n`")
  else
    let offset := ((args.int? 1 "i").map Int64.toInt).getD 0
    if 0 ≤ offset ∧ offset < n then .ok (atDistance n.toNat offset.toNat input.stream)
    else
      .error (.filter ("every_nth offset " ++ toString offset ++ " must be in 0.." ++
        toString n))

def zero : Binary64 := .ofInt 0

/-- The number one. -/
def one : Binary64 := .ofInt 1

/-- Whether a hash is among the given share of all hashes. -/
def inShare (fraction : Binary64) (hash : UInt64) : Bool :=
  (Binary64.quotient (.ofInt hash.toNat) (.ofInt maxUInt64)).isBelow fraction

/-- Keeps the records whose identifiers hash into a share. -/
def inSample (fraction : Binary64) (seed : UInt64) (records : RecordStream) : RecordStream :=
  records.filterIds fun id => inShare fraction (Xxh3.hash id.toUTF8.data seed)

/-- Keeps a share of the records that looks random and is the same each time. -/
def sample : Filter := fun inputs args => .finish do
  let input ← singleInput "sample" inputs
  match args.float? 0 "fraction" with
  | none => .error (.filter "sample needs a `fraction` between 0 and 1")
  | some fraction =>
    if zero.isAtMost fraction && fraction.isAtMost one then
      let seed := ((args.int? 1 "seed").map Int64.toUInt64).getD 0
      .ok (inSample fraction seed input.stream)
    else .error (.filter "sample needs a `fraction` between 0 and 1")

end CatalogQuery.Filter
