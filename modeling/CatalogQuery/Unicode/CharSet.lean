/-
Sets of characters as lists of code point ranges.  The ranges are inclusive, in
increasing order and neither overlap nor touch, so a set has one list.  Tables of
the character database are written as texts of ranges in hexadecimal.
-/

namespace CatalogQuery

/-- A set of code points. -/
structure CharSet where
  ranges : List (Nat × Nat)
deriving DecidableEq, Inhabited

namespace CharSet

/-- The largest code point. -/
def top : Nat := 0x10FFFF

/-- Whether a code point is in one of the ranges. -/
def contains (s : CharSet) (c : Nat) : Bool :=
  s.ranges.any fun (lo, hi) => lo ≤ c && c ≤ hi

/-- Joins ranges that overlap or touch, given by increasing start, to the range
`(lo, hi)` before them. -/
def mergeFrom (lo hi : Nat) : List (Nat × Nat) → List (Nat × Nat)
  | [] => [(lo, hi)]
  | (a, b) :: rest =>
    if a ≤ hi + 1 then mergeFrom lo (max hi b) rest else (lo, hi) :: mergeFrom a b rest

/-- The set of the code points in any of the ranges, which may come in any order. -/
def ofRanges (ranges : List (Nat × Nat)) : CharSet :=
  match ranges.mergeSort fun a b => a.1 ≤ b.1 with
  | [] => ⟨[]⟩
  | (lo, hi) :: rest => ⟨mergeFrom lo hi rest⟩

def single (c : Nat) : CharSet := ⟨[(c, c)]⟩

def union (s t : CharSet) : CharSet :=
  ofRanges (s.ranges ++ t.ranges)

/-- The gaps between ranges, from `start` up to `last`. -/
def gaps (start last : Nat) : List (Nat × Nat) → List (Nat × Nat)
  | [] => if start ≤ last then [(start, last)] else []
  | (lo, hi) :: rest =>
    if start < lo then (start, lo - 1) :: gaps (hi + 1) last rest else gaps (hi + 1) last rest

/-- The code points up to `last` that are not in the set. -/
def complementTo (last : Nat) (s : CharSet) : CharSet :=
  ⟨gaps 0 last s.ranges⟩

def complement (s : CharSet) : CharSet :=
  s.complementTo top

def inter (s t : CharSet) : CharSet :=
  (s.complement.union t.complement).complement

/-- The members of the first set that are not in the second. -/
def diff (s t : CharSet) : CharSet :=
  s.inter t.complement

def symmDiff (s t : CharSet) : CharSet :=
  (s.diff t).union (t.diff s)

/-- The value of a text of hexadecimal digits in upper case. -/
def readHex (text : String) : Nat :=
  text.toList.foldl
    (fun n c => n * 16 + (if c ≤ '9' then c.toNat - 48 else c.toNat - 55)) 0

/-- The words of a text, which stand between its spaces and line ends; `word` is what has
been read of the next one, backwards. -/
def wordsFrom (word : List Char) : List Char → List String
  | [] => if word.isEmpty then [] else [String.ofList word.reverse]
  | c :: rest =>
    if c = ' ' ∨ c = '\n' then
      if word.isEmpty then wordsFrom [] rest
      else String.ofList word.reverse :: wordsFrom [] rest
    else wordsFrom (c :: word) rest

def words (text : String) : List String := wordsFrom [] text.toList

/-- Reads ranges such as `41-5A 61 AA`. -/
def readRanges (text : String) : List (Nat × Nat) :=
  (words text).map fun part =>
    match part.splitOn "-" with
    | [lo, hi] => (readHex lo, readHex hi)
    | _ => (readHex part, readHex part)

/-- Reads the set of a table text, whose ranges are in increasing order. -/
def ofTable (text : String) : CharSet :=
  ⟨readRanges text⟩

end CharSet

end CatalogQuery
