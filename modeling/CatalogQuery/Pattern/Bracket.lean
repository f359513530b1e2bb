/-
Classes in brackets: single characters, ranges, escapes, the named classes such as
`[:alpha:]`, classes inside classes, and the operators `&&`, `--` and `~~` between
them, which are taken from left to right.
-/
import CatalogQuery.Pattern.Escape

namespace CatalogQuery.Pattern

/-- An operator between two parts of a class. -/
inductive ClassOp
  | inter
  | diff
  | symmDiff

/-- The result of an operator; if case is ignored, that of the closed operands. -/
def ClassOp.apply (flags : Flags) (s t : CharSet) : ClassOp → CharSet
  | .inter => (flags.fold s).inter (flags.fold t)
  | .diff => (flags.fold s).diff (flags.fold t)
  | .symmDiff => (flags.fold s).symmDiff (flags.fold t)

/-- The classes that have names between colons. -/
def colonClass? (name : String) : Option CharSet :=
  match name with
  | "alnum" => some ⟨[(48, 57), (65, 90), (97, 122)]⟩
  | "alpha" => some ⟨[(65, 90), (97, 122)]⟩
  | "ascii" => some ⟨[(0, 127)]⟩
  | "blank" => some ⟨[(9, 9), (32, 32)]⟩
  | "cntrl" => some ⟨[(0, 31), (127, 127)]⟩
  | "digit" => some ⟨[(48, 57)]⟩
  | "graph" => some ⟨[(33, 126)]⟩
  | "lower" => some ⟨[(97, 122)]⟩
  | "print" => some ⟨[(32, 126)]⟩
  | "punct" => some ⟨[(33, 47), (58, 64), (91, 96), (123, 126)]⟩
  | "space" => some ⟨[(9, 13), (32, 32)]⟩
  | "upper" => some ⟨[(65, 90)]⟩
  | "word" => some Look.asciiWord
  | "xdigit" => some ⟨[(48, 57), (65, 70), (97, 102)]⟩
  | _ => none

/-- Reads a named class after its opening bracket, if there is one. -/
def colonClassAt? (flags : Flags) (cs : List Char) : Option (CharSet × List Char) :=
  match cs with
  | ':' :: rest =>
    let (negated, rest) := match rest with
      | '^' :: rest => (true, rest)
      | _ => (false, rest)
    match rest.dropWhile (· != ':') with
    | ':' :: ']' :: after => do
      let s ← colonClass? (String.ofList (rest.takeWhile (· != ':')))
      let s ← flags.negate? negated (flags.fold s)
      return (s, after)
    | _ => none
  | _ => none

/-- Reads one element of a class. -/
def classElement? (flags : Flags) : List Char → Option (Element × List Char)
  | [] => none
  | '\\' :: rest => escape? flags rest
  | c :: rest => some (.char c, rest)

def Element.set? (flags : Flags) : Element → Option CharSet
  | .char c => if flags.unicode || c.toNat < 128 then some (.single c.toNat) else none
  | .byte c => if flags.unicode || c.toNat < 128 then some (.single c.toNat) else none
  | .set s => some s
  | .look _ => none

/-- The character of an element that bounds a range. -/
def Element.bound? (flags : Flags) : Element → Option Nat
  | .char c | .byte c => if flags.unicode || c.toNat < 128 then some c.toNat else none
  | .set _ | .look _ => none

/-- Reads an element or a range of elements.  A hyphen before the closing bracket, and
one before another hyphen, does not make a range. -/
def classRange? (flags : Flags) (cs : List Char) : Option (CharSet × List Char) := do
  let (first, rest) ← classElement? flags cs
  let rest := flags.skip rest
  match rest with
  | [] => none
  | '-' :: more =>
    match flags.skip more with
    | [] => none
    | d :: after =>
      if d = ']' ∨ d = '-' then
        let s ← first.set? flags
        return (s, rest)
      else
        let (last, rest) ← classElement? flags (d :: after)
        let lo ← first.bound? flags
        let hi ← last.bound? flags
        if lo ≤ hi then return (⟨[(lo, hi)]⟩, rest) else none
  | _ =>
    let s ← first.set? flags
    return (s, rest)

/-- Takes the hyphens at the start of a class, which stand for themselves, and then a
closing bracket that is the first character of all. -/
def classStart (flags : Flags) (cs : List Char) : List (Nat × Nat) × List Char :=
  let hyphens := cs.takeWhile fun c => c == '-' || (flags.extended && isBlank c)
  let rest := flags.skip (cs.dropWhile fun c => c == '-' || (flags.extended && isBlank c))
  if hyphens.contains '-' then ((hyphens.filter (· == '-')).map fun _ => (45, 45), rest)
  else
    match rest with
    | ']' :: rest => ([(93, 93)], flags.skip rest)
    | _ => ([], rest)

/-- A class that has been read: its set and how deeply classes are nested in it. -/
structure Bracket where
  set : CharSet
  depth : Nat

/-- The part of a class since its last operator: the ranges in it, how many items they
come from, and how deeply classes are nested in those. -/
structure ClassPart where
  ranges : List (Nat × Nat)
  items : Nat
  depth : Nat

namespace ClassPart

def add (p : ClassPart) (s : CharSet) (depth : Nat) : ClassPart :=
  ⟨s.ranges ++ p.ranges, p.items + 1, max p.depth depth⟩

/-- The set of the items.  Several of them are one level deeper than a single one. -/
def close (p : ClassPart) : Bracket :=
  ⟨.ofRanges p.ranges, if p.items < 2 then p.depth else p.depth + 1⟩

/-- The set of the items and of what is before the last operator. -/
def closeAfter (flags : Flags) (p : ClassPart) : Option (Bracket × ClassOp) → Bracket
  | none => p.close
  | some (left, op) => ⟨op.apply flags left.set p.close.set, max left.depth p.close.depth + 1⟩

end ClassPart

mutual

/-- Reads a class after its opening bracket.  Every step takes a character, so as many
steps as there are characters are enough. -/
def bracket? : Nat → Flags → List Char → Option (Bracket × List Char)
  | 0, _, _ => none
  | steps + 1, flags, cs => do
    let cs := flags.skip cs
    let (negated, cs) := match cs with
      | '^' :: rest => (true, flags.skip rest)
      | _ => (false, cs)
    let (start, rest) := classStart flags cs
    let (inside, rest) ← classBody? steps flags none ⟨start, start.length, 0⟩ rest
    let s ← flags.negate? negated (flags.fold inside.set)
    return (⟨s, inside.depth + 1⟩, rest)

/-- Reads the rest of a class.  `left` is the operand before the last operator and
`part` what has been read since. -/
def classBody? : Nat → Flags → Option (Bracket × ClassOp) → ClassPart → List Char →
    Option (Bracket × List Char)
  | 0, _, _, _, _ => none
  | steps + 1, flags, left, part, cs =>
    let after (op : ClassOp) := some (part.closeAfter flags left, op)
    match flags.skip cs with
    | [] => none
    | '[' :: rest =>
      match colonClassAt? flags rest with
      | some (s, rest) => classBody? steps flags left (part.add s 0) rest
      | none => do
        let (inside, rest) ← bracket? steps flags rest
        classBody? steps flags left (part.add inside.set inside.depth) rest
    | ']' :: rest => some (part.closeAfter flags left, rest)
    | '&' :: '&' :: rest => classBody? steps flags (after .inter) ⟨[], 0, 0⟩ rest
    | '-' :: '-' :: rest => classBody? steps flags (after .diff) ⟨[], 0, 0⟩ rest
    | '~' :: '~' :: rest => classBody? steps flags (after .symmDiff) ⟨[], 0, 0⟩ rest
    | cs => do
      let (s, rest) ← classRange? flags cs
      classBody? steps flags left (part.add s 0) rest

end

end CatalogQuery.Pattern
