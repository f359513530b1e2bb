/-
Reading patterns.  The reader goes once through the pattern, with the groups that are
still open on a stack; each of its steps takes at least one character.  Only whether a
pattern is well formed and what it matches is found out, not where it is wrong.
-/
import CatalogQuery.Pattern.Bracket

namespace CatalogQuery.Pattern

/-- A piece of a pattern between two others: its expression, how deeply it is nested,
and whether a repetition may follow it. -/
structure Item where
  regex : Regex
  depth : Nat
  repeatable : Bool

/-- How deeply groups, classes and repetitions may be nested. -/
def nestingLimit : Nat := 250

/-- Joins the items of a branch, given from the last to the first. -/
def joinItems : List Item → Item
  | [] => ⟨.empty, 0, true⟩
  | [i] => i
  | i :: rest =>
    ⟨rest.foldl (fun r j => j.regex.andThen r) i.regex,
      rest.foldl (fun d j => max d j.depth) i.depth + 1, true⟩

/-- Joins alternatives, given from the last to the first. -/
def joinBranches : List Item → Item
  | [] => ⟨.empty, 0, true⟩
  | [i] => i
  | i :: rest =>
    ⟨rest.foldl (fun r j => .alt j.regex r) i.regex,
      rest.foldl (fun d j => max d j.depth) i.depth + 1, true⟩

/-- A group that is still open: the flags to go back to, and the branches and items
before it. -/
structure OpenGroup where
  flags : Flags
  branches : List Item
  items : List Item

/-- What has been read of a pattern. -/
structure Progress where
  flags : Flags
  branches : List Item
  items : List Item
  groups : List OpenGroup
  names : List (List Char)

namespace Progress

/-- Adds an item to the current branch. -/
def push (p : Progress) (i : Item) : Progress :=
  { p with items := i :: p.items }

/-- The item of everything since the last group was opened. -/
def inside (p : Progress) : Item :=
  joinBranches (joinItems p.items :: p.branches)

def openGroup (p : Progress) (flags : Flags) : Progress :=
  { p with
    flags := flags, branches := [], items := [],
    groups := ⟨p.flags, p.branches, p.items⟩ :: p.groups }

def closeGroup? (p : Progress) : Option Progress :=
  match p.groups with
  | [] => none
  | g :: rest =>
    let inside := p.inside
    some { p with
      flags := g.flags, branches := g.branches,
      items := ⟨inside.regex, inside.depth + 1, true⟩ :: g.items, groups := rest }

def repeatLast? (p : Progress) (min : Nat) (max : Option Nat) : Option Progress :=
  match p.items with
  | [] => none
  | i :: rest =>
    if i.repeatable then
      some { p with items := ⟨.rep i.regex min max, i.depth + 1, true⟩ :: rest }
    else none

end Progress

/-- Drops the question mark of a repetition that prefers fewer. -/
def dropLazy : List Char → List Char
  | '?' :: rest => rest
  | cs => cs

/-- Reads a repetition count after its opening brace: the bounds and what is left. -/
def counts? (flags : Flags) (cs : List Char) : Option ((Nat × Option Nat) × List Char) := do
  let limit := UInt32.size
  let (min, rest) := decimal flags (flags.skip cs)
  let min ← min
  if limit ≤ min then none
  else
    match rest with
    | '\x7d' :: rest => return ((min, some min), rest)
    | ',' :: rest =>
      match flags.skip rest with
      | '\x7d' :: rest => return ((min, none), rest)
      | cs =>
        let (max, rest) := decimal flags cs
        let max ← max
        match rest with
        | '\x7d' :: rest =>
          if min ≤ max ∧ max < limit then return ((min, some max), rest) else none
        | _ => none
    | _ => none

/-- Reads flags up to a colon or a closing parenthesis, which is kept.  No flag may be
given twice, and a minus must come once at most and not last. -/
def flags? (start : Flags) : Flags → List Char → List Char → Option (Flags × List Char)
  | _, _, [] => none
  | flags, seen, c :: rest =>
    if c = ':' ∨ c = ')' then
      if seen.head? = some '-' then none else some (flags, c :: rest)
    else if seen.contains c then none
    else if c = '-' then flags? start flags ('-' :: seen) rest
    else do
      let flags ← flags.set? c (!seen.contains '-')
      flags? start flags (c :: seen) rest

/-- Whether a character may stand in the name of a group. -/
def isNamePart (first : Bool) (c : Char) : Bool :=
  c = '_' || Unicode.Property.alphabetic.contains c.toNat ||
    (!first && (c = '.' || c = '[' || c = ']' || Unicode.Category.number.contains c.toNat))

/-- Opens a group whose name follows. -/
def openNamed? (p : Progress) (cs : List Char) : Option (Progress × List Char) :=
  let name := cs.takeWhile (· != '>')
  match name, cs.dropWhile (· != '>') with
  | first :: more, _ :: rest =>
    if isNamePart true first && more.all (isNamePart false) && !p.names.contains name then
      some ({ p.openGroup p.flags with names := name :: p.names }, rest)
    else none
  | _, _ => none

/-- Reads what follows an opening parenthesis: a name, flags for the group or for the
rest of the surrounding one, or nothing. -/
def group? (p : Progress) (cs : List Char) : Option (Progress × List Char) :=
  match p.flags.skip cs with
  | '?' :: '=' :: _ | '?' :: '!' :: _ | '?' :: '<' :: '=' :: _ | '?' :: '<' :: '!' :: _ => none
  | '?' :: 'P' :: '<' :: rest | '?' :: '<' :: rest => openNamed? p rest
  | '?' :: rest => do
    let (flags, after) ← flags? p.flags p.flags [] rest
    match after with
    | ':' :: rest => return (p.openGroup flags, rest)
    | _ :: after =>
      if rest.head? = some ')' then none
      else return ({ p with flags := flags }.push ⟨.empty, 0, false⟩, after)
    | [] => none
  | cs => some (p.openGroup p.flags, cs)

def Element.item? (flags : Flags) : Element → Option Item
  | .char c => some ⟨flags.literal c, 0, true⟩
  | .byte c =>
    if flags.unicode || c.toNat < 128 then some ⟨flags.literal c, 0, true⟩ else none
  | .set s => some ⟨.set s, 0, true⟩
  | .look l => some ⟨.look l, 0, true⟩

/-- Takes the next part of the pattern. -/
def step? (p : Progress) : List Char → Option (Progress × List Char)
  | [] => none
  | '(' :: rest => group? p rest
  | ')' :: rest => p.closeGroup?.map fun p => (p, rest)
  | '|' :: rest => some ({ p with branches := joinItems p.items :: p.branches, items := [] }, rest)
  | '[' :: rest => do
    let (inside, after) ← bracket? (rest.length + 1) p.flags rest
    return (p.push ⟨.set inside.set, inside.depth, true⟩, after)
  | '?' :: rest => (p.repeatLast? 0 (some 1)).map fun p => (p, dropLazy rest)
  | '*' :: rest => (p.repeatLast? 0 none).map fun p => (p, dropLazy rest)
  | '+' :: rest => (p.repeatLast? 1 none).map fun p => (p, dropLazy rest)
  | '\x7b' :: rest => do
    let ((min, max), after) ← counts? p.flags rest
    let repeated ← p.repeatLast? min max
    return (repeated, dropLazy (p.flags.skip after))
  | '.' :: rest => p.flags.dot?.map fun r => (p.push ⟨r, 0, true⟩, rest)
  | '^' :: rest => some (p.push ⟨p.flags.caret, 0, true⟩, rest)
  | '$' :: rest => some (p.push ⟨p.flags.dollar, 0, true⟩, rest)
  | '\\' :: rest => do
    let (e, after) ← escape? p.flags rest
    let i ← e.item? p.flags
    return (p.push i, after)
  | c :: rest => some (p.push ⟨p.flags.literal c, 0, true⟩, rest)

/-- Takes parts until the pattern is used up. -/
def parts? : Nat → Progress → List Char → Option Progress
  | 0, _, _ => none
  | steps + 1, p, cs =>
    match p.flags.skip cs with
    | [] => some p
    | cs => (step? p cs).bind fun (p, rest) => parts? steps p rest

/-- Reads a pattern as an expression, if it is well formed and neither too deeply
nested nor too large. -/
def parse? (ignoreCase : Bool) (source : String) : Option Regex := do
  let cs := source.toList
  let p ← parts? (cs.length + 1) ⟨{ ignoreCase }, [], [], [], []⟩ cs
  let whole := p.inside
  let fits := whole.depth ≤ nestingLimit ∧ whole.regex.weight ≤ Regex.weightLimit
  if p.groups.isEmpty ∧ fits then return whole.regex else none

end CatalogQuery.Pattern
