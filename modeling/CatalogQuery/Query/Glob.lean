/-
Globs, the patterns that names of stored queries are matched with.  A glob speaks about
the bytes of a name: `?` is any byte and `*` any bytes, the slash included.  Between
slashes `**` also stands for no directory at all.  Braces hold alternatives, brackets
sets of characters, and a backslash takes the meaning from the character after it.
-/
import CatalogQuery.Pattern.Regex

namespace CatalogQuery

namespace Glob

/-- A part of a glob. -/
inductive Token
  | literal (c : Char)
  | any
  | anyRun
  /-- `**` at the start and the slash after it. -/
  | anyStart
  /-- `**` at the end and the slash before it. -/
  | anyEnd
  /-- `**` and the slashes on either side. -/
  | anyMiddle
  | set (negated : Bool) (ranges : List (Char × Char))
  | alternatives (branches : List (List Token))
deriving Inhabited

structure OpenSet where
  negated : Bool := false
  /-- No character was read, not even one that negates the set. -/
  fresh : Bool := true
  /-- The ranges, the last one first. -/
  ranges : List (Char × Char) := []
  /-- The last range waits for its end. -/
  inRange : Bool := false

/-- What the next character belongs to. -/
inductive Mode
  | plain
  /-- It was preceded by a backslash. -/
  | escaped
  /-- It was preceded by a star, and that by the given character. -/
  | star (before : Option Char)
  /-- It was preceded by two stars, and those by the given character. -/
  | stars (before : Option Char)
  | set (s : OpenSet)

/-- What has been read of a glob. -/
structure State where
  mode : Mode := .plain
  /-- The character before the next one. -/
  before : Option Char := none
  /-- The tokens of the innermost branch, the last one first. -/
  tokens : List Token := []
  /-- For each open brace, the innermost first, its finished branches and the tokens in
  front of it. -/
  groups : List (List (List Token) × List Token) := []

namespace State

/-- Adds a token. -/
def push (s : State) (t : Token) : State := { s with tokens := t :: s.tokens }

/-- Adds two stars that stand for any bytes. -/
def pushRuns (s : State) : State := (s.push .anyRun).push .anyRun

/-- Whether two stars that follow the character `before` may stand for directories. -/
def mayRecur (s : State) (before : Option Char) : Bool :=
  before == some '/' ||
    (!s.groups.isEmpty && (before == some ',' || before == some '{'))

/-- Replaces the slash in front of two stars by a token for both. -/
def recur (s : State) (t : Token) : State :=
  match s.tokens with
  | .anyStart :: _ | .anyEnd :: _ => s
  | _ :: rest => { s with tokens := t :: rest }
  | [] => s.push t

/-- Takes a character into the open set, or closes it. -/
def takeIntoSet (s : State) (o : OpenSet) (c : Char) : Option State :=
  let first := o.ranges.isEmpty
  if o.fresh && (c == '!' || c == '^') then
    some { s with mode := .set { o with negated := true, fresh := false } }
  else if c = ']' ∧ !first then
    let ranges := if o.inRange then ('-', '-') :: o.ranges else o.ranges
    some { s.push (.set o.negated ranges.reverse) with mode := .plain }
  else if o.inRange then
    match o.ranges with
    | (lo, _) :: rest =>
      if c < lo then none
      else
        some { s with mode := .set { o with ranges := (lo, c) :: rest, inRange := false } }
    | [] => none
  else if c = '-' ∧ !first then some { s with mode := .set { o with inRange := true } }
  else some { s with mode := .set { o with fresh := false, ranges := (c, c) :: o.ranges } }

/-- Takes a character outside of sets. -/
def takePlain (s : State) (c : Char) : Option State :=
  let s := { s with mode := .plain }
  if c = '?' then some (s.push .any)
  else if c = '*' then some { s with mode := .star s.before }
  else if c = '[' then some { s with mode := .set {} }
  else if c = '\\' then some { s with mode := .escaped }
  else if c = '{' then some { s with tokens := [], groups := ([], s.tokens) :: s.groups }
  else if c = '}' then
    match s.groups with
    | [] => none
    | (branches, outer) :: groups =>
      let branches := (s.tokens.reverse :: branches).reverse
      some { s with tokens := .alternatives branches :: outer, groups }
  else if c = ',' then
    match s.groups with
    | [] => some (s.push (.literal ','))
    | (branches, outer) :: groups =>
      some { s with tokens := [], groups := (s.tokens.reverse :: branches, outer) :: groups }
  else some (s.push (.literal c))

def takeAfterStars (s : State) (before : Option Char) (c : Char) : Option State :=
  let plain := { s with mode := .plain }
  if s.tokens.isEmpty then
    if c = '/' then some (plain.push .anyStart) else s.pushRuns.takePlain c
  else if !s.mayRecur before then s.pushRuns.takePlain c
  else if c = '/' then some (plain.recur .anyMiddle)
  else if !s.groups.isEmpty && (c == ',' || c == '}') then (s.recur .anyEnd).takePlain c
  else s.pushRuns.takePlain c

/-- Takes a character. -/
def step? (s : State) (c : Char) : Option State :=
  let next := match s.mode with
    | .plain => s.takePlain c
    | .escaped => some { s.push (.literal c) with mode := .plain }
    | .star before =>
      if c = '*' then some { s with mode := .stars before }
      else (s.push .anyRun).takePlain c
    | .stars before => s.takeAfterStars before c
    | .set o => s.takeIntoSet o c
  next.map fun s => { s with before := some c }

/-- The tokens of the glob, if it may end here. -/
def finish? (s : State) : Option (List Token) :=
  if !s.groups.isEmpty then none
  else
    match s.mode with
    | .plain => some s.tokens.reverse
    | .star _ => some (s.push .anyRun).tokens.reverse
    | .stars before =>
      let s :=
        if s.tokens.isEmpty then s.push .anyStart
        else if s.mayRecur before then s.recur .anyEnd
        else s.pushRuns
      some s.tokens.reverse
    | .escaped | .set _ => none

end State

/-- The tokens of a glob, if it is well formed. -/
def parse? (glob : String) : Option (List Token) :=
  (glob.toList.foldlM State.step? {}).bind State.finish?

def bytesOf (c : Char) : List Nat :=
  (String.singleton c).toUTF8.toList.map UInt8.toNat

def anyByte : CharSet := ⟨[(0, 255)]⟩

def byte (b : Nat) : Regex := .set (.single b)

def slash : Regex := byte '/'.toNat

def anyBytes : Regex := .rep (.set anyByte) 0 none

/-- The ranges of bytes that a range of characters adds to a set.  Bytes of a character
count one by one, so only the last one of the first character and the first one of the
last character bound a range. -/
def byteRanges (range : Char × Char) : List (Nat × Nat) :=
  let single := fun b : Nat => (b, b)
  if range.1 = range.2 then (bytesOf range.1).map single
  else
    match (bytesOf range.1).reverse, bytesOf range.2 with
    | lo :: low, hi :: high => low.map single ++ [(lo, hi)] ++ high.map single
    | _, _ => []

def bytesIn (negated : Bool) (ranges : List (Char × Char)) : CharSet :=
  let s := CharSet.ofRanges (ranges.flatMap byteRanges)
  if negated then s.complementTo 255 else s

mutual

/-- The expression of a token; none if the token has nothing to match. -/
def Token.regex? : Token → Option Regex
  | .literal c => some ((bytesOf c).foldr (fun b r => (byte b).andThen r) .empty)
  | .any => some (.set anyByte)
  | .anyRun => some anyBytes
  | .anyStart => some (.alt (.rep slash 0 (some 1)) (.cat anyBytes slash))
  | .anyEnd => some (.cat slash anyBytes)
  | .anyMiddle => some (.alt slash (.cat slash (.cat anyBytes slash)))
  | .set negated ranges => some (.set (bytesIn negated ranges))
  | .alternatives branches => branchesRegex? branches

def tokensRegex? : List Token → Option Regex
  | [] => none
  | t :: rest =>
    match t.regex?, tokensRegex? rest with
    | some r, some s => some (.cat r s)
    | some r, none => some r
    | none, s => s

/-- The expression of alternatives; those that have nothing to match do not count. -/
def branchesRegex? : List (List Token) → Option Regex
  | [] => none
  | branch :: rest =>
    match tokensRegex? branch, branchesRegex? rest with
    | some r, some s => some (.alt r s)
    | some r, none => some r
    | none, s => s

end

def regexOf (tokens : List Token) : Regex :=
  let inner := match tokens with
    | [.anyStart] => anyBytes
    | tokens => (tokensRegex? tokens).getD .empty
  .cat (.look .textStart) (.cat inner (.look .textEnd))

end Glob

structure Glob where
  regex : Regex

namespace Glob

/-- Reads a glob, if it is well formed. -/
def compile? (glob : String) : Option Glob :=
  (parse? glob).map fun tokens => ⟨regexOf tokens⟩

def isMatch (g : Glob) (name : String) : Bool :=
  g.regex.isMatch (String.ofList (name.toUTF8.toList.map fun b => Char.ofNat b.toNat))

end Glob

end CatalogQuery
