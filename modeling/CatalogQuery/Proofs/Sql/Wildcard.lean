/-
The two wildcard languages of the stores.  A pattern of either one is read as a row of
parts first: any text, any character, a given character or a class of them.
-/
import Mathlib.Data.List.Basic

namespace CatalogQuery.Sql

/-- A part of a wildcard pattern. -/
inductive WildcardPart
  | anyText
  | anyChar
  | char (c : Char)
  | oneOf (negated : Bool) (ranges : List (Char × Char))
  /-- The end of a pattern that breaks off, which nothing matches. -/
  | broken
deriving DecidableEq

namespace WildcardPart

/-- Whether the part is a single character of this kind. -/
def accepts : WildcardPart → Char → Bool
  | .anyChar, _ => true
  | .char c, d => c == d
  | .oneOf negated ranges, d => (ranges.any fun r => r.1 ≤ d && d ≤ r.2) != negated
  | .anyText, _ | .broken, _ => false

def allMatch : List WildcardPart → List Char → Bool
  | [], text => text.isEmpty
  | .anyText :: parts, text => text.tails.any (allMatch parts)
  | part :: parts, text =>
    match text with
    | [] => false
    | c :: rest => part.accepts c && allMatch parts rest

end WildcardPart

/-- The parts of a pattern in which `%` stands for any text and `_` for any character, and
a backslash takes the meaning from the character after it. -/
def likeParts : List Char → List WildcardPart
  | [] => []
  | '%' :: rest => .anyText :: likeParts rest
  | '_' :: rest => .anyChar :: likeParts rest
  | '\\' :: c :: rest => .char c :: likeParts rest
  | ['\\'] => [.broken]
  | c :: rest => .char c :: likeParts rest

/-- Where the next character of a pattern with brackets stands. -/
inductive BracketState
  | outside
  /-- After an opening bracket, and perhaps after a caret. -/
  | opened (negated : Bool)
  /-- Inside of a class, after its ranges so far.  `last` may still begin a range, and has
  begun one if a hyphen followed it. -/
  | inside (negated : Bool) (ranges : List (Char × Char)) (last : Option Char) (hyphen : Bool)
deriving DecidableEq

namespace BracketState

/-- Takes a character inside of a class. -/
def stepInside (negated : Bool) (ranges : List (Char × Char)) (last : Option Char)
    (hyphen : Bool) (c : Char) : Option WildcardPart × BracketState :=
  if c = ']' then
    (some (.oneOf negated (if hyphen then ('-', '-') :: ranges else ranges)), .outside)
  else
    match last, hyphen with
    | some lo, true => (none, .inside negated ((lo, c) :: ranges) none false)
    | some lo, false =>
      if c = '-' then (none, .inside negated ranges (some lo) true)
      else (none, .inside negated ((c, c) :: ranges) (some c) false)
    | none, _ => (none, .inside negated ((c, c) :: ranges) (some c) false)

/-- Takes a character: the part that it completes, and where the next one stands. -/
def step (c : Char) : BracketState → Option WildcardPart × BracketState
  | .outside =>
    if c = '*' then (some .anyText, .outside)
    else if c = '?' then (some .anyChar, .outside)
    else if c = '[' then (none, .opened false)
    else (some (.char c), .outside)
  | .opened negated =>
    if c = '^' ∧ !negated then (none, .opened true)
    else if c = ']' then (none, .inside negated [(']', ']')] none false)
    else stepInside negated [] none false c
  | .inside negated ranges last hyphen => stepInside negated ranges last hyphen c

end BracketState

/-- The parts of a pattern in which `*` stands for any text, `?` for any character and
brackets for one of the characters in them. -/
def globParts (state : BracketState) : List Char → List WildcardPart
  | [] => if state = .outside then [] else [.broken]
  | c :: rest =>
    let (part, next) := state.step c
    part.toList ++ globParts next rest

/-- Whether a text matches a pattern of `%` and `_`. -/
def likeMatches (pattern text : String) : Bool :=
  WildcardPart.allMatch (likeParts pattern.toList) text.toList

/-- Whether a text matches a pattern of `*`, `?` and brackets. -/
def globMatches (pattern text : String) : Bool :=
  WildcardPart.allMatch (globParts .outside pattern.toList) text.toList

example : globMatches "r[a-c^]*" "rc.raw" = true := by decide

example : likeMatches "100\\%_" "100%!" = true := by decide

end CatalogQuery.Sql
