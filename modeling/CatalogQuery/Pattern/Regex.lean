/-
Regular expressions over characters and the search for them in a text.  A search
keeps the expressions that the rest of the text still has to match and replaces each
by its derivatives, one character at a time, so its work is bounded by the text and
the expression and it never goes back.  An assertion looks at the characters on
either side of a place, which is why derivatives and empty matches take them along.
-/
import CatalogQuery.Unicode.Property

namespace CatalogQuery

/-- What an assertion asks of a place in a text. -/
inductive Look
  | textStart
  | textEnd
  | lineStart
  | lineEnd
  /-- The line bounds that take a carriage return and a line feed as one break. -/
  | breakStart
  | breakEnd
  | wordBoundary (unicode : Bool)
  | notWordBoundary (unicode : Bool)
  | wordStart (unicode : Bool)
  | wordEnd (unicode : Bool)
  | wordStartHalf (unicode : Bool)
  | wordEndHalf (unicode : Bool)
deriving DecidableEq

/-- A regular expression. -/
inductive Regex
  | empty
  | set (s : CharSet)
  | look (l : Look)
  | cat (r s : Regex)
  | alt (r s : Regex)
  /-- At least `min` and, if given, at most `max` repetitions. -/
  | rep (r : Regex) (min : Nat) (max : Option Nat)
deriving DecidableEq

namespace Look

/-- The letters, digits and the underscore of the basic alphabet. -/
def asciiWord : CharSet :=
  ⟨[(48, 57), (65, 90), (95, 95), (97, 122)]⟩

/-- Whether there is a character here and it belongs to words. -/
def isWord (unicode : Bool) (c : Option Char) : Bool :=
  match c with
  | none => false
  | some c => (if unicode then Unicode.Property.word else asciiWord).contains c.toNat

/-- Whether the assertion holds between two characters of the text, none being the
start or the end of it. -/
def holds (prev next : Option Char) : Look → Bool
  | .textStart => prev.isNone
  | .textEnd => next.isNone
  | .lineStart => prev.isNone || prev == some '\n'
  | .lineEnd => next.isNone || next == some '\n'
  | .breakStart =>
    prev.isNone || prev == some '\n' || (prev == some '\r' && next != some '\n')
  | .breakEnd =>
    next.isNone || next == some '\r' || (next == some '\n' && prev != some '\r')
  | .wordBoundary u => isWord u prev != isWord u next
  | .notWordBoundary u => isWord u prev == isWord u next
  | .wordStart u => !isWord u prev && isWord u next
  | .wordEnd u => isWord u prev && !isWord u next
  | .wordStartHalf u => !isWord u prev
  | .wordEndHalf u => !isWord u next

end Look

namespace Regex

/-- Whether the expression matches without taking a character between the two. -/
def matchesEmpty (prev next : Option Char) : Regex → Bool
  | .empty => true
  | .set _ => false
  | .look l => l.holds prev next
  | .cat r s => r.matchesEmpty prev next && s.matchesEmpty prev next
  | .alt r s => r.matchesEmpty prev next || s.matchesEmpty prev next
  | .rep r min _ => min == 0 || r.matchesEmpty prev next

/-- One expression after another. -/
def andThen : Regex → Regex → Regex
  | .empty, s => s
  | r, s => .cat r s

/-- What remains to be matched after the character `c`, which follows `prev`.  Once
the repeated expression can match nothing at this place, no further repetition is
required. -/
def derivatives (prev : Option Char) (c : Char) : Regex → List Regex
  | .empty | .look _ => []
  | .set s => if s.contains c.toNat then [.empty] else []
  | .cat r s =>
    (r.derivatives prev c).map (·.andThen s) ++
      if r.matchesEmpty prev (some c) then s.derivatives prev c else []
  | .alt r s => r.derivatives prev c ++ s.derivatives prev c
  | .rep r min max =>
    let min := if r.matchesEmpty prev (some c) then 0 else min - 1
    match max with
    | none => (r.derivatives prev c).map (·.andThen (.rep r min none))
    | some 0 => []
    | some (m + 1) => (r.derivatives prev c).map (·.andThen (.rep r min (some m)))

/-- Searches for `r` from a place on; `live` is what remains of matches that began
before it. -/
def search (r : Regex) (prev : Option Char) (live : List Regex) : List Char → Bool
  | [] => (r :: live).any (matchesEmpty prev none)
  | c :: rest =>
    (r :: live).any (matchesEmpty prev (some c)) ||
      search r (some c) ((r :: live).flatMap (derivatives prev c)).eraseDups rest

def isMatch (r : Regex) (text : String) : Bool :=
  r.search none [] text.toList

/-- The size of the automaton that the expression stands for, with one state for each
range of a set in each of its repetitions. -/
def weight : Regex → Nat
  | .empty => 0
  | .set s => if s.ranges.all fun r => r.2 < 128 then 1 else s.ranges.length + 1
  | .look _ => 1
  | .cat r s => r.weight + s.weight
  | .alt r s => r.weight + s.weight + 1
  | .rep r min none => r.weight * max min 1 + 1
  | .rep r min (some m) => r.weight * m + (m - min)

/-- The largest automaton that is accepted: ten mebibytes of thirty-two byte states. -/
def weightLimit : Nat := 10 * 1024 * 1024 / 32

end Regex

end CatalogQuery
