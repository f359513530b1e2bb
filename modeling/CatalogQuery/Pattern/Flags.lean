/-
The flags of a pattern, and how sets of characters depend on them.  Without the flag
for Unicode a pattern is about the basic alphabet only, and a set that would leave it
is refused, since such a set could match half of a character.
-/
import CatalogQuery.Pattern.Regex
import CatalogQuery.Unicode.Folding
import CatalogQuery.Unicode.Named

namespace CatalogQuery.Pattern

/-- The switches in force at a place of a pattern. -/
structure Flags where
  ignoreCase : Bool := false
  multiLine : Bool := false
  dotAll : Bool := false
  crlf : Bool := false
  unicode : Bool := true
  /-- Blanks and comments in the pattern mean nothing. -/
  extended : Bool := false
deriving DecidableEq, Inhabited

/-- The letters of the basic alphabet in either case, added to a set. -/
def asciiClose (s : CharSet) : CharSet :=
  let added := (List.range 26).filter fun i => s.contains (65 + i) || s.contains (97 + i)
  .ofRanges (s.ranges ++ added.flatMap fun i => [(65 + i, 65 + i), (97 + i, 97 + i)])

/-- Whether every member is in the basic alphabet. -/
def isBasic (s : CharSet) : Bool :=
  s.ranges.all fun r => r.2 < 128

namespace Flags

/-- The set closed under case, if case is to be ignored. -/
def fold (flags : Flags) (s : CharSet) : CharSet :=
  if !flags.ignoreCase then s
  else if flags.unicode then Unicode.Folding.close s
  else asciiClose s

/-- The set or, if negated, its complement; none when that leaves the alphabet. -/
def negate? (flags : Flags) (negated : Bool) (s : CharSet) : Option CharSet :=
  if flags.unicode then some (if negated then s.complement else s)
  else
    let s := if negated then s.complementTo 255 else s
    if isBasic s then some s else none

def literal (flags : Flags) (c : Char) : Regex :=
  if flags.unicode || c.toNat < 128 then .set (flags.fold (.single c.toNat))
  else .set (.single c.toNat)

/-- The digits, blanks or word characters that `\d`, `\s` and `\w` stand for. -/
def escapedClass (flags : Flags) (kind : Char) : CharSet :=
  if flags.unicode then
    if kind = 'd' then Unicode.Category.decimalNumber
    else if kind = 's' then Unicode.Property.whiteSpace
    else Unicode.Property.word
  else
    if kind = 'd' then ⟨[(48, 57)]⟩
    else if kind = 's' then ⟨[(9, 13), (32, 32)]⟩
    else Look.asciiWord

def dot? (flags : Flags) : Option Regex :=
  if !flags.unicode then none
  else if flags.dotAll then some (.set ⟨[(0, CharSet.top)]⟩)
  else if flags.crlf then
    some (.set (CharSet.complement ⟨[(10, 10), (13, 13)]⟩))
  else some (.set (CharSet.complement (.single 10)))

def caret (flags : Flags) : Regex :=
  if !flags.multiLine then .look .textStart
  else if flags.crlf then .look .breakStart
  else .look .lineStart

def dollar (flags : Flags) : Regex :=
  if !flags.multiLine then .look .textEnd
  else if flags.crlf then .look .breakEnd
  else .look .lineEnd

/-- The flags with the one of the given letter set or cleared; none for a letter that
is no flag.  Greed only tells which of several matches is found, so `U` changes
nothing here. -/
def set? (flags : Flags) (letter : Char) (on : Bool) : Option Flags :=
  if letter = 'i' then some { flags with ignoreCase := on }
  else if letter = 'm' then some { flags with multiLine := on }
  else if letter = 's' then some { flags with dotAll := on }
  else if letter = 'R' then some { flags with crlf := on }
  else if letter = 'u' then some { flags with unicode := on }
  else if letter = 'x' then some { flags with extended := on }
  else if letter = 'U' then some flags
  else none

end Flags

end CatalogQuery.Pattern
