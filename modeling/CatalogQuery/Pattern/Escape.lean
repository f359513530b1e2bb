/-
The small parts of a pattern: blanks and comments that mean nothing, decimal and
hexadecimal numbers, and what follows a backslash.  Each reader takes the characters
that are left and gives back those it leaves.
-/
import CatalogQuery.Pattern.Flags

namespace CatalogQuery.Pattern

/-- What an element of a pattern stands for: one character, a set, or an assertion. -/
inductive Element
  | char (c : Char)
  /-- A character written as two hexadecimal digits, which without the flag for
  Unicode is a single byte. -/
  | byte (c : Char)
  | set (s : CharSet)
  | look (l : Look)

def isBlank (c : Char) : Bool :=
  Unicode.Property.whiteSpace.contains c.toNat

/-- Drops blanks and comments; a comment goes on to the end of its line. -/
def dropBlanks (comment : Bool) : List Char → List Char
  | [] => []
  | c :: rest =>
    if comment then dropBlanks (c != '\n') rest
    else if isBlank c then dropBlanks false rest
    else if c = '#' then dropBlanks true rest
    else c :: rest

/-- Drops what means nothing under the flags. -/
def Flags.skip (flags : Flags) (cs : List Char) : List Char :=
  if flags.extended then dropBlanks false cs else cs

def hexValue? (c : Char) : Option Nat :=
  if '0' ≤ c ∧ c ≤ '9' then some (c.toNat - 48)
  else if 'a' ≤ c ∧ c ≤ 'f' then some (c.toNat - 87)
  else if 'A' ≤ c ∧ c ≤ 'F' then some (c.toNat - 55)
  else none

/-- The character with a code, unless the code is a surrogate or too large. -/
def charOf? (code : Nat) : Option Char :=
  if code < 0xD800 ∨ (0xE000 ≤ code ∧ code ≤ CharSet.top) then some (Char.ofNat code) else none

/-- Reads exactly so many hexadecimal digits. -/
def hexDigits? (flags : Flags) : Nat → Nat → List Char → Option (Nat × List Char)
  | 0, value, cs => some (value, cs)
  | n + 1, value, c :: rest =>
    (hexValue? c).bind fun d => hexDigits? flags n (value * 16 + d) (flags.skip rest)
  | _ + 1, _, [] => none

/-- Takes characters up to a closing brace, which is dropped. -/
def untilBrace? (flags : Flags) (cs : List Char) : Option (List Char × List Char) :=
  let inside := cs.takeWhile (· != '\x7d')
  match cs.dropWhile (· != '\x7d') with
  | [] => none
  | _ :: rest =>
    some (if flags.extended then inside.filter fun c => !isBlank c else inside, rest)

/-- Reads the hexadecimal number after `\x`, `\u` or `\U`: so many digits, or any
number of them in braces. -/
def hex? (flags : Flags) (digits : Nat) (cs : List Char) : Option (Element × List Char) :=
  match flags.skip cs with
  | '\x7b' :: rest => do
    let (inside, rest) ← untilBrace? flags rest
    let values ← inside.mapM hexValue?
    if values.isEmpty then none
    else
      let c ← charOf? (values.foldl (fun n d => n * 16 + d) 0)
      return (.char c, flags.skip rest)
  | cs => do
    let (code, rest) ← hexDigits? flags digits 0 cs
    let c ← charOf? code
    return (if digits = 2 then .byte c else .char c, rest)

/-- Reads the name of a class after `\p` or `\P`. -/
def classEscape? (flags : Flags) (negated : Bool) (cs : List Char) :
    Option (Element × List Char) := do
  let (name, rest) ← match flags.skip cs with
    | '\x7b' :: rest => untilBrace? flags rest
    | c :: rest => if c = '\\' then none else some ([c], flags.skip rest)
    | [] => none
  let s ← Unicode.query? name
  let s ← if flags.unicode then flags.negate? negated (flags.fold s) else none
  return (.set s, rest)

/-- The characters with a meaning of their own in a pattern. -/
def isMeta (c : Char) : Bool :=
  "\\.+*?()|[]\x7b\x7d^$#&-~".toList.contains c

/-- Whether a backslash before the character leaves it as it is. -/
def isEscapable (c : Char) : Bool :=
  isMeta c || (c.toNat < 128 && !c.isAlphanum && c != '<' && c != '>')

/-- The kinds of word boundary that are written out in braces after `\b`. -/
def boundary? (unicode : Bool) (name : String) : Option Look :=
  if name = "start" then some (.wordStart unicode)
  else if name = "end" then some (.wordEnd unicode)
  else if name = "start-half" then some (.wordStartHalf unicode)
  else if name = "end-half" then some (.wordEndHalf unicode)
  else none

/-- Reads what follows `\b`.  A brace that does not begin a word is left for a
repetition count. -/
def boundaryEscape? (flags : Flags) (cs : List Char) : Option (Element × List Char) :=
  let isPart (c : Char) : Bool := c.isAlpha || c == '-'
  match cs with
  | '\x7b' :: rest =>
    match flags.skip rest with
    | [] => none
    | c :: more =>
      if isPart c then do
        let (inside, rest) ← untilBrace? flags (c :: more)
        let l ← boundary? flags.unicode (String.ofList inside)
        return (.look l, rest)
      else some (.look (.wordBoundary flags.unicode), cs)
  | _ => some (.look (.wordBoundary flags.unicode), cs)

/-- Reads what follows a backslash. -/
def escape? (flags : Flags) : List Char → Option (Element × List Char)
  | [] => none
  | c :: rest =>
    if c = 'x' then hex? flags 2 rest
    else if c = 'u' then hex? flags 4 rest
    else if c = 'U' then hex? flags 8 rest
    else if c = 'p' ∨ c = 'P' then classEscape? flags (c = 'P') rest
    else if c = 'd' ∨ c = 's' ∨ c = 'w' then
      (flags.negate? false (flags.escapedClass c)).map fun s => (.set s, rest)
    else if c = 'D' ∨ c = 'S' ∨ c = 'W' then
      (flags.negate? true (flags.escapedClass c.toLower)).map fun s => (.set s, rest)
    else if isEscapable c then some (.char c, rest)
    else if c = 'a' then some (.char '\x07', rest)
    else if c = 'f' then some (.char '\x0c', rest)
    else if c = 't' then some (.char '\t', rest)
    else if c = 'n' then some (.char '\n', rest)
    else if c = 'r' then some (.char '\r', rest)
    else if c = 'v' then some (.char '\x0b', rest)
    else if c = 'A' then some (.look .textStart, rest)
    else if c = 'z' then some (.look .textEnd, rest)
    else if c = 'b' then boundaryEscape? flags rest
    else if c = 'B' then some (.look (.notWordBoundary flags.unicode), rest)
    else if c = '<' then some (.look (.wordStart flags.unicode), rest)
    else if c = '>' then some (.look (.wordEnd flags.unicode), rest)
    else none

/-- Takes decimal digits; in an extended pattern there may be blanks and comments between
and after them. -/
def takeDigits (extended comment : Bool) : List Char → List Char × List Char
  | [] => ([], [])
  | c :: rest =>
    if comment then takeDigits extended (c != '\n') rest
    else if c.isDigit then
      let (digits, rest) := takeDigits extended false rest
      (c :: digits, rest)
    else if extended && isBlank c then takeDigits extended false rest
    else if extended && c == '#' then takeDigits extended true rest
    else ([], c :: rest)

/-- Takes blanks and then, if any follow, a number of decimal digits and blanks.  The
number is none when there is no digit. -/
def decimal (flags : Flags) (cs : List Char) : Option Nat × List Char :=
  let (digits, rest) := takeDigits flags.extended false (cs.dropWhile isBlank)
  (if digits.isEmpty then none
    else some (digits.foldl (fun n c => n * 10 + (c.toNat - 48)) 0), rest.dropWhile isBlank)

end CatalogQuery.Pattern
