/-
Quoted texts for messages.  A text is put in double quotes so that every character
of it can be seen: quotes and backslashes get a backslash, and what would not show
on its own is written as its code point.
-/
import CatalogQuery.Unicode.Property

namespace CatalogQuery.Text

/-- The characters that do not show on their own: controls, unassigned and private
ones, blanks other than the space, and marks that extend the character before. -/
def hidden : CharSet :=
  (Unicode.Category.unionOf [Unicode.Category.other, Unicode.Category.separator,
    Unicode.Property.graphemeExtend]).diff (.single 32)

/-- A character inside a quoted text. -/
def escape (c : Char) : String :=
  if c = '"' then "\\\""
  else if c = '\\' then "\\\\"
  else if c = '\t' then "\\t"
  else if c = '\r' then "\\r"
  else if c = '\n' then "\\n"
  else if c.toNat = 0 then "\\0"
  else if 32 ≤ c.toNat ∧ c.toNat < 127 then String.singleton c
  else if hidden.contains c.toNat then
    "\\u\x7b" ++ String.ofList (Nat.toDigits 16 c.toNat) ++ "\x7d"
  else String.singleton c

def quoted (text : String) : String :=
  "\"" ++ String.join (text.toList.map escape) ++ "\""

end CatalogQuery.Text
