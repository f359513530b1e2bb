/-
Patterns that have been read once and remember the text they came from.
-/
import CatalogQuery.Pattern.Parser

namespace CatalogQuery

/-- A pattern with its source; two patterns from the same source are the same. -/
structure Pattern where
  source : String
  ignoreCase : Bool
  regex : Regex
  parsed : Pattern.parse? ignoreCase source = some regex

namespace Pattern

/-- Reads a pattern, if it is well formed. -/
def compile? (ignoreCase : Bool) (source : String) : Option Pattern :=
  match h : parse? ignoreCase source with
  | none => none
  | some regex => some ⟨source, ignoreCase, regex, h⟩

def isMatch (p : Pattern) (text : String) : Bool :=
  p.regex.isMatch text

/-- Whether two patterns have the same source and treat case alike. -/
def equals (p q : Pattern) : Bool :=
  p.source == q.source && p.ignoreCase == q.ignoreCase

end Pattern

end CatalogQuery
