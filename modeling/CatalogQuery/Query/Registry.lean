/-
Stored queries.  A query is stored under a namespace and a name as a text, and the text
is read each time the query is used.
-/
import CatalogQuery.Failure
import CatalogQuery.Query.Codec
import CatalogQuery.Query.Glob

namespace CatalogQuery

/-- The name of a stored query. -/
structure QueryName where
  space : String
  name : String
deriving DecidableEq, Inhabited

namespace QueryName

/-- Names are ordered by their namespaces first. -/
instance : Ord QueryName :=
  ⟨compareLex (compareOn QueryName.space) (compareOn QueryName.name)⟩

instance : Std.TransOrd QueryName :=
  inferInstanceAs (Std.TransCmp (compareLex (compareOn QueryName.space)
    (compareOn QueryName.name)))

instance : Std.LawfulEqOrd QueryName where
  eq_of_compare {a b} h := by
    obtain ⟨hspace, hname⟩ := Ordering.then_eq_eq.1 h
    cases a
    cases b
    simp only [QueryName.mk.injEq]
    exact ⟨Std.LawfulEqOrd.eq_of_compare hspace, Std.LawfulEqOrd.eq_of_compare hname⟩

def text (n : QueryName) : String := n.space ++ ":" ++ n.name

end QueryName

/-- The stored queries. -/
abbrev NamedQueries := Dict QueryName String

/-- A stored query. -/
structure StoredQuery where
  space : String
  name : String
  source : String
deriving DecidableEq

namespace NamedQueries

/-- Stores a query tree. -/
def insertNode (queries : NamedQueries) (name : QueryName) (node : Node) : NamedQueries :=
  queries.insert name node.encode.write

/-- Reads the stored query of a name. -/
def resolve (queries : NamedQueries) (name : QueryName) : Except Failure Node :=
  match queries.get? name with
  | none => .error (.unknownNamedQuery name.space name.name)
  | some source =>
    match Node.read? source with
    | some node => .ok node
    | none => .error (.invalidNamedQuerySource name.space name.name)

def compileGlob (pattern : Option String) : Except Failure (Option Glob) :=
  match pattern with
  | none => .ok none
  | some pattern =>
    match Glob.compile? pattern with
    | some glob => .ok (some glob)
    | none => .error (.invalidOperand "named_queries" .invalidGlob)

/-- The stored queries of a namespace whose names match a glob, in order.  Without a
namespace or a glob there is no such condition. -/
def search (queries : NamedQueries) (space pattern : Option String) :
    Except Failure (List StoredQuery) := do
  let glob ← compileGlob pattern
  let found := queries.entries.filter fun (name, _) =>
    space.all (· == name.space) && glob.all (·.isMatch name.name)
  return found.map fun (name, source) => ⟨name.space, name.name, source⟩

end NamedQueries

end CatalogQuery
