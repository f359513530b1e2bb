/-
Classes of characters by name, as they are written between the braces of `\p`.  A
name stands alone (`Lu`, `Greek`, `alphabetic`) or after the kind of property it is a
value of (`gc=Lu`, `script:Greek`); `!=` instead asks for the characters without it.
-/
import CatalogQuery.Unicode.Property
import CatalogQuery.Unicode.Script

namespace CatalogQuery.Unicode

/-- A name without blanks, hyphens and underscores, in lower case and without the
word `is` in front. -/
def normalizeName (name : List Char) : String :=
  let letters := name.filterMap fun c =>
    if c = ' ' ∨ c = '_' ∨ c = '-' ∨ 127 < c.toNat then none else some c.toLower
  let startsWithIs := match name with
    | a :: b :: _ => a.toLower == 'i' && b.toLower == 's'
    | _ => false
  if startsWithIs then
    let rest := String.ofList (letters.drop 2)
    if rest = "c" then "isc" else rest
  else String.ofList letters

def class? (name : List Char) : Option CharSet :=
  let name := normalizeName name
  (Property.named? name).or ((Category.named? name).or (Script.named? name))

def valueClass? (kind value : List Char) : Option CharSet :=
  let value := normalizeName value
  match normalizeName kind with
  | "gc" | "generalcategory" => Category.named? value
  | "sc" | "script" | "scx" | "scriptextensions" => Script.named? value
  | _ => none

/-- Cuts a list before the first occurrence of another one, which is left out. -/
def cutAt? (mark : List Char) : List Char → Option (List Char × List Char)
  | [] => none
  | c :: rest =>
    if mark.isPrefixOf (c :: rest) then some ([], (c :: rest).drop mark.length)
    else (cutAt? mark rest).map fun (before, after) => (c :: before, after)

/-- The class written between braces, with the characters outside of it when it is
given by `!=`. -/
def query? (text : List Char) : Option CharSet :=
  match cutAt? ['!', '='] text with
  | some (kind, value) => (valueClass? kind value).map CharSet.complement
  | none =>
    match (cutAt? [':'] text).or (cutAt? ['='] text) with
    | some (kind, value) => valueClass? kind value
    | none => class? text

end CatalogQuery.Unicode
