/-
Records of files and of datasets, and how they are written as JSON.
-/
import CatalogQuery.Json.Fields

namespace CatalogQuery

open Json (Raw)

/-- A file as a query sees it.  Parents and children are known only if somebody asked
for them, and the metadata is empty unless somebody did. -/
structure Record where
  id : String
  space : String
  name : String
  size : Option UInt64 := none
  metadata : Metadata := []
  parents : Option (List String) := none
  children : Option (List String) := none
deriving Inhabited

namespace Record

/-- Namespace and name in one text. -/
def did (r : Record) : String := r.space ++ ":" ++ r.name

/-- A member that is left out without a value. -/
def encodeOptional (key : String) : Option Json → List (String × Json)
  | none => []
  | some value => [(key, value)]

/-- A list of identifiers as JSON. -/
def encodeIds (ids : List String) : Json := .array (ids.map .string)

def encode (r : Record) : Json :=
  .object ([("id", .string r.id), ("namespace", .string r.space), ("name", .string r.name)] ++
    encodeOptional "size" (r.size.map fun n => .int n.toNat) ++
    [("metadata", .object r.metadata)] ++
    encodeOptional "parents" (r.parents.map encodeIds) ++
    encodeOptional "children" (r.children.map encodeIds))

/-- Reads a record. -/
def decode? : Nat → Raw → Option Record
  | room + 1, raw => do
    let [id, space, name, size, metadata, parents, children] ←
      raw.fields? ["id", "namespace", "name", "size", "metadata", "parents", "children"] | none
    let id ← (← id).text?
    let space ← (← space).text?
    let name ← (← name).text?
    let size ← Raw.orElse? (Raw.optional? Raw.uint64?) none size
    let metadata ← Raw.orElse? (Raw.toMetadata? room) [] metadata
    let parents ← Raw.orElse? (Raw.optional? (Raw.texts? room)) none parents
    let children ← Raw.orElse? (Raw.optional? (Raw.texts? room)) none children
    return { id, space, name, size, metadata, parents, children }
  | 0, _ => none

end Record

/-- A dataset. -/
structure DatasetRecord where
  space : String
  name : String
  metadata : Metadata := []
deriving Inhabited

def DatasetRecord.encode (d : DatasetRecord) : Json :=
  .object [("namespace", .string d.space), ("name", .string d.name),
    ("metadata", .object d.metadata)]

end CatalogQuery
