/-
Query trees as JSON.  A node is an alternative named for its kind.  Stored queries are
kept in this form, and reading one back gives the tree that was stored.
-/
import CatalogQuery.Json.Reader
import CatalogQuery.Predicate.Codec
import CatalogQuery.Query.Node

namespace CatalogQuery

open Json (Raw)

namespace FileList

def encode : FileList → Json
  | .ids entries => .object [("ids", .array (entries.map .string))]
  | .dids entries => .object [("dids", .array (entries.map .string))]
  | .names space entries =>
    .object [("names",
      .object [("namespace", .ofOption space), ("names", .array (entries.map .string))])]

/-- Reads a list of files. -/
def decode? : Nat → Raw → Option FileList
  | room + 1, raw => do
    let (name, content) ← raw.tagged?
    match name, room with
    | "ids", room => (content.texts? room).map .ids
    | "dids", room => (content.texts? room).map .dids
    | "names", room + 1 =>
      let [space, entries] ← content.fields? ["namespace", "names"] | none
      let space ← Raw.orElse? (Raw.optional? Raw.text?) none space
      let entries ← (← entries).texts? room
      return .names space entries
    | _, _ => none
  | 0, _ => none

end FileList

namespace DatasetSelector

def encode (s : DatasetSelector) : Json :=
  .object [("namespace", .ofOption s.space), ("name", .string s.name),
    ("pattern", .bool s.pattern), ("with_children", .bool s.withChildren),
    ("recursively", .bool s.recursively)]

/-- Reads a selector. -/
def decode? (raw : Raw) : Option DatasetSelector := do
  let [space, name, pattern, withChildren, recursively] ←
    raw.fields? ["namespace", "name", "pattern", "with_children", "recursively"] | none
  let space ← Raw.orElse? (Raw.optional? Raw.text?) none space
  let name ← (← name).text?
  let pattern ← Raw.orElse? Raw.bool? false pattern
  let withChildren ← Raw.orElse? Raw.bool? false withChildren
  let recursively ← Raw.orElse? Raw.bool? false recursively
  return ⟨space, name, pattern, withChildren, recursively⟩

end DatasetSelector

namespace FilterCall

/-- Reads the keyword arguments of a filter; a repeated keyword keeps its last value. -/
def decodeKeyword? : Nat → Raw → Option (Dict String Constant)
  | _ + 1, .object members => do
    let members ← Raw.named? members
    let members ← members.mapM fun (k, v) => (Constant.decode? v).map fun c => (k, c)
    return .ofList members
  | _, _ => none

end FilterCall

namespace Node

mutual

def encode : Node → Json
  | .everyFile => .object [("basic_files", .object [])]
  | .filesOf query => .object [("basic_files", .object [("datasets", query.encode)])]
  | .named space name =>
    .object [("named_query", .object [("namespace", .ofOption space), ("name", .string name)])]
  | .list files => .object [("file_list", files.encode)]
  | .union operands => .object [("union", .array (encodeList operands))]
  | .join operands => .object [("join", .array (encodeList operands))]
  | .minus left right =>
    .object [("minus", .object [("left", left.encode), ("right", right.encode)])]
  | .parentsOf query => .object [("parents_of", query.encode)]
  | .childrenOf query => .object [("children_of", query.encode)]
  | .limit query count =>
    .object [("limit", .object [("query", query.encode), ("limit", .int count.toNat)])]
  | .skip query count =>
    .object [("skip", .object [("query", query.encode), ("skip", .int count.toNat)])]
  | .metaFilter query predicate =>
    .object [("meta_filter",
      .object [("query", query.encode), ("expr", predicate.encode)])]
  | .filter call inputs =>
    .object [("filter",
      .object [("name", .string call.name),
        ("positional", .array (call.positional.map Constant.encode)),
        ("keyword", .object (call.keyword.entries.map fun (k, c) => (k, c.encode))),
        ("queries", .array (encodeList inputs))])]
  | .datasets selector => .object [("dataset_ref", selector.encode)]
  | .datasetsHaving query predicate =>
    .object [("dataset_having",
      .object [("query", query.encode), ("expr", predicate.encode)])]
  | .datasetUnion parts => .object [("dataset_union", .array (encodeList parts))]
  | .namedQueries space pattern =>
    .object [("named_queries",
      .object [("namespace", .ofOption space), ("pattern", .ofOption pattern)])]

/-- Nodes as JSON. -/
def encodeList : List Node → List Json
  | [] => []
  | n :: rest => n.encode :: encodeList rest

end

mutual

/-- Reads a node. -/
def decode? : Nat → Raw → Option Node
  | 0, _ => none
  | room + 1, raw => do
    let (name, content) ← raw.tagged?
    if name = "parents_of" then (decode? room content).map .parentsOf
    else if name = "children_of" then (decode? room content).map .childrenOf
    else if name = "file_list" then (FileList.decode? room content).map .list
    else
      match room with
      | 0 => none
      | inner + 1 =>
        match name, content with
        | "basic_files", content =>
          let [query] ← content.fields? ["datasets"] | none
          let query ← Raw.orElse? (Raw.optional? (decode? inner)) none query
          return match query with
            | none => .everyFile
            | some query => .filesOf query
        | "named_query", content =>
          let [space, name] ← content.fields? ["namespace", "name"] | none
          let space ← Raw.orElse? (Raw.optional? Raw.text?) none space
          let name ← (← name).text?
          return .named space name
        | "union", .array items => (items.mapM (decode? inner)).map .union
        | "join", .array items => (items.mapM (decode? inner)).map .join
        | "minus", content =>
          let [left, right] ← content.fields? ["left", "right"] | none
          let left ← decode? inner (← left)
          let right ← decode? inner (← right)
          return .minus left right
        | "limit", content =>
          let [query, count] ← content.fields? ["query", "limit"] | none
          let query ← decode? inner (← query)
          let count ← (← count).uint64?
          return .limit query count
        | "skip", content =>
          let [query, count] ← content.fields? ["query", "skip"] | none
          let query ← decode? inner (← query)
          let count ← (← count).uint64?
          return .skip query count
        | "meta_filter", content =>
          let [query, predicate] ← content.fields? ["query", "expr"] | none
          let query ← decode? inner (← query)
          let predicate ← Predicate.decode? inner (← predicate)
          return .metaFilter query predicate
        | "filter", content =>
          let [name, positional, keyword, queries] ←
            content.fields? ["name", "positional", "keyword", "queries"] | none
          let name ← (← name).text?
          let positional ← Raw.orElse? (Constant.decodeList? inner) [] positional
          let keyword ← Raw.orElse? (FilterCall.decodeKeyword? inner) .empty keyword
          let inputs ← Raw.orElse? (decodeInputs? inner) [] queries
          return .filter { name, positional, keyword } inputs
        | "dataset_ref", content => (DatasetSelector.decode? content).map .datasets
        | "dataset_having", content =>
          let [query, predicate] ← content.fields? ["query", "expr"] | none
          let query ← decode? inner (← query)
          let predicate ← Predicate.decode? inner (← predicate)
          return .datasetsHaving query predicate
        | "dataset_union", .array items => (items.mapM (decode? inner)).map .datasetUnion
        | "named_queries", content =>
          let [space, pattern] ← content.fields? ["namespace", "pattern"] | none
          let space ← Raw.orElse? (Raw.optional? Raw.text?) none space
          let pattern ← Raw.orElse? (Raw.optional? Raw.text?) none pattern
          return .namedQueries space pattern
        | _, _ => none

def decodeInputs? : Nat → Raw → Option (List Node)
  | deeper + 1, .array items => items.mapM (decode? deeper)
  | _, _ => none

end

/-- Reads a text as a node. -/
def read? (text : String) : Option Node :=
  (Raw.read? text).bind (decode? Json.depthLimit)

end Node

end CatalogQuery
