/-
Queries for files.  A query becomes one query of the store as long as all its operands
do, and a stream of records otherwise.  Nothing is asked of the store here.  A stored
query is compiled in the place of its name; the names that are being expanded are
remembered, and a name among them is not expanded again, so that expansions are never
nested deeper than there are names.
-/
import CatalogQuery.Engine.Basic

namespace CatalogQuery

open Sql (ColumnSet Direction Fragment)

/-- What a query for files becomes. -/
inductive Compiled
  | query (fragment : Fragment)
  | records (files : FileSet)

namespace Compiled

/-- The query of the store, if it is one. -/
def fragment? : Compiled → Option Fragment
  | .query fragment => some fragment
  | .records _ => none

/-- The set of files; `context` is the step of the whole that it belongs to. -/
def files (e : Engine) (o : Options) (context : String) : Compiled → FileSet
  | .query fragment => .ofQuery e.dialect fragment context o.debug
  | .records files => files

end Compiled

/-- The texts of the names of the stored queries that are not among those being expanded. -/
def NamedQueries.unexpanded (queries : NamedQueries) (expanding : List String) : List String :=
  (queries.keys.map QueryName.text).filter fun name => name ∉ expanding

/-- Expanding a stored query leaves fewer of them. -/
theorem NamedQueries.length_unexpanded_lt {queries : NamedQueries} {name : QueryName}
    {node : Node} {expanding : List String} (hfresh : name.text ∉ expanding)
    (hnode : queries.resolve name = .ok node) :
    (queries.unexpanded (expanding ++ [name.text])).length <
      (queries.unexpanded expanding).length := by
  have hmem : name.text ∈ queries.keys.map QueryName.text := by
    simp only [resolve] at hnode
    split at hnode
    · simp at hnode
    · rename_i source hsource
      exact List.mem_map_of_mem (Dict.mem_keys_of_get? hsource)
  have hsplit : queries.unexpanded (expanding ++ [name.text]) =
      (queries.unexpanded expanding).filter fun other => other ∉ [name.text] := by
    simp only [unexpanded, List.filter_filter]
    congr 1
    funext other
    simp [Bool.and_comm]
  rw [hsplit]
  refine List.length_filter_lt_length_iff_exists.2 ⟨name.text, ?_, by simp⟩
  exact List.mem_filter.2 ⟨hmem, by simpa using hfresh⟩

namespace Engine

/-- The name of the node that a set operation comes from. -/
def operationName : Sql.SetOperation → String
  | .union => "union"
  | .intersect => "join"
  | .except => "minus"

/-- Combines operands with a set operation.  A single operand is returned as it is. -/
def combine (e : Engine) (o : Options) (op : Sql.SetOperation) (needs : ColumnSet)
    (first : Compiled) (rest : List Compiled) : Compiled :=
  if rest.isEmpty then first
  else
    match first.fragment?, rest.mapM Compiled.fragment? with
    | some fragment, some fragments => .query (.combine op fragment fragments needs)
    | _, _ =>
      let first := first.files e o (operationName op)
      let rest := rest.map (Compiled.files e o (operationName op))
      .records <| match op with
        | .union => first.union rest
        | .intersect => first.intersect rest
        | .except => rest.foldl FileSet.difference first

/-- Splits a text `namespace:name`. -/
def splitDid (did : String) : Option (String × String) :=
  let space := did.toList.takeWhile (· ≠ ':')
  match did.toList.dropWhile (· ≠ ':') with
  | [] => none
  | _ :: name => some (String.ofList space, String.ofList name)

/-- The namespace and name of a text; without a namespace it takes the default one. -/
def readDid (o : Options) (did : String) : Except Failure (String × String) :=
  match splitDid did with
  | some pair => .ok pair
  | none => (o.requireSpace none "did").map fun space => (space, did)

/-- The query for files given by their identity. -/
def compileList (o : Options) (needs : ColumnSet) : FileList → Except Failure Fragment
  | .ids ids =>
    if ids.isEmpty then .error (.invalidOperand "fids" .emptyIds)
    else .ok (.ofIds ids needs)
  | .dids dids => do
    match ← dids.mapM (readDid o) with
    | [] => .error (.invalidOperand "dids" .emptyDids)
    | first :: rest => return .ofDids first rest needs
  | .names space names =>
    match names with
    | [] => .error (.invalidOperand "names" .emptyNames)
    | first :: rest => do
      let space ← o.requireSpace space "name list"
      return .ofDids (space, first) (rest.map fun name => (space, name)) needs

/-- Keeps the files whose metadata satisfies a predicate in normal form. -/
def compileCondition (e : Engine) (predicate : Predicate) (form : Dnf) (needs : ColumnSet) :
    Compiled → Except Failure Compiled
  | .query inner => do
    let condition ← Sql.condition? e.dialect Fragment.metadataColumn form
    return .query (inner.filtered condition needs)
  | .records files => return .records (← files.filterMetadata predicate)

mutual

/-- What a query for files becomes, with at least the columns in `needs`.  Stored queries
are left to `expand`. -/
def compileNode (e : Engine) (o : Options)
    (expand : QueryName → ColumnSet → Except Failure Compiled) (needs : ColumnSet) :
    Node → Except Failure Compiled
  | .everyFile => .ok (.query (.everyFile e.dialect none o.includeRetired needs))
  | .filesOf query => do
    let datasets ← e.compileDatasets o query
    return .query (.everyFile e.dialect (some datasets) o.includeRetired needs)
  | .named space name => do
    let space ← o.requireSpace space "named query reference"
    expand ⟨space, name⟩ needs
  | .list files => return .query (← compileList o needs files)
  | .union operands => do
    match ← compileOperands e o expand needs needs operands with
    | [] => .error (.invalidOperand (Node.union operands).kind .noOperand)
    | first :: rest => return e.combine o .union needs first rest
  | .join operands => do
    match ← compileOperands e o expand needs .ids operands with
    | [] => .error (.invalidOperand (Node.join operands).kind .noOperand)
    | first :: rest => return e.combine o .intersect needs first rest
  | .minus left right => do
    let left ← compileNode e o expand needs left
    let right ← compileNode e o expand .ids right
    return e.combine o .except needs left [right]
  | .parentsOf query => do
    match ← compileNode e o expand .ids query with
    | .query inner => return .query (inner.step .parents needs)
    | .records files => return .records (files.step .parents needs)
  | .childrenOf query => do
    match ← compileNode e o expand .ids query with
    | .query inner => return .query (inner.step .children needs)
    | .records files => return .records (files.step .children needs)
  | .limit query count => do
    match ← compileNode e o expand needs query with
    | .query inner => return .query (inner.limit count needs)
    | .records files => return .records (files.limit count)
  | .skip query count => do
    match ← compileNode e o expand needs query with
    | .query inner => return .query (inner.skip e.dialect count needs)
    | .records files => return .records (files.skip count)
  | .metaFilter query predicate => do
    match ← predicate.normalize with
    | .always => compileNode e o expand needs query
    | form =>
      let inner ← compileNode e o expand needs.withMetadata query
      e.compileCondition predicate form needs inner
  | .filter call inputs => do
    match e.filters.get? call.name with
    | none => .error (.unknownFilter call.name)
    | some filter =>
      let inputs ←
        compileOperands e o expand needs.withMetadata needs.withMetadata inputs
      let inputs := inputs.map (Compiled.files e o "filter")
      let records := filter.run call.name inputs call.toArguments
      return .records ⟨e.dialect, o.debug, .stream records⟩
  | other => mismatch .file other

/-- What several queries for files become, the first one with the columns in `needs` and
the others with those in `later`. -/
def compileOperands (e : Engine) (o : Options)
    (expand : QueryName → ColumnSet → Except Failure Compiled) (needs later : ColumnSet) :
    List Node → Except Failure (List Compiled)
  | [] => .ok []
  | operand :: rest => do
    let first ← compileNode e o expand needs operand
    let rest ← compileOperands e o expand later later rest
    return first :: rest

end

/-- What the stored query of a name becomes while others are being expanded. -/
def expandNamed (e : Engine) (o : Options) (expanding : List String) (name : QueryName)
    (needs : ColumnSet) : Except Failure Compiled :=
  if hfresh : name.text ∈ expanding then
    .error (.namedQueryCycle (expanding ++ [name.text]))
  else
    match hnode : e.queries.resolve name with
    | .error f => .error f
    | .ok node =>
      if node.type ≠ .file then mismatch .file node
      else
        have := NamedQueries.length_unexpanded_lt hfresh hnode
        compileNode e o
          (fun inner columns => expandNamed e o (expanding ++ [name.text]) inner columns)
          needs node
termination_by (e.queries.unexpanded expanding).length

/-- What a query for files becomes, with at least the columns in `needs`. -/
def compileFiles (e : Engine) (o : Options) (node : Node) (needs : ColumnSet) :
    Except Failure Compiled :=
  compileNode e o (e.expandNamed o []) needs node

/-- What a query for files becomes, with the columns that are asked for. -/
def compile (e : Engine) (o : Options) (node : Node) : Except Failure Compiled :=
  e.compileFiles o node o.columns

end Engine

end CatalogQuery
