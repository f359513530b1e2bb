/-
The parts of a query tree.  Some of the trees that stand in a tree are to select files and some
are to select datasets; a reference stands for the tree that is stored under its name.  A query
for files contains its operands for files, the stored trees that it refers to, and what these
contain.
-/
import CatalogQuery.Engine.Basic
import Mathlib.Logic.Relation

namespace CatalogQuery

/-- The trees that stand in a tree where files are to be selected. -/
def Node.fileOperands : Node → List Node
  | .union operands | .join operands | .filter _ operands => operands
  | .minus left right => [left, right]
  | .parentsOf query | .childrenOf query | .limit query _ | .skip query _
  | .metaFilter query _ => [query]
  | .everyFile | .filesOf _ | .named _ _ | .list _ | .datasets _ | .datasetsHaving _ _
  | .datasetUnion _ | .namedQueries _ _ => []

/-- The trees that stand in a tree where datasets are to be selected. -/
def Node.datasetOperands : Node → List Node
  | .filesOf query | .datasetsHaving query _ => [query]
  | .datasetUnion parts => parts
  | .everyFile | .named _ _ | .list _ | .union _ | .join _ | .minus _ _ | .parentsOf _
  | .childrenOf _ | .limit _ _ | .skip _ _ | .metaFilter _ _ | .filter _ _ | .datasets _
  | .namedQueries _ _ => []

/-- The tree that is stored under the name that a reference gives, in the default namespace if it
gives none. -/
def Engine.stored? (e : Engine) (o : Options) (space : Option String) (name : String) :
    Option Node := do
  let own ← space <|> o.defaultNamespace
  (e.queries.resolve ⟨own, name⟩).toOption

/-- The second tree is an operand of the first one, or the stored tree that it refers to. -/
inductive Engine.HasPart (e : Engine) (o : Options) : Node → Node → Prop
  | operand {node operand : Node} (h : operand ∈ node.fileOperands) : HasPart e o node operand
  | stored {space : Option String} {name : String} {node : Node}
    (h : e.stored? o space name = some node) : HasPart e o (.named space name) node

/-- The second tree is the first one or a part of it, at any depth. -/
abbrev Engine.Contains (e : Engine) (o : Options) : Node → Node → Prop :=
  Relation.ReflTransGen (e.HasPart o)

variable {e : Engine} {o : Options} {node operand : Node}

theorem sizeOf_lt_of_mem_fileOperands (h : operand ∈ node.fileOperands) :
    sizeOf operand < sizeOf node := by
  cases node with
  | union operands | join operands | filter call operands =>
      have hlt : sizeOf operand < sizeOf operands := List.sizeOf_lt_of_mem h
      simp only [Node.union.sizeOf_spec, Node.join.sizeOf_spec, Node.filter.sizeOf_spec]
      omega
  | minus left right =>
      rw [Node.minus.sizeOf_spec]
      rcases List.mem_cons.mp h with rfl | hright
      · omega
      · rw [List.mem_singleton.mp hright]
        omega
  | parentsOf query | childrenOf query | limit query count | skip query count
  | metaFilter query predicate =>
      rw [List.mem_singleton.mp h]
      simp only [Node.parentsOf.sizeOf_spec, Node.childrenOf.sizeOf_spec, Node.limit.sizeOf_spec,
        Node.skip.sizeOf_spec, Node.metaFilter.sizeOf_spec]
      omega
  | everyFile | filesOf query | named space name | list files | datasets selector
  | datasetsHaving query predicate | datasetUnion parts | namedQueries space pattern => cases h

theorem requireSpace_eq_ok_iff {space : Option String} {subject own : String} :
    o.requireSpace space subject = .ok own ↔ (space <|> o.defaultNamespace) = some own := by
  unfold Options.requireSpace
  split
  · rename_i given hgiven
    rw [hgiven, Except.ok.injEq, Option.some.injEq]
  · rename_i hnone
    rw [hnone]
    exact ⟨nofun, nofun⟩

theorem stored?_eq_some_iff {space : Option String} {name : String} :
    e.stored? o space name = some node ↔ ∃ own,
      o.requireSpace space "named query reference" = .ok own ∧
        e.queries.resolve ⟨own, name⟩ = .ok node := by
  simp only [Engine.stored?, Option.bind_eq_bind, Option.bind_eq_some_iff, requireSpace_eq_ok_iff]
  refine exists_congr fun own => and_congr_right fun _ => ?_
  cases e.queries.resolve ⟨own, name⟩ with
  | error f => exact ⟨nofun, nofun⟩
  | ok stored => rw [Except.toOption, Option.some.injEq, Except.ok.injEq]

/-- A reference has the one stored tree as its only part. -/
theorem hasPart_named_iff {space : Option String} {name : String} :
    e.HasPart o (.named space name) node ↔ e.stored? o space name = some node := by
  refine ⟨fun h => ?_, .stored⟩
  cases h with
  | operand h => cases h
  | stored h => exact h

/-- A tree that is no reference has its operands as its parts. -/
theorem hasPart_iff_mem (h : ∀ space name, node ≠ .named space name) :
    e.HasPart o node operand ↔ operand ∈ node.fileOperands := by
  refine ⟨fun hpart => ?_, .operand⟩
  cases hpart with
  | operand h => exact h
  | stored hstored => exact absurd rfl (h _ _)

end CatalogQuery
