/-
Cycles of stored queries.  A cycle is reported exactly where a reference is reached whose text
is that of a name being expanded.  Texts stand for names as long as no two of the names that
come into play have the same one, as is the case where no namespace has a colon in it; then a
reported cycle is one of names, and stored queries that refer to each other without a cycle
never report one.  A namespace with a colon breaks this: two names may share a text.
-/
import CatalogQuery.Proofs.Calls
import CatalogQuery.Proofs.StoredQueries

namespace CatalogQuery

open Sql (ColumnSet)

mutual

/-- The names that a tree refers to. -/
def Node.references (o : Options) : Node → List QueryName
  | .named space name =>
    match o.requireSpace space "named query reference" with
    | .ok own => [⟨own, name⟩]
    | .error _ => []
  | .filesOf query | .parentsOf query | .childrenOf query | .limit query _ | .skip query _
  | .metaFilter query _ | .datasetsHaving query _ => query.references o
  | .union operands | .join operands | .filter _ operands | .datasetUnion operands =>
    Node.allReferences o operands
  | .minus left right => left.references o ++ right.references o
  | .everyFile | .list _ | .datasets _ | .namedQueries _ _ => []

/-- The names that some trees refer to. -/
def Node.allReferences (o : Options) : List Node → List QueryName
  | [] => []
  | node :: rest => node.references o ++ Node.allReferences o rest

end

/-- The query that is stored under the one name refers to the other one. -/
def Engine.RefersTo (e : Engine) (o : Options) (name other : QueryName) : Prop :=
  ∃ node, e.queries.resolve name = .ok node ∧ other ∈ node.references o

/-- No stored query leads back to itself by references. -/
def Engine.IsAcyclic (e : Engine) (o : Options) : Prop :=
  ∀ name, ¬Relation.TransGen (e.RefersTo o) name name

/-- The names that come into play when a tree is compiled: those of the stored queries and
those that they or the tree refer to. -/
def Engine.mentioned (e : Engine) (o : Options) (node : Node) : Set QueryName :=
  {name | name ∈ e.queries.keys ∨ name ∈ node.references o ∨ ∃ stored, e.RefersTo o stored name}

variable {e : Engine} {o : Options} {c d : Call} {name other : QueryName} {node root : Node}

theorem mem_allReferences_iff (operands : List Node) :
    name ∈ Node.allReferences o operands ↔ ∃ n ∈ operands, name ∈ n.references o := by
  induction operands with
  | nil => simp [Node.allReferences]
  | cons operand rest ih => simp [Node.allReferences, ih]

/-- A tree refers to what its operands refer to. -/
theorem mem_references_of_fileOperand {operand : Node} (hmem : operand ∈ node.fileOperands)
    (h : name ∈ operand.references o) : name ∈ node.references o := by
  cases node with
  | union operands | join operands | filter call operands =>
      exact (mem_allReferences_iff operands).mpr ⟨operand, hmem, h⟩
  | minus left right =>
      rcases List.mem_cons.mp hmem with rfl | hright
      · exact List.mem_append_left _ h
      · rw [List.mem_singleton.mp hright] at h
        exact List.mem_append_right _ h
  | parentsOf query | childrenOf query | limit query count | skip query count
  | metaFilter query predicate =>
      rw [List.mem_singleton.mp hmem] at h
      exact h
  | everyFile | filesOf query | named space name | list files | datasets selector
  | datasetsHaving query predicate | datasetUnion parts | namedQueries space pattern => cases hmem

theorem Call.RefersTo.mem_references (h : c.RefersTo o name) : name ∈ c.node.references o := by
  obtain ⟨space, hnode, hspace⟩ := h
  rw [hnode, Node.references, hspace]
  exact List.mem_singleton_self _

theorem mem_keys_of_resolve (h : e.queries.resolve name = .ok node) : name ∈ e.queries.keys := by
  simp only [NamedQueries.resolve] at h
  split at h
  · cases h
  · rename_i source hsource
    exact Dict.mem_keys_of_get? hsource

/-- The call belongs to the compilation of a tree: the names being expanded are stored, those
that its own tree refers to come into play, and each one being expanded leads to each of these. -/
structure Call.IsWithin (e : Engine) (o : Options) (root : Node) (c : Call) : Prop where
  stored : ∀ name ∈ c.expanding, name ∈ e.queries.keys
  mentioned : ∀ name ∈ c.node.references o, name ∈ e.mentioned o root
  leads : ∀ name ∈ c.expanding, ∀ other ∈ c.node.references o,
    Relation.TransGen (e.RefersTo o) name other

theorem isWithin_root (needs : ColumnSet) : (Call.root needs root).IsWithin e o root where
  stored := nofun
  mentioned _ h := Or.inr (Or.inl h)
  leads := nofun

theorem Call.IsWithin.step (h : c.IsWithin e o root) (hstep : e.Calls o c d) :
    d.IsWithin e o root := by
  cases hstep with
  | @operand before after needs node hsplit hbefore =>
      have hmem : (needs, node) ∈ c.node.operands e c.needs := by simp [hsplit]
      have hoperand := mem_fileOperands_of_mem_operands hmem
      refine ⟨h.stored, fun name hname => ?_, fun name hname other hother => ?_⟩
      · exact h.mentioned name (mem_references_of_fileOperand hoperand hname)
      · exact h.leads name hname other (mem_references_of_fileOperand hoperand hother)
  | @expansion own node hown hfresh hnode htype =>
      have hrefers (other : QueryName) (hother : other ∈ node.references o) :
          e.RefersTo o own other := ⟨node, hnode, hother⟩
      refine ⟨fun name hname => ?_, fun name hname => ?_, fun name hname other hother => ?_⟩
      · rcases List.mem_append.mp hname with hold | hnew
        · exact h.stored name hold
        · rw [List.mem_singleton.mp hnew]
          exact mem_keys_of_resolve hnode
      · exact Or.inr (Or.inr ⟨own, hrefers name hname⟩)
      · rcases List.mem_append.mp hname with hold | hnew
        · exact (h.leads name hold own hown.mem_references).tail (hrefers other hother)
        · rw [List.mem_singleton.mp hnew]
          exact .single (hrefers other hother)

theorem isWithin_of_reaches {needs : ColumnSet} (h : e.Reaches o (.root needs root) c) :
    c.IsWithin e o root := by
  induction h with
  | refl => exact isWithin_root needs
  | tail _ hstep ih => exact ih.step hstep

/-- A cycle is reported exactly for a reference that is reached while a name with its text is
being expanded. -/
theorem compileFiles_eq_cycle_iff {needs : ColumnSet} {chain : List String} :
    e.compileFiles o node needs = .error (.namedQueryCycle chain) ↔
      ∃ c name, e.Reaches o (.root needs node) c ∧ c.RefersTo o name ∧ name.text ∈ c.chain ∧
        chain = c.chain ++ [name.text] := by
  constructor
  · intro h
    rw [← compileCall_root] at h
    exact exists_of_cycle h
  · rintro ⟨c, name, hreaches, hname, hmem, rfl⟩
    exact error_of_reaches hreaches (compileCall_of_mem hname hmem)

/-- Texts of names without a colon in the namespace stand for the names. -/
theorem injOn_text : Set.InjOn QueryName.text {name | ':' ∉ name.space.toList} := by
  intro name hname other hother htext
  have hsplit : Engine.splitDid name.text = some (name.space, name.name) := splitDid_append hname
  have hsplit' : Engine.splitDid other.text = some (other.space, other.name) :=
    splitDid_append hother
  rw [htext, hsplit'] at hsplit
  cases name
  cases other
  cases hsplit
  rfl

/-- Stored queries that refer to ones of smaller rank only have no cycle. -/
theorem isAcyclic_of_rank (rank : QueryName → Nat)
    (h : ∀ name other, e.RefersTo o name other → rank other < rank name) : e.IsAcyclic o := by
  intro name hcycle
  have hlt : ∀ other, Relation.TransGen (e.RefersTo o) name other → rank other < rank name := by
    intro other hpath
    induction hpath with
    | single hstep => exact h _ _ hstep
    | tail _ hstep ih => exact (h _ _ hstep).trans ih
  exact absurd (hlt name hcycle) (lt_irrefl _)

/-- Where different names have different texts, a reported cycle is a row of references that
are being expanded with one name in it twice, stored queries without a cycle report none, and a
reference to a name that is being expanded is always reported. -/
theorem cycle_of_injOn_text (needs : ColumnSet)
    (hinj : Set.InjOn QueryName.text (e.mentioned o node)) :
    (∀ chain, e.compileFiles o node needs = .error (.namedQueryCycle chain) →
        ∃ c name, e.Reaches o (.root needs node) c ∧ c.RefersTo o name ∧
          chain = (c.expanding ++ [name]).map QueryName.text ∧ ¬(c.expanding ++ [name]).Nodup) ∧
      (e.IsAcyclic o → ∀ chain, e.compileFiles o node needs ≠ .error (.namedQueryCycle chain)) ∧
      ∀ c name, e.Reaches o (.root needs node) c → c.RefersTo o name → name ∈ c.expanding →
        e.compileFiles o node needs =
          .error (.namedQueryCycle ((c.expanding ++ [name]).map QueryName.text)) := by
  have hname_mem {c : Call} {name : QueryName} (hreaches : e.Reaches o (.root needs node) c)
      (hname : c.RefersTo o name) (hmem : name.text ∈ c.chain) : name ∈ c.expanding := by
    have hwithin := isWithin_of_reaches hreaches
    obtain ⟨own, hown, htext⟩ := List.mem_map.mp hmem
    have hstored : own ∈ e.mentioned o node := Or.inl (hwithin.stored own hown)
    rwa [← hinj hstored (hwithin.mentioned name hname.mem_references) htext]
  refine ⟨fun chain h => ?_, fun hacyclic chain h => ?_, fun c name hreaches hname hmem => ?_⟩
  · obtain ⟨c, name, hreaches, hname, hmem, rfl⟩ := compileFiles_eq_cycle_iff.mp h
    refine ⟨c, name, hreaches, hname, by simp [Call.chain], fun hnodup => ?_⟩
    rw [List.nodup_append] at hnodup
    exact hnodup.2.2 name (hname_mem hreaches hname hmem) name (List.mem_singleton_self _) rfl
  · obtain ⟨c, name, hreaches, hname, hmem, -⟩ := compileFiles_eq_cycle_iff.mp h
    apply hacyclic name
    exact (isWithin_of_reaches hreaches).leads name (hname_mem hreaches hname hmem) name
      hname.mem_references
  · refine compileFiles_eq_cycle_iff.mpr ⟨c, name, hreaches, hname, ?_, by simp [Call.chain]⟩
    exact List.mem_map_of_mem hmem

/-- An engine with three stored queries, two of which refer to the third one. -/
def forkEngine : Engine where
  dialect := .sqlite
  filters := .empty
  queries := .ofList
    [(⟨"s", "left"⟩, "\x7b\"named_query\":[\"s\",\"end\"]\x7d"),
      (⟨"s", "right"⟩, "\x7b\"named_query\":[\"s\",\"end\"]\x7d"),
      (⟨"s", "end"⟩, "\x7b\"basic_files\":\x7b\x7d\x7d")]

/-- All of the three queries. -/
def forkTree : Node :=
  .union [.named (some "s") "left", .named (some "s") "right", .named (some "s") "end"]

theorem keys_fork :
    forkEngine.queries.keys = [⟨"s", "end"⟩, ⟨"s", "left"⟩, ⟨"s", "right"⟩] := by
  decide +kernel

theorem resolve_left :
    forkEngine.queries.resolve ⟨"s", "left"⟩ = .ok (.named (some "s") "end") :=
  NamedQueries.resolve_of_write (by decide +kernel) (by decide) (by decide)

theorem resolve_right :
    forkEngine.queries.resolve ⟨"s", "right"⟩ = .ok (.named (some "s") "end") :=
  NamedQueries.resolve_of_write (by decide +kernel) (by decide) (by decide)

theorem resolve_end : forkEngine.queries.resolve ⟨"s", "end"⟩ = .ok .everyFile :=
  NamedQueries.resolve_of_write (by decide +kernel) (by decide) (by decide)

theorem eq_of_refersTo_fork (h : forkEngine.RefersTo {} name other) :
    name ≠ ⟨"s", "end"⟩ ∧ other = ⟨"s", "end"⟩ := by
  obtain ⟨node, hnode, hother⟩ := h
  have hmem := mem_keys_of_resolve hnode
  simp only [keys_fork, List.mem_cons, List.not_mem_nil, or_false] at hmem
  rcases hmem with rfl | rfl | rfl
  · cases resolve_end.symm.trans hnode
    cases hother
  · cases resolve_left.symm.trans hnode
    exact ⟨by decide, List.mem_singleton.mp hother⟩
  · cases resolve_right.symm.trans hnode
    exact ⟨by decide, List.mem_singleton.mp hother⟩

theorem cycle_of_injOn_text_fork :
    Set.InjOn QueryName.text (forkEngine.mentioned {} forkTree) ∧ forkEngine.IsAcyclic {} ∧
      ∀ chain, forkEngine.compileFiles {} forkTree .ids ≠ .error (.namedQueryCycle chain) := by
  have hinj : Set.InjOn QueryName.text (forkEngine.mentioned {} forkTree) := by
    apply injOn_text.mono
    have htree : forkTree.references {} =
        [⟨"s", "left"⟩, ⟨"s", "right"⟩, ⟨"s", "end"⟩] := rfl
    rintro name (hkey | hreference | ⟨stored, hstored⟩)
    · rw [keys_fork] at hkey
      revert name
      decide
    · rw [htree] at hreference
      revert name
      decide
    · rw [(eq_of_refersTo_fork hstored).2]
      decide
  have hacyclic : forkEngine.IsAcyclic {} := by
    apply isAcyclic_of_rank fun name => if name = ⟨"s", "end"⟩ then 0 else 1
    intro name other h
    obtain ⟨hname, hother⟩ := eq_of_refersTo_fork h
    simp [hname, hother]
  exact ⟨hinj, hacyclic, (cycle_of_injOn_text .ids hinj).2.1 hacyclic⟩

/-- An engine whose two stored queries have the same text as name; the one refers to the other
one, which refers to none. -/
def sharedTextEngine : Engine where
  dialect := .sqlite
  filters := .empty
  queries := .ofList
    [(⟨"a:b", "c"⟩, "\x7b\"named_query\":[\"a\",\"b:c\"]\x7d"),
      (⟨"a", "b:c"⟩, "\x7b\"file_list\":\x7b\"ids\":[\"x\"]\x7d\x7d")]

theorem resolve_first :
    sharedTextEngine.queries.resolve ⟨"a:b", "c"⟩ = .ok (.named (some "a") "b:c") :=
  NamedQueries.resolve_of_write (by decide +kernel) (by decide) (by decide)

theorem resolve_second :
    sharedTextEngine.queries.resolve ⟨"a", "b:c"⟩ = .ok (.list (.ids ["x"])) :=
  NamedQueries.resolve_of_write (by decide +kernel) (by decide) (by decide)

/-- A name with a colon in its namespace is taken for another one: a cycle is reported where
there is none. -/
theorem compileFiles_eq_cycle_shared_text :
    sharedTextEngine.IsAcyclic {} ∧
      sharedTextEngine.compileFiles {} (.named (some "a:b") "c") .ids =
        .error (.namedQueryCycle ["a:b:c", "a:b:c"]) ∧
      ∀ c name, sharedTextEngine.Reaches {} (.root .ids (.named (some "a:b") "c")) c →
        c.RefersTo {} name → name ∉ c.expanding := by
  have hrefers (name other : QueryName) (h : sharedTextEngine.RefersTo {} name other) :
      name = ⟨"a:b", "c"⟩ ∧ other = ⟨"a", "b:c"⟩ := by
    obtain ⟨node, hnode, hother⟩ := h
    have hkeys : sharedTextEngine.queries.keys = [⟨"a", "b:c"⟩, ⟨"a:b", "c"⟩] := by
      decide +kernel
    have hmem := mem_keys_of_resolve hnode
    simp only [hkeys, List.mem_cons, List.not_mem_nil, or_false] at hmem
    rcases hmem with rfl | rfl
    · cases resolve_second.symm.trans hnode
      cases hother
    · cases resolve_first.symm.trans hnode
      exact ⟨rfl, List.mem_singleton.mp hother⟩
  have hacyclic : sharedTextEngine.IsAcyclic {} := by
    apply isAcyclic_of_rank fun name => if name = ⟨"a:b", "c"⟩ then 1 else 0
    intro name other h
    obtain ⟨rfl, rfl⟩ := hrefers name other h
    decide
  have hexpansion : sharedTextEngine.Calls {} (.root .ids (.named (some "a:b") "c"))
      ⟨[⟨"a:b", "c"⟩], .ids, .named (some "a") "b:c"⟩ :=
    .expansion ⟨some "a:b", rfl, rfl⟩ List.not_mem_nil resolve_first rfl
  refine ⟨hacyclic, compileFiles_eq_cycle_iff.mpr ⟨_, ⟨"a", "b:c"⟩, .single hexpansion,
    ⟨some "a", rfl, rfl⟩, by decide, rfl⟩, fun c name hreaches hname hmem => ?_⟩
  apply hacyclic name
  exact (isWithin_of_reaches hreaches).leads name hmem name hname.mem_references

end CatalogQuery
