/-
Queries and streams as backings of the same set.  Wrapping some subtrees of a tree of set
operations and steps in a filter that keeps every record turns queries into streams there and
above, and changes neither the set nor the failure that the tree is rejected with.
-/
import CatalogQuery.Proofs.Meaning
import Mathlib.Data.Set.Insert

namespace CatalogQuery

open Sql (CatalogFile ColumnSet Database)

variable {db : Database} {store : Responses} {e : Engine} {o : Options}

mutual

/-- The second tree is the first one, which is made of set operations and steps, with some
of its subtrees wrapped in filters that keep every record. -/
inductive Wraps (filters : FilterRegistry) : Node → Node → Prop
  | everyFile : Wraps filters .everyFile .everyFile
  | filesOf (query : Node) : Wraps filters (.filesOf query) (.filesOf query)
  | list (files : FileList) : Wraps filters (.list files) (.list files)
  | union {operands wrapped : List Node} (h : WrapsAll filters operands wrapped) :
    Wraps filters (.union operands) (.union wrapped)
  | join {operands wrapped : List Node} (h : WrapsAll filters operands wrapped) :
    Wraps filters (.join operands) (.join wrapped)
  | minus {left right wrappedLeft wrappedRight : Node} (hleft : Wraps filters left wrappedLeft)
    (hright : Wraps filters right wrappedRight) :
    Wraps filters (.minus left right) (.minus wrappedLeft wrappedRight)
  | parentsOf {query wrapped : Node} (h : Wraps filters query wrapped) :
    Wraps filters (.parentsOf query) (.parentsOf wrapped)
  | childrenOf {query wrapped : Node} (h : Wraps filters query wrapped) :
    Wraps filters (.childrenOf query) (.childrenOf wrapped)
  | identity {node wrapped : Node} {call : FilterCall} (hcall : call.IsIdentity filters)
    (h : Wraps filters node wrapped) : Wraps filters node (.filter call [wrapped])

/-- Each tree of a list is wrapped in the other list at its place. -/
inductive WrapsAll (filters : FilterRegistry) : List Node → List Node → Prop
  | nil : WrapsAll filters [] []
  | cons {node wrapped : Node} {nodes others : List Node} (h : Wraps filters node wrapped)
    (hrest : WrapsAll filters nodes others) :
    WrapsAll filters (node :: nodes) (wrapped :: others)

end

section Trees

variable {expand : QueryName → ColumnSet → Except Failure Compiled}

theorem compileNode_parentsOf (needs : ColumnSet) (query : Node) :
    e.compileNode o expand needs (.parentsOf query) =
      e.compileNode o expand .ids query >>= fun c => .ok (c.step .parents needs) := by
  rw [Engine.compileNode]
  congr 1
  funext c
  cases c <;> rfl

theorem compileNode_childrenOf (needs : ColumnSet) (query : Node) :
    e.compileNode o expand needs (.childrenOf query) =
      e.compileNode o expand .ids query >>= fun c => .ok (c.step .children needs) := by
  rw [Engine.compileNode]
  congr 1
  funext c
  cases c <;> rfl

theorem compileNode_identity {call : FilterCall} (h : call.IsIdentity e.filters)
    (needs : ColumnSet) (node : Node) :
    e.compileNode o expand needs (.filter call [node]) =
      e.compileNode o expand needs.withMetadata node >>= fun c =>
        .ok (.records ⟨e.dialect, o.debug, .stream
          (Filter.run Filter.everyNth call.name [c.files e o "filter"] call.toArguments)⟩) := by
  rw [Engine.compileNode, h.filter]
  simp only [Engine.compileOperands]
  cases e.compileNode o expand needs.withMetadata node <;> rfl

mutual

/-- A well-formed tree and the wrapped one become compiled queries that both have the files
that the tree stands for, as long as the queries for datasets in it are answered; other trees are
rejected with the same failure. -/
theorem agree_compileNode (hstore : store.Answers db) (hdialect : db.dialect = e.dialect) :
    ∀ {node wrapped : Node}, Wraps e.filters node wrapped → ∀ needs others : ColumnSet,
      Agree (node.IsWellFormed e o)
        (BothDenote db store (node.DatasetsAnswered e o db) (node.meaning e o db store))
        (e.compileNode o expand needs node) (e.compileNode o expand others wrapped)
  | _, _, .everyFile, needs, others => by
      rw [Engine.compileNode, Engine.compileNode, Node.IsWellFormed, Node.meaning, ← hdialect]
      exact .ok trivial fun _ =>
        ⟨Sql.selects_everyFile o.includeRetired, Sql.selects_everyFile o.includeRetired⟩
  | _, _, .filesOf query, needs, others => by
      rw [Engine.compileNode, Engine.compileNode, Node.IsWellFormed]
      exact agree_filesOf hstore hdialect query needs others
  | _, _, .list files, needs, others => by
      rw [Engine.compileNode, Engine.compileNode, Node.IsWellFormed, Node.meaning]
      apply (agree_compileList files needs others).map
      intro a b h _
      exact h
  | _, _, @Wraps.union _ operands _ h, needs, others => by
      rw [Engine.compileNode, Engine.compileNode, Node.IsWellFormed, Node.meaning,
        Node.DatasetsAnswered, ← meanings_ne_nil_iff operands]
      apply (agree_compileOperands hstore hdialect h needs needs others others).bind
      intro cs ds hall
      refine agree_combineAll hstore .union ?_ hall
      intro first rest hsets
      rw [hsets, FileSet.foldl_union]
  | _, _, @Wraps.join _ operands _ h, needs, others => by
      rw [Engine.compileNode, Engine.compileNode, Node.IsWellFormed, Node.meaning,
        Node.DatasetsAnswered, ← meanings_ne_nil_iff operands]
      apply (agree_compileOperands hstore hdialect h needs .ids others .ids).bind
      intro cs ds hall
      refine agree_combineAll hstore .intersect ?_ hall
      intro first rest hsets
      rw [hsets, FileSet.foldl_intersect]
  | _, _, .minus hleft hright, needs, others => by
      rw [Engine.compileNode, Engine.compileNode, Node.IsWellFormed, Node.meaning,
        Node.DatasetsAnswered]
      apply (agree_compileNode hstore hdialect hleft needs others).bind
      intro a b hab
      apply (agree_compileNode hstore hdialect hright .ids .ids).map
      rintro c d hcd ⟨hanswered, hanswered'⟩
      obtain ⟨ha, hb⟩ := hab hanswered
      obtain ⟨hc, hd⟩ := hcd hanswered'
      exact ⟨ha.combine hstore (.cons hc .nil) .except needs,
        hb.combine hstore (.cons hd .nil) .except others⟩
  | _, _, .parentsOf h, needs, others => by
      rw [compileNode_parentsOf, compileNode_parentsOf, Node.IsWellFormed, Node.meaning,
        Node.DatasetsAnswered]
      apply (agree_compileNode hstore hdialect h .ids .ids).map
      intro a b hab hanswered
      obtain ⟨ha, hb⟩ := hab hanswered
      exact ⟨ha.step hstore .parents needs, hb.step hstore .parents others⟩
  | _, _, .childrenOf h, needs, others => by
      rw [compileNode_childrenOf, compileNode_childrenOf, Node.IsWellFormed, Node.meaning,
        Node.DatasetsAnswered]
      apply (agree_compileNode hstore hdialect h .ids .ids).map
      intro a b hab hanswered
      obtain ⟨ha, hb⟩ := hab hanswered
      exact ⟨ha.step hstore .children needs, hb.step hstore .children others⟩
  | _, _, .identity hcall h, needs, others => by
      rw [compileNode_identity hcall]
      apply (agree_compileNode hstore hdialect h needs others.withMetadata).map_right
      intro a b hab hanswered
      obtain ⟨ha, hb⟩ := hab hanswered
      exact ⟨ha, denotes_identity hcall ((hb.files (e := e) (o := o) "filter").stream hstore)⟩

/-- The same for the operands of a set operation. -/
theorem agree_compileOperands (hstore : store.Answers db) (hdialect : db.dialect = e.dialect) :
    ∀ {operands wrapped : List Node}, WrapsAll e.filters operands wrapped →
      ∀ needs later others afterwards : ColumnSet,
        Agree (Node.AllWellFormed e o operands)
          (AllDenote db store (Node.AllDatasetsAnswered e o db operands)
            (Node.meanings e o db store operands))
          (e.compileOperands o expand needs later operands)
          (e.compileOperands o expand others afterwards wrapped)
  | _, _, .nil, needs, later, others, afterwards => by
      rw [Engine.compileOperands, Engine.compileOperands, Node.AllWellFormed, Node.meanings]
      exact .ok trivial ⟨rfl, rfl, fun _ => ⟨.nil, .nil⟩⟩
  | _, _, .cons h hrest, needs, later, others, afterwards => by
      rw [Engine.compileOperands, Engine.compileOperands, Node.AllWellFormed, Node.meanings,
        Node.AllDatasetsAnswered]
      apply (agree_compileNode hstore hdialect h needs others).bind
      intro a b hab
      apply (agree_compileOperands hstore hdialect hrest later later afterwards afterwards).map
      intro cs ds hall
      exact .cons hab hall

end

end Trees

/-- A tree of set operations and steps that is well formed has, however its subtrees are
wrapped and whichever columns are needed, the files of the set that it stands for, each once, as
long as the queries for datasets in it are answered; one that is not well formed is rejected with
the same failure. -/
theorem compileFiles_of_wraps (hstore : store.Answers db) (hdialect : db.dialect = e.dialect)
    {node wrapped : Node} (h : Wraps e.filters node wrapped) (o : Options) (needs : ColumnSet)
    (context : String) :
    (node.IsWellFormed e o → ∃ c d, e.compileFiles o node needs = .ok c ∧
        e.compileFiles o wrapped needs = .ok d ∧
        (node.DatasetsAnswered e o db →
          (c.files e o context).stream.Denotes store (node.meaning e o db store) ∧
          (d.files e o context).stream.Denotes store (node.meaning e o db store))) ∧
      (¬node.IsWellFormed e o → ∃ f, e.compileFiles o node needs = .error f ∧
        e.compileFiles o wrapped needs = .error f) := by
  have hagree : Agree (node.IsWellFormed e o)
      (BothDenote db store (node.DatasetsAnswered e o db) (node.meaning e o db store))
      (e.compileFiles o node needs) (e.compileFiles o wrapped needs) :=
    agree_compileNode hstore hdialect h needs needs
  generalize e.compileFiles o node needs = x at hagree ⊢
  generalize e.compileFiles o wrapped needs = y at hagree ⊢
  cases hagree with
  | error hrejected f => exact ⟨fun hwell => absurd hwell hrejected, fun _ => ⟨f, rfl, rfl⟩⟩
  | ok hwell hboth =>
      refine ⟨fun _ => ⟨_, _, rfl, rfl, fun hanswered => ?_⟩,
        fun hrejected => absurd hwell hrejected⟩
      obtain ⟨hleft, hright⟩ := hboth hanswered
      exact ⟨(hleft.files context).stream hstore, (hright.files context).stream hstore⟩

def plainFile (id : String) : CatalogFile where
  id := id
  space := "s"
  name := id
  size := none
  metadata := ⟨"\x7b\x7d", .object [], rfl⟩
  isObject := ⟨_, rfl⟩
  retired := false

def familyStore : Database where
  dialect := .sqlite
  catalog :=
    { files := [plainFile "a", plainFile "b"]
      ids_nodup := by decide
      datasets := []
      memberships := []
      edges := [("a", "b")]
      datasetEdges := []
      parents := fun f =>
        if f.id = "b" then ⟨"[\"a\"]", .array [.string "a"], rfl⟩ else .emptyArray
      parents_value := by
        intro f hf
        simp only [List.mem_cons, List.not_mem_nil, or_false] at hf
        rcases hf with rfl | rfl <;> rfl
      children := fun f =>
        if f.id = "a" then ⟨"[\"b\"]", .array [.string "b"], rfl⟩ else .emptyArray
      children_value := by
        intro f hf
        simp only [List.mem_cons, List.not_mem_nil, or_false] at hf
        rcases hf with rfl | rfl <;> rfl }
  patterns := .standard

/-- An engine that knows the filter for one of every so many records. -/
def familyEngine : Engine where
  dialect := .sqlite
  filters := .ofList [("every_nth", Filter.everyNth)]
  queries := .empty

def everyRecord : FilterCall where
  name := "every_nth"
  positional := [.int 1]

/-- A file and its children. -/
def familyTree : Node :=
  .union [.list (.ids ["a"]), .childrenOf (.list (.ids ["a"]))]

/-- The same with a stream among the operands and another one below. -/
def wrappedTree : Node :=
  .union [.list (.ids ["a"]),
    .filter everyRecord [.childrenOf (.filter everyRecord [.list (.ids ["a"])])]]

theorem compileFiles_of_wraps_family :
    familyStore.responses.Answers familyStore ∧ familyStore.dialect = familyEngine.dialect ∧
      Wraps familyEngine.filters familyTree wrappedTree ∧
      familyTree.DatasetsAnswered familyEngine {} familyStore ∧
      familyTree.IsWellFormed familyEngine {} ∧
      ∃ c d, familyEngine.compileFiles {} familyTree .ids = .ok c ∧
        familyEngine.compileFiles {} wrappedTree .ids = .ok d ∧
        (c.files familyEngine {} "union").stream.Denotes familyStore.responses {"a", "b"} ∧
        (d.files familyEngine {} "union").stream.Denotes familyStore.responses {"a", "b"} := by
  have hcall : everyRecord.IsIdentity familyEngine.filters := ⟨rfl, rfl, Or.inl rfl⟩
  have hwraps : Wraps familyEngine.filters familyTree wrappedTree :=
    .union (.cons (.list _)
      (.cons (.identity hcall (.childrenOf (.identity hcall (.list _)))) .nil))
  have hmeaning : familyTree.meaning familyEngine {} familyStore familyStore.responses =
      {"a", "b"} := by
    ext id
    have hiff : id ∈ familyTree.meaning familyEngine {} familyStore familyStore.responses ↔
        id = "a" ∨ ("a" = id ∨ "b" = id) ∧ "b" = id := by
      simp [familyTree, Node.meaning, Node.meanings, RecordStream.anyOf, FileList.meaning,
        Sql.Catalog.idsWhere, RecordStream.reached, Sql.Catalog.Steps, Sql.Catalog.Leads,
        Sql.Catalog.IsFile, Sql.Direction.orient, familyStore, plainFile]
    rw [hiff, Set.mem_insert_iff, Set.mem_singleton_iff]
    constructor
    · rintro (rfl | ⟨-, rfl⟩)
      · exact Or.inl rfl
      · exact Or.inr rfl
    · rintro (rfl | rfl)
      · exact Or.inl rfl
      · exact Or.inr ⟨Or.inr rfl, rfl⟩
  have hwell : familyTree.IsWellFormed familyEngine {} := by
    simp [familyTree, Node.IsWellFormed, Node.AllWellFormed, FileList.IsWellFormed]
  have hanswered : familyTree.DatasetsAnswered familyEngine {} familyStore := by
    simp [familyTree, Node.DatasetsAnswered, Node.AllDatasetsAnswered]
  have hfiles := compileFiles_of_wraps familyStore.responses_answers rfl hwraps {} .ids "union"
  rw [hmeaning] at hfiles
  obtain ⟨c, d, hc, hd, hdenotes⟩ := hfiles.1 hwell
  exact ⟨familyStore.responses_answers, rfl, hwraps, hanswered, hwell, c, d, hc, hd,
    hdenotes hanswered⟩

end CatalogQuery
