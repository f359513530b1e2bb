/-
Types of queries.  Each place of a tree asks for a query of one type, and a reference to a stored
query is one for files as long as the stored tree is.  A tree that has queries of the wrong type
somewhere is never compiled, and a mismatch is only reported for a place that has one.
-/
import CatalogQuery.Proofs.Calls
import CatalogQuery.Proofs.StoredQueries

namespace CatalogQuery

open Sql (ColumnSet)

namespace Engine

/-- The tree is a query of the type, and everything in it is one of the type that is asked for at
its place: a reference needs a stored query for files that is itself well typed. -/
inductive IsTyped (e : Engine) (o : Options) : QueryType → Node → Prop
  | reference {space : Option String} {name : String} {stored : Node}
    (hstored : e.stored? o space name = some stored) (h : IsTyped e o .file stored) :
    IsTyped e o .file (.named space name)
  | tree {type : QueryType} {node : Node} (hnamed : ∀ space name, node ≠ .named space name)
    (htype : node.type = type) (hfiles : ∀ part ∈ node.fileOperands, IsTyped e o .file part)
    (hdatasets : ∀ part ∈ node.datasetOperands, IsTyped e o .dataset part) :
    IsTyped e o type node

/-- The tree is no query of the type, or some tree that it leads to is none of the type that is
asked for at its place. -/
inductive IsMistyped (e : Engine) (o : Options) : QueryType → Node → Prop
  | here {type : QueryType} {node : Node} (htype : node.type ≠ type) : IsMistyped e o type node
  | inPart {type : QueryType} {node part : Node} (hpart : e.HasPart o node part)
    (h : IsMistyped e o .file part) : IsMistyped e o type node
  | inDatasets {type : QueryType} {node part : Node} (hpart : part ∈ node.datasetOperands)
    (h : IsMistyped e o .dataset part) : IsMistyped e o type node

end Engine

variable {e : Engine} {o : Options} {node : Node} {type : QueryType}

theorem Engine.IsTyped.not_isMistyped (h : e.IsTyped o type node) : ¬e.IsMistyped o type node := by
  induction h with
  | reference hstored _ ih =>
      intro hmis
      cases hmis with
      | here htype => exact htype rfl
      | inPart hpart h =>
          cases (hasPart_named_iff.mp hpart).symm.trans hstored
          exact ih h
      | inDatasets hpart h => cases hpart
  | tree hnamed htype _ _ ihfiles ihdatasets =>
      intro hmis
      cases hmis with
      | here hother => exact hother htype
      | inPart hpart h => exact ihfiles _ ((hasPart_iff_mem hnamed).mp hpart) h
      | inDatasets hpart h => exact ihdatasets _ hpart h

/-- A query for datasets is well typed if its parts are. -/
theorem Engine.IsTyped.ofDatasets (htype : node.type = .dataset)
    (h : ∀ part ∈ node.datasetOperands, e.IsTyped o .dataset part) :
    e.IsTyped o .dataset node := by
  refine .tree ?_ htype (fun part hpart => ?_) h
  · rintro space name rfl
    cases htype
  · cases node with
    | datasets selector | datasetsHaving query predicate | datasetUnion parts => cases hpart
    | _ => cases htype

/-- What is compiled as a query for datasets is one, and so are all its parts. -/
theorem isTyped_of_compileDatasets :
    (∀ node, (∃ q, e.compileDatasets o node = .ok q) → e.IsTyped o .dataset node) ∧
      ∀ parts, (∃ queries, e.compileDatasetParts o parts = .ok queries) →
        ∀ part ∈ parts, e.IsTyped o .dataset part := by
  apply Engine.compileDatasets.mutual_induct
  case case1 =>
    intro selector _
    exact .ofDatasets rfl (List.forall_mem_nil _)
  case case2 =>
    rintro query predicate ih ⟨q, h⟩
    rw [Engine.compileDatasets] at h
    obtain ⟨inner, hinner, -⟩ := bind_eq_ok_iff.mp h
    exact .ofDatasets rfl (List.forall_mem_singleton.mpr (ih ⟨inner, hinner⟩))
  case case3 =>
    rintro parts ih ⟨q, h⟩
    rw [Engine.compileDatasets] at h
    obtain ⟨queries, hqueries, -⟩ := bind_eq_ok_iff.mp h
    exact .ofDatasets rfl (ih ⟨queries, hqueries⟩)
  case case4 =>
    rintro other hdatasets hhaving hunion ⟨q, h⟩
    rw [Engine.compileDatasets.eq_4 e o other hdatasets hhaving hunion] at h
    cases h
  case case5 => exact fun _ => List.forall_mem_nil _
  case case6 =>
    rintro part rest hpart hrest ⟨queries, h⟩
    rw [Engine.compileDatasetParts] at h
    obtain ⟨first, hfirst, h⟩ := bind_eq_ok_iff.mp h
    obtain ⟨others, hothers, -⟩ := bind_eq_ok_iff.mp h
    exact List.forall_mem_cons.mpr ⟨hpart ⟨first, hfirst⟩, hrest ⟨others, hothers⟩⟩

/-- A mismatch in a query for datasets has a place. -/
theorem isMistyped_of_compileDatasets {needed found : String}
    (h : e.compileDatasets o node = .error (.queryTypeMismatch needed found)) :
    e.IsMistyped o .dataset node := by
  have hall := (failsOnly_compileDatasets_induction (e := e) (o := o)
    (p := fun node f => f = .queryTypeMismatch needed found → e.IsMistyped o .dataset node)
    (fun node f hown hf => by subst hf; exact hown.elim)
    (fun node htype _ => .here htype)
    (fun node operand f hoperand ih hf => .inDatasets hoperand (ih hf))).1
  exact hall node _ h rfl

/-- What becomes something once its operands are compiled is a query for files. -/
theorem type_of_finish {needs : ColumnSet} {cs : List Compiled} {r : Compiled}
    (h : e.finish o needs node cs = .ok r) : node.type = .file := by
  cases node with
  | datasets selector | datasetsHaving query predicate | datasetUnion parts
  | namedQueries space pattern => cases h
  | everyFile | filesOf query | named space name | list files | union operands | join operands
  | minus left right | parentsOf query | childrenOf query | limit query count
  | skip query count | metaFilter query predicate | filter call inputs => rfl

theorem isTyped_datasetOperand_of_finish {needs : ColumnSet} {cs : List Compiled} {r : Compiled}
    (h : e.finish o needs node cs = .ok r) :
    ∀ part ∈ node.datasetOperands, e.IsTyped o .dataset part := by
  cases node with
  | filesOf query =>
      obtain ⟨datasets, hdatasets, -⟩ := bind_eq_ok_iff.mp h
      exact List.forall_mem_singleton.mpr (isTyped_of_compileDatasets.1 query ⟨datasets, hdatasets⟩)
  | datasets selector | datasetsHaving query predicate | datasetUnion parts
  | namedQueries space pattern => cases h
  | everyFile | named space name | list files | union operands | join operands
  | minus left right | parentsOf query | childrenOf query | limit query count
  | skip query count | metaFilter query predicate | filter call inputs => exact nofun

theorem isTyped_of_compileFiles {needs : ColumnSet} {c : Compiled}
    (h : e.compileFiles o node needs = .ok c) : e.IsTyped o .file node := by
  rw [← compileCall_root] at h
  refine compileCall_induction (c := .root needs node)
    (p := fun node _ => e.IsTyped o .file node) ?_ ?_ h
  · intro space name stored _ hstored _ ih
    exact .reference hstored ih
  · intro needs node cs r hnamed hoperands hr
    refine .tree hnamed (type_of_finish hr) (fun part hpart => ?_)
      (isTyped_datasetOperand_of_finish hr)
    obtain ⟨-, -, htyped⟩ := exists_of_mem_of_forall₂ hoperands.flip hpart
    exact htyped

/-- A mismatch in a query for files has a place. -/
theorem isMistyped_of_compileCall {c : Call} {needed found : String}
    (h : e.compileCall o c = .error (.queryTypeMismatch needed found)) :
    e.IsMistyped o .file c.node := by
  induction c using (wellFounded_calls e o).induction with
  | _ c ih =>
      rcases failure_origin h with hraises | ⟨d, hstep, hd⟩
      · cases hraises with
        | own hown => exact hown.elim
        | mismatch htype => exact .here htype
        | datasets hnode hdatasets =>
            rw [hnode]
            exact .inDatasets List.mem_cons_self (isMistyped_of_compileDatasets hdatasets)
        | stored hname hresolve htype =>
            obtain ⟨space, hnode, hspace⟩ := hname
            rw [hnode]
            exact .inPart (.stored (stored?_eq_some_iff.mpr ⟨_, hspace, hresolve⟩)) (.here htype)
        | unresolved hname hresolve =>
            rcases eq_of_resolve_eq_error hresolve with hf | hf <;> cases hf
      · exact .inPart hstep.hasPart (ih d hstep hd)

/-- A tree that is compiled is well typed, and one that is rejected because of a mismatch has a
query of the wrong type somewhere, so that it is not well typed; this holds for queries for files
and for queries for datasets. -/
theorem isTyped_of_compiles (e : Engine) (o : Options) (node : Node) :
    (∀ needs c, e.compileFiles o node needs = .ok c → e.IsTyped o .file node) ∧
      (∀ needs needed found,
        e.compileFiles o node needs = .error (.queryTypeMismatch needed found) →
          e.IsMistyped o .file node ∧ ¬e.IsTyped o .file node) ∧
      (∀ q, e.compileDatasets o node = .ok q → e.IsTyped o .dataset node) ∧
      ∀ needed found, e.compileDatasets o node = .error (.queryTypeMismatch needed found) →
        e.IsMistyped o .dataset node ∧ ¬e.IsTyped o .dataset node := by
  refine ⟨fun needs c h => isTyped_of_compileFiles h, fun needs needed found h => ?_,
    fun q h => isTyped_of_compileDatasets.1 node ⟨q, h⟩, fun needed found h => ?_⟩
  · have hmis : e.IsMistyped o .file node := isMistyped_of_compileCall (c := .root needs node) h
    exact ⟨hmis, fun htyped => htyped.not_isMistyped hmis⟩
  · have hmis := isMistyped_of_compileDatasets h
    exact ⟨hmis, fun htyped => htyped.not_isMistyped hmis⟩

/-- An engine with a stored query for datasets and one for their files. -/
def selectionEngine : Engine where
  dialect := .sqlite
  filters := .empty
  queries := .ofList
    [(⟨"s", "runs"⟩, "\x7b\"dataset_ref\":\x7b\"namespace\":\"s\",\"name\":\"run\"\x7d\x7d"),
      (⟨"s", "files"⟩, "\x7b\"basic_files\":\x7b\"datasets\":" ++
        "\x7b\"dataset_ref\":\x7b\"namespace\":\"s\",\"name\":\"run\"\x7d\x7d\x7d\x7d")]

theorem resolve_runs :
    selectionEngine.queries.resolve ⟨"s", "runs"⟩ = .ok (.dataset "s" "run") :=
  NamedQueries.resolve_of_write (by decide +kernel) (by decide) (by decide)

theorem resolve_files :
    selectionEngine.queries.resolve ⟨"s", "files"⟩ = .ok (.filesOf (.dataset "s" "run")) :=
  NamedQueries.resolve_of_write (by decide +kernel) (by decide) (by decide)

/-- A condition that always holds on the stored query for files. -/
def unconditionalTree : Node :=
  .metaFilter (.named (some "s") "files") (.and [])

/-- A union of nothing but the stored query for datasets. -/
def misplacedTree : Node :=
  .union [.named (some "s") "runs"]

theorem isTyped_of_compiles_selection :
    ((∃ c, selectionEngine.compileFiles {} unconditionalTree .ids = .ok c) ∧
        selectionEngine.IsTyped {} .file unconditionalTree) ∧
      (selectionEngine.compileFiles {} misplacedTree .ids =
          .error (.queryTypeMismatch "file" "dataset_ref") ∧
        selectionEngine.IsMistyped {} .file misplacedTree ∧
        ¬selectionEngine.IsTyped {} .file misplacedTree) ∧
      ((∃ q, selectionEngine.compileDatasets {} (.datasetUnion [.dataset "s" "run"]) = .ok q) ∧
        selectionEngine.IsTyped {} .dataset (.datasetUnion [.dataset "s" "run"])) ∧
      selectionEngine.compileDatasets {} (.datasetUnion [.everyFile]) =
          .error (.queryTypeMismatch "dataset" "basic_files") ∧
        selectionEngine.IsMistyped {} .dataset (.datasetUnion [.everyFile]) ∧
        ¬selectionEngine.IsTyped {} .dataset (.datasetUnion [.everyFile]) := by
  have hfiles : selectionEngine.compileCall {} (.root .ids (.named (some "s") "files")) =
      selectionEngine.compileCall {} ⟨[⟨"s", "files"⟩], .ids, .filesOf (.dataset "s" "run")⟩ :=
    compileCall_of_not_mem ⟨some "s", rfl, rfl⟩ (by decide) resolve_files rfl
  have htyped : ∃ c, selectionEngine.compileFiles {} unconditionalTree .ids = .ok c := by
    have hpassed : selectionEngine.compileFiles {} unconditionalTree .ids =
        selectionEngine.compileCall {} (.root .ids (.named (some "s") "files")) := rfl
    rw [hpassed, hfiles]
    exact ⟨_, rfl⟩
  have hmismatch : selectionEngine.compileFiles {} misplacedTree .ids =
      .error (.queryTypeMismatch "file" "dataset_ref") := by
    have hruns : selectionEngine.compileCall {} (.root .ids (.named (some "s") "runs")) =
        .error (.queryTypeMismatch "file" "dataset_ref") :=
      compileCall_of_type_ne ⟨some "s", rfl, rfl⟩ (by decide) resolve_runs nofun
    have hunion : selectionEngine.compileFiles {} misplacedTree .ids =
        [Call.root .ids (.named (some "s") "runs")].mapM (selectionEngine.compileCall {}) >>=
          selectionEngine.finish {} .ids misplacedTree :=
      compileNode_eq _ (by simp [misplacedTree]) .ids
    rw [hunion, List.mapM_cons, hruns]
    rfl
  obtain ⟨c, hc⟩ := htyped
  have hall := isTyped_of_compiles selectionEngine {}
  exact ⟨⟨⟨c, hc⟩, (hall _).1 _ _ hc⟩, ⟨hmismatch, (hall _).2.1 _ _ _ hmismatch⟩,
    ⟨⟨_, rfl⟩, (hall _).2.2.1 _ rfl⟩, rfl, (hall _).2.2.2 _ _ rfl⟩

end CatalogQuery
