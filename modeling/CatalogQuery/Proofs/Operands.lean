/-
The operands of a query tree.  Compiling a tree compiles its operands in turn, each with the
columns that are needed of it, and then makes one compiled query of what they became; only a
reference is compiled by expanding a stored query.  What is done besides fails only for what is
wrong with the tree itself, so that it never reports a cycle of stored queries.
-/
import CatalogQuery.Proofs.Backing
import CatalogQuery.Proofs.Faults
import CatalogQuery.Proofs.Parts

namespace CatalogQuery

open Sql (ColumnSet SetOperation)

/-- The failure concerns what a tree says besides its operands: a predicate, a list of files, the
name of a filter or a namespace. -/
def Failure.IsOwn : Failure → Prop
  | .unknownFilter _ | .malformedPredicate .. | .predicateTooComplex | .invalidOperand ..
  | .missingNamespace _ => True
  | _ => False

/-- The failure concerns a tree alone, and not the stored queries that it refers to. -/
def Failure.IsLocal : Failure → Prop
  | .queryTypeMismatch .. | .unknownFilter _ | .malformedPredicate .. | .predicateTooComplex
  | .invalidOperand .. | .missingNamespace _ => True
  | _ => False

theorem Failure.IsOwn.isLocal {f : Failure} (h : f.IsOwn) : f.IsLocal := by
  cases f <;> first | exact trivial | exact h.elim

/-- What the computation fails with concerns what a tree says besides its operands. -/
abbrev FailsOnOwn {α : Type} (x : Except Failure α) : Prop :=
  FailsOnly Failure.IsOwn x

/-- What the computation fails with concerns a tree alone. -/
abbrev FailsLocally {α : Type} (x : Except Failure α) : Prop :=
  FailsOnly Failure.IsLocal x

/-- A cycle of stored queries is not what the computation fails with. -/
def NoCycle {α : Type} (x : Except Failure α) : Prop :=
  ∀ chain, x ≠ .error (.namedQueryCycle chain)

theorem FailsOnly.noCycle {α : Type} {x : Except Failure α} (h : FailsLocally x) : NoCycle x :=
  fun chain hx => h (.namedQueryCycle chain) hx

section Predicates

theorem failsOnOwn_toNnfUnder (negated : Bool) (p : Predicate) :
    FailsOnOwn (p.toNnfUnder negated) := by
  intro f hf
  have hfirst := (p.stopsAt_toNnfUnder negated).eq_error_iff.mp hf
  rcases Predicate.isBlamedBy_of_mem_faults (List.mem_of_head? hfirst) with
    ⟨l, -, -, fault, rfl⟩ | rfl
  · trivial
  · trivial

mutual

theorem failsOnOwn_distribute : ∀ n : Nnf, FailsOnOwn (Dnf.distribute n)
  | .atom a => .ok [[a]]
  | .or args => by
      rw [Dnf.distribute]
      exact failsOnOwn_distributeOr [] args
  | .and args => by
      rw [Dnf.distribute]
      exact failsOnOwn_distributeAnd [[]] args

theorem failsOnOwn_distributeOr (terms : List (List Atom)) :
    ∀ args : List Nnf, FailsOnOwn (Dnf.distributeOr terms args)
  | [] => .ok terms
  | n :: rest => by
      rw [Dnf.distributeOr]
      refine (failsOnOwn_distribute n).bind fun more => ?_
      dsimp only
      split
      · exact .error trivial
      · exact failsOnOwn_distributeOr _ rest

theorem failsOnOwn_distributeAnd (terms : List (List Atom)) :
    ∀ args : List Nnf, FailsOnOwn (Dnf.distributeAnd terms args)
  | [] => .ok terms
  | n :: rest => by
      rw [Dnf.distributeAnd]
      apply (failsOnOwn_distribute n).bind
      intro right
      split
      · exact .ok []
      · split
        · exact .error trivial
        · exact failsOnOwn_distributeAnd _ rest

end

theorem failsOnOwn_normalize (p : Predicate) : FailsOnOwn p.normalize :=
  (failsOnOwn_toNnfUnder false p).bind fun n => (failsOnOwn_distribute n).bind fun _ => .ok _

theorem failsOnOwn_condition? (dialect : Sql.Dialect) (document : Sql.Expr) (d : Dnf) :
    FailsOnOwn (Sql.condition? dialect document d) := by
  unfold Sql.condition?
  split
  · exact .error trivial
  · exact .ok _

end Predicates

section Leaves

variable {e : Engine} {o : Options}

theorem failsOnOwn_requireSpace (o : Options) (space : Option String) (subject : String) :
    FailsOnOwn (o.requireSpace space subject) := by
  unfold Options.requireSpace
  split
  · exact .ok _
  · exact .error trivial

theorem failsOnOwn_readDid (o : Options) (did : String) :
    FailsOnOwn (Engine.readDid o did) := by
  unfold Engine.readDid
  split
  · exact .ok _
  · exact (failsOnOwn_requireSpace o none "did").map _

theorem failsOnOwn_compileList (o : Options) (needs : ColumnSet) (files : FileList) :
    FailsOnOwn (Engine.compileList o needs files) := by
  cases files with
  | ids ids =>
      rw [Engine.compileList]
      split
      · exact .error trivial
      · exact .ok _
  | dids dids =>
      rw [Engine.compileList]
      apply (FailsOnly.mapM (failsOnOwn_readDid o) dids).bind
      intro pairs
      split
      · exact .error trivial
      · exact .ok _
  | names space names =>
      cases names with
      | nil => exact .error trivial
      | cons first rest => exact (failsOnOwn_requireSpace o space _).bind fun _ => .ok _

theorem failsOnOwn_filterMetadata (p : Predicate) (s : FileSet) :
    FailsOnOwn (s.filterMetadata p) := by
  unfold FileSet.filterMetadata
  split
  · apply (failsOnOwn_normalize p).bind
    intro form
    split
    · exact .ok s
    · exact (failsOnOwn_condition? _ _ _).bind fun _ => .ok _
  · exact (failsOnOwn_toNnfUnder false p).bind fun _ => .ok _

theorem failsOnOwn_compileCondition (predicate : Predicate) (form : Dnf) (needs : ColumnSet)
    (c : Compiled) : FailsOnOwn (e.compileCondition predicate form needs c) := by
  cases c with
  | query inner => exact (failsOnOwn_condition? _ _ _).bind fun _ => .ok _
  | records files => exact (failsOnOwn_filterMetadata predicate files).bind fun _ => .ok _

/-- What a query for datasets fails with is said by one of its trees, or is that one of them stands
where datasets are to be selected and selects none. -/
theorem failsOnly_compileDatasets_induction {p : Node → Failure → Prop}
    (hown : ∀ node f, f.IsOwn → p node f)
    (hmismatch : ∀ node : Node, node.type ≠ .dataset →
      p node (.queryTypeMismatch QueryType.dataset.name node.kind))
    (hoperand : ∀ node operand f, operand ∈ node.datasetOperands → p operand f → p node f) :
    (∀ node, FailsOnly (p node) (e.compileDatasets o node)) ∧
      ∀ parts, FailsOnly (fun f => ∃ part ∈ parts, p part f) (e.compileDatasetParts o parts) := by
  apply Engine.compileDatasets.mutual_induct
  case case1 =>
    intro selector
    rw [Engine.compileDatasets]
    exact ((failsOnOwn_requireSpace o _ _).mono (hown _)).bind fun _ => .ok _
  case case2 =>
    intro query predicate ih
    rw [Engine.compileDatasets]
    apply (ih.mono fun f => hoperand _ query f (List.mem_singleton_self _)).bind
    intro inner
    apply ((failsOnOwn_normalize predicate).mono (hown _)).bind
    intro form
    split
    · exact .ok inner
    · exact ((failsOnOwn_condition? _ _ _).mono (hown _)).bind fun _ => .ok _
  case case3 =>
    intro parts ih
    rw [Engine.compileDatasets]
    have hparts : FailsOnly (p (.datasetUnion parts)) (e.compileDatasetParts o parts) := by
      refine ih.mono fun f hsome => ?_
      obtain ⟨part, hpart, hf⟩ := hsome
      exact hoperand _ part f hpart hf
    apply hparts.bind
    intro queries
    split
    · exact .error (hown _ _ trivial)
    · exact .ok _
    · exact .ok _
  case case4 =>
    intro other hdatasets hhaving hunion
    rw [Engine.compileDatasets.eq_4 e o other hdatasets hhaving hunion]
    apply FailsOnly.error
    apply hmismatch
    cases other with
    | datasets selector => exact absurd rfl (hdatasets selector)
    | datasetsHaving query predicate => exact absurd rfl (hhaving query predicate)
    | datasetUnion parts => exact absurd rfl (hunion parts)
    | _ =>
        intro htype
        cases htype
  case case5 => exact .ok []
  case case6 =>
    intro part rest hpart hrest
    rw [Engine.compileDatasetParts]
    refine FailsOnly.bind (hpart.mono fun f hf => ?_) fun _ =>
      FailsOnly.bind (hrest.mono fun f hsome => ?_) fun _ => .ok _
    · exact ⟨part, List.mem_cons_self, hf⟩
    · obtain ⟨other, hother, hf⟩ := hsome
      exact ⟨other, List.mem_cons_of_mem part hother, hf⟩

/-- No stored query is expanded in a query for datasets. -/
theorem failsLocally_compileDatasets (node : Node) : FailsLocally (e.compileDatasets o node) :=
  (failsOnly_compileDatasets_induction (p := fun _ f => f.IsLocal) (fun _ _ h => h.isLocal)
    (fun _ _ => trivial) (fun _ _ _ _ h => h)).1 node

end Leaves

/-- Trees with the columns that are needed of them: of the first one those in `needs`, and
those in `later` of the others. -/
def eachWith (needs later : ColumnSet) : List Node → List (ColumnSet × Node)
  | [] => []
  | operand :: rest => (needs, operand) :: rest.map fun other => (later, other)

theorem eachWith_same (needs : ColumnSet) (operands : List Node) :
    eachWith needs needs operands = operands.map fun other => (needs, other) := by
  cases operands <;> rfl

/-- The operands that are compiled in turn for a tree, with the columns needed of each. -/
def Node.operands (e : Engine) (needs : ColumnSet) : Node → List (ColumnSet × Node)
  | .union operands => eachWith needs needs operands
  | .join operands => eachWith needs .ids operands
  | .minus left right => [(needs, left), (.ids, right)]
  | .parentsOf query | .childrenOf query => [(.ids, query)]
  | .limit query _ | .skip query _ => [(needs, query)]
  | .metaFilter query predicate =>
    match predicate.normalize with
    | .error _ => []
    | .ok .always => [(needs, query)]
    | .ok _ => [(needs.withMetadata, query)]
  | .filter call inputs =>
    match e.filters.get? call.name with
    | none => []
    | some _ => eachWith needs.withMetadata needs.withMetadata inputs
  | .everyFile | .filesOf _ | .named _ _ | .list _ | .datasets _ | .datasetsHaving _ _
  | .datasetUnion _ | .namedQueries _ _ => []

theorem map_snd_eachWith (needs later : ColumnSet) (operands : List Node) :
    (eachWith needs later operands).map Prod.snd = operands := by
  cases operands with
  | nil => rfl
  | cons operand rest =>
      rw [eachWith, List.map_cons, List.map_map]
      exact congrArg (operand :: ·) rest.map_id

section Compiling

variable {e : Engine} {o : Options}

/-- What is done with the only operand. -/
def Engine.onlyOne (k : Compiled → Except Failure Compiled) :
    List Compiled → Except Failure Compiled
  | [c] => k c
  | _ => .error (.invalidOperand "" .noOperand)

def Engine.combineAll (e : Engine) (o : Options) (op : SetOperation) (needs : ColumnSet)
    (subject : String) : List Compiled → Except Failure Compiled
  | [] => .error (.invalidOperand subject .noOperand)
  | first :: rest => .ok (e.combine o op needs first rest)

/-- What a tree becomes once its operands are compiled. -/
def Engine.finish (e : Engine) (o : Options) (needs : ColumnSet) (node : Node)
    (operands : List Compiled) : Except Failure Compiled :=
  match node with
  | .everyFile => .ok (.query (.everyFile e.dialect none o.includeRetired needs))
  | .filesOf query => do
    let datasets ← e.compileDatasets o query
    return .query (.everyFile e.dialect (some datasets) o.includeRetired needs)
  | .list files => return .query (← compileList o needs files)
  | .union _ => e.combineAll o .union needs node.kind operands
  | .join _ => e.combineAll o .intersect needs node.kind operands
  | .minus _ _ => e.combineAll o .except needs node.kind operands
  | .parentsOf _ => onlyOne (fun c => .ok (c.step .parents needs)) operands
  | .childrenOf _ => onlyOne (fun c => .ok (c.step .children needs)) operands
  | .limit _ count =>
    onlyOne
      (fun
        | .query inner => .ok (.query (inner.limit count needs))
        | .records files => .ok (.records (files.limit count)))
      operands
  | .skip _ count =>
    onlyOne
      (fun
        | .query inner => .ok (.query (inner.skip e.dialect count needs))
        | .records files => .ok (.records (files.skip count)))
      operands
  | .metaFilter _ predicate => do
    match ← predicate.normalize with
    | .always => onlyOne .ok operands
    | form => onlyOne (e.compileCondition predicate form needs) operands
  | .filter call _ =>
    match e.filters.get? call.name with
    | none => .error (.unknownFilter call.name)
    | some filter =>
      let inputs := operands.map (Compiled.files e o "filter")
      let records := filter.run call.name inputs call.toArguments
      .ok (.records ⟨e.dialect, o.debug, .stream records⟩)
  | other => mismatch .file other

theorem exists_of_onlyOne {k : Compiled → Except Failure Compiled} {cs : List Compiled}
    {r : Compiled} (h : Engine.onlyOne k cs = .ok r) : ∃ c, cs = [c] ∧ k c = .ok r := by
  match cs with
  | [] => cases h
  | [c] => exact ⟨c, rfl, h⟩
  | _ :: _ :: _ => cases h

theorem failsOnOwn_onlyOne {k : Compiled → Except Failure Compiled}
    (hk : ∀ c, FailsOnOwn (k c)) (cs : List Compiled) : FailsOnOwn (Engine.onlyOne k cs) := by
  unfold Engine.onlyOne
  split
  · exact hk _
  · exact .error trivial

theorem failsOnOwn_combineAll (op : SetOperation) (needs : ColumnSet) (subject : String)
    (cs : List Compiled) : FailsOnOwn (e.combineAll o op needs subject cs) := by
  cases cs with
  | nil => exact .error trivial
  | cons first rest => exact .ok _

/-- What is wrong once the operands are compiled is said by the tree itself, or it selects no files,
or the datasets that it selects the files of cannot be selected. -/
theorem failsOnly_finish {node : Node} (hnode : ∀ space name, node ≠ .named space name)
    (needs : ColumnSet) (cs : List Compiled) :
    FailsOnly (fun f => f.IsOwn ∨
      (node.type ≠ .file ∧ f = .queryTypeMismatch QueryType.file.name node.kind) ∨
      ∃ query, node = .filesOf query ∧ e.compileDatasets o query = .error f)
      (e.finish o needs node cs) := by
  cases node with
  | everyFile => exact .ok _
  | filesOf query =>
      have hdatasets : FailsOnly (fun f => e.compileDatasets o query = .error f)
          (e.compileDatasets o query) := fun _ h => h
      exact (hdatasets.mono fun f h => Or.inr (Or.inr ⟨query, rfl, h⟩)).bind fun _ => .ok _
  | list files =>
      exact ((failsOnOwn_compileList o needs files).bind fun _ => .ok _).mono fun _ => .inl
  | union operands | join operands | minus left right =>
      exact (failsOnOwn_combineAll _ needs _ cs).mono fun _ => .inl
  | parentsOf query | childrenOf query =>
      exact (failsOnOwn_onlyOne (fun _ => .ok _) cs).mono fun _ => .inl
  | limit query count | skip query count =>
      refine (failsOnOwn_onlyOne (fun c => ?_) cs).mono fun _ => .inl
      cases c <;> exact .ok _
  | metaFilter query predicate =>
      refine ((failsOnOwn_normalize predicate).bind fun form => ?_).mono fun _ => .inl
      split
      · exact failsOnOwn_onlyOne .ok cs
      · exact failsOnOwn_onlyOne (failsOnOwn_compileCondition predicate _ needs) cs
  | filter call inputs =>
      unfold Engine.finish
      dsimp only
      split
      · exact .error (Or.inl trivial)
      · exact .ok _
  | named space name => exact absurd rfl (hnode space name)
  | datasets selector | datasetsHaving query predicate | datasetUnion parts
  | namedQueries space pattern =>
      refine .error (Or.inr (Or.inl ⟨fun htype => ?_, rfl⟩))
      cases htype

/-- All operands for files of a tree are compiled, or none are and the tree becomes nothing. -/
theorem operands_cases (e : Engine) (needs : ColumnSet) (node : Node) :
    (node.operands e needs).map Prod.snd = node.fileOperands ∨
      node.operands e needs = [] ∧ ∀ o cs r, e.finish o needs node cs ≠ .ok r := by
  cases node with
  | union operands | join operands => exact Or.inl (map_snd_eachWith _ _ operands)
  | metaFilter query predicate =>
      cases hform : predicate.normalize with
      | error f =>
          refine Or.inr ⟨by simp only [Node.operands, hform], fun o cs r h => ?_⟩
          simp only [Engine.finish, hform] at h
          cases h
      | ok form =>
          left
          cases form <;>
            simp only [Node.operands, hform, Node.fileOperands, List.map_cons, List.map_nil]
  | filter call inputs =>
      cases hfilter : e.filters.get? call.name with
      | none =>
          refine Or.inr ⟨by simp only [Node.operands, hfilter], fun o cs r h => ?_⟩
          simp only [Engine.finish, hfilter] at h
          cases h
      | some filter =>
          left
          simp only [Node.operands, hfilter, map_snd_eachWith, Node.fileOperands]
  | minus left right | parentsOf query | childrenOf query | limit query count
  | skip query count | everyFile | filesOf query | named space name | list files
  | datasets selector | datasetsHaving query predicate | datasetUnion parts
  | namedQueries space pattern => exact Or.inl rfl

theorem map_snd_operands {node : Node} {needs : ColumnSet} {cs : List Compiled} {r : Compiled}
    (h : e.finish o needs node cs = .ok r) :
    (node.operands e needs).map Prod.snd = node.fileOperands :=
  (operands_cases e needs node).resolve_right fun hnone => hnone.2 o cs r h

theorem mem_fileOperands_of_mem_operands {needs : ColumnSet} {node : Node}
    {p : ColumnSet × Node} (h : p ∈ node.operands e needs) : p.2 ∈ node.fileOperands := by
  rcases operands_cases e needs node with hall | ⟨hnil, -⟩
  · exact hall ▸ List.mem_map_of_mem h
  · rw [hnil] at h
    cases h

section Trees

variable (expand : QueryName → ColumnSet → Except Failure Compiled)

theorem compileOperands_eq_mapM (needs later : ColumnSet) (operands : List Node) :
    e.compileOperands o expand needs later operands =
      (eachWith needs later operands).mapM fun p => e.compileNode o expand p.1 p.2 := by
  induction operands generalizing needs with
  | nil => rfl
  | cons operand rest ih =>
      rw [Engine.compileOperands, eachWith, List.mapM_cons, ih, eachWith_same]

theorem mapM_onlyOne {α : Type} (f : α → Except Failure Compiled) (a : α)
    (k : Compiled → Except Failure Compiled) : ([a].mapM f >>= Engine.onlyOne k) = f a >>= k := by
  rw [List.mapM_cons, List.mapM_nil]
  cases f a <;> rfl

/-- A tree that is no reference is compiled by compiling its operands in turn. -/
theorem compileNode_eq {node : Node} (h : ∀ space name, node ≠ .named space name)
    (needs : ColumnSet) :
    e.compileNode o expand needs node =
      (node.operands e needs).mapM (fun p => e.compileNode o expand p.1 p.2) >>=
        e.finish o needs node := by
  cases node with
  | named space name => exact absurd rfl (h space name)
  | everyFile | datasets selector | datasetsHaving query predicate | datasetUnion parts
  | namedQueries space pattern => rfl
  | filesOf query | list files =>
      rw [Engine.compileNode]
      rfl
  | union operands | join operands =>
      rw [Engine.compileNode, compileOperands_eq_mapM]
      rfl
  | minus left right =>
      rw [Engine.compileNode, Node.operands, List.mapM_cons, List.mapM_cons, List.mapM_nil]
      cases e.compileNode o expand needs left with
      | error f => rfl
      | ok first => cases e.compileNode o expand .ids right <;> rfl
  | parentsOf query =>
      rw [compileNode_parentsOf]
      exact (mapM_onlyOne _ _ _).symm
  | childrenOf query =>
      rw [compileNode_childrenOf]
      exact (mapM_onlyOne _ _ _).symm
  | limit query count | skip query count =>
      rw [Engine.compileNode]
      exact (mapM_onlyOne _ _ _).symm
  | metaFilter query predicate =>
      have hfinish : e.finish o needs (.metaFilter query predicate) = fun operands =>
          predicate.normalize >>= fun
            | .always => Engine.onlyOne .ok operands
            | form => Engine.onlyOne (e.compileCondition predicate form needs) operands := rfl
      rw [Engine.compileNode, Node.operands, hfinish]
      match predicate.normalize with
      | .error f => rfl
      | .ok .always =>
          refine Eq.trans ?_ (mapM_onlyOne _ _ _).symm
          exact (bind_pure (e.compileNode o expand needs query)).symm
      | .ok .never => exact (mapM_onlyOne _ _ _).symm
      | .ok (.anyOf conjunctions) => exact (mapM_onlyOne _ _ _).symm
  | filter call inputs =>
      rw [Engine.compileNode, Node.operands]
      cases hfilter : e.filters.get? call.name with
      | none =>
          simp only [List.mapM_nil, pure_bind, Engine.finish, hfilter]
      | some filter =>
          dsimp only
          rw [compileOperands_eq_mapM]
          congr 1
          funext operands
          rw [Engine.finish, hfilter]
          rfl

end Trees

end Compiling

end CatalogQuery
