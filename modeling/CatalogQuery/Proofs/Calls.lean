/-
The calls of a compilation.  A call compiles a tree while some stored queries are being
expanded; it calls for each operand that the ones before it let it come to, and a reference
calls for the tree that is stored under its name.  A call fails where one that it reaches does,
and only a reference to a name that is being expanded makes a cycle of stored queries.
-/
import CatalogQuery.Proofs.Operands
import Mathlib.Data.Set.Finite.Lattice
import Mathlib.Logic.Relation

namespace CatalogQuery

open Sql (ColumnSet)

/-- A tree to be compiled, the columns needed of it and the names that are being expanded, the
outermost one first. -/
structure Call where
  expanding : List QueryName
  needs : ColumnSet
  node : Node

namespace Call

def root (needs : ColumnSet) (node : Node) : Call := ⟨[], needs, node⟩

/-- The texts of the names that are being expanded. -/
def chain (c : Call) : List String := c.expanding.map QueryName.text

/-- The tree is a reference to the stored query of this name. -/
def RefersTo (o : Options) (c : Call) (name : QueryName) : Prop :=
  ∃ space, c.node = .named space name.name ∧
    o.requireSpace space "named query reference" = .ok name.space

end Call

namespace Engine

def compileCall (e : Engine) (o : Options) (c : Call) : Except Failure Compiled :=
  e.compileNode o (e.expandNamed o c.chain) c.needs c.node

/-- The first call makes the second one. -/
inductive Calls (e : Engine) (o : Options) : Call → Call → Prop
  /-- Operands are compiled in turn, each one after those before it have been compiled. -/
  | operand {c : Call} {before after : List (ColumnSet × Node)} {needs : ColumnSet} {node : Node}
    (hsplit : c.node.operands e c.needs = before ++ (needs, node) :: after)
    (hbefore : ∀ p ∈ before, ∃ r, e.compileCall o ⟨c.expanding, p.1, p.2⟩ = .ok r) :
    Calls e o c ⟨c.expanding, needs, node⟩
  /-- The tree of a stored query is compiled in the place of its name. -/
  | expansion {c : Call} {name : QueryName} {node : Node} (hname : c.RefersTo o name)
    (hfresh : name.text ∉ c.chain) (hnode : e.queries.resolve name = .ok node)
    (htype : node.type = .file) : Calls e o c ⟨c.expanding ++ [name], c.needs, node⟩

/-- The first call makes the second one, or leads to it by the calls it makes. -/
abbrev Reaches (e : Engine) (o : Options) : Call → Call → Prop :=
  Relation.ReflTransGen (e.Calls o)

end Engine

variable {e : Engine} {o : Options} {c d : Call} {name : QueryName}

theorem compileCall_root (needs : ColumnSet) (node : Node) :
    e.compileCall o (.root needs node) = e.compileFiles o node needs := rfl

theorem chain_append (c : Call) (name : QueryName) (needs : ColumnSet) (node : Node) :
    Call.chain ⟨c.expanding ++ [name], needs, node⟩ = c.chain ++ [name.text] :=
  List.map_append

theorem compileCall_of_refersTo (h : c.RefersTo o name) :
    e.compileCall o c = e.expandNamed o c.chain name c.needs := by
  obtain ⟨expanding, needs, node⟩ := c
  obtain ⟨space, rfl, hspace⟩ := h
  rw [Engine.compileCall, Engine.compileNode, hspace]
  rfl

/-- A reference to a name whose text is that of a name being expanded is a cycle. -/
theorem compileCall_of_mem (h : c.RefersTo o name) (hmem : name.text ∈ c.chain) :
    e.compileCall o c = .error (.namedQueryCycle (c.chain ++ [name.text])) := by
  rw [compileCall_of_refersTo h, Engine.expandNamed, dif_pos hmem]

/-- A reference to another name becomes what the stored tree becomes. -/
theorem compileCall_of_not_mem {node : Node} (h : c.RefersTo o name)
    (hfresh : name.text ∉ c.chain) (hnode : e.queries.resolve name = .ok node)
    (htype : node.type = .file) :
    e.compileCall o c = e.compileCall o ⟨c.expanding ++ [name], c.needs, node⟩ := by
  rw [compileCall_of_refersTo h, Engine.expandNamed, dif_neg hfresh, Engine.compileCall,
    chain_append]
  split
  · rename_i hother
    cases hother.symm.trans hnode
  · rename_i hother
    cases hother.symm.trans hnode
    rw [if_neg (not_not_intro htype)]

/-- A reference to a stored query that selects no files is a mismatch. -/
theorem compileCall_of_type_ne {node : Node} (h : c.RefersTo o name)
    (hfresh : name.text ∉ c.chain) (hnode : e.queries.resolve name = .ok node)
    (htype : node.type ≠ .file) :
    e.compileCall o c = .error (.queryTypeMismatch QueryType.file.name node.kind) := by
  rw [compileCall_of_refersTo h, Engine.expandNamed, dif_neg hfresh]
  split
  · rename_i hother
    cases hother.symm.trans hnode
  · rename_i hother
    cases hother.symm.trans hnode
    rw [if_pos htype]
    rfl

/-- A reference to a query that cannot be looked up fails as looking it up does. -/
theorem compileCall_of_unresolved {f : Failure} (h : c.RefersTo o name)
    (hfresh : name.text ∉ c.chain) (hresolve : e.queries.resolve name = .error f) :
    e.compileCall o c = .error f := by
  rw [compileCall_of_refersTo h, Engine.expandNamed, dif_neg hfresh]
  split
  · rename_i hother
    cases hother.symm.trans hresolve
    rfl
  · rename_i hother
    cases hother.symm.trans hresolve

theorem compileCall_eq (h : ∀ space name, c.node ≠ .named space name) :
    e.compileCall o c = (c.node.operands e c.needs).mapM
      (fun p => e.compileCall o ⟨c.expanding, p.1, p.2⟩) >>= e.finish o c.needs c.node :=
  compileNode_eq _ h c.needs

/-- What a call fails with, each one that makes it fails with. -/
theorem Engine.Calls.error (h : e.Calls o c d) {f : Failure}
    (hd : e.compileCall o d = .error f) : e.compileCall o c = .error f := by
  cases h with
  | operand hsplit hbefore =>
      have hnode : ∀ space name, c.node ≠ .named space name := by
        intro space name hnamed
        rw [hnamed] at hsplit
        simp [Node.operands] at hsplit
      rw [compileCall_eq hnode, mapM_eq_error_iff.mpr ⟨_, _, _, hsplit, hbefore, hd⟩]
      rfl
  | expansion hname hfresh hnode htype =>
      rw [compileCall_of_not_mem hname hfresh hnode htype]
      exact hd

theorem error_of_reaches (h : e.Reaches o c d) {f : Failure}
    (hd : e.compileCall o d = .error f) : e.compileCall o c = .error f := by
  induction h using Relation.ReflTransGen.head_induction_on with
  | refl => exact hd
  | head hstep _ ih => exact hstep.error ih

/-- A call fails with this, whatever the calls become that it makes. -/
inductive Call.Raises (e : Engine) (o : Options) (c : Call) : Failure → Prop
  /-- Its tree says something wrong. -/
  | own {f : Failure} (hown : f.IsOwn) : Raises e o c f
  /-- Its tree selects no files. -/
  | mismatch (htype : c.node.type ≠ .file) :
    Raises e o c (.queryTypeMismatch QueryType.file.name c.node.kind)
  /-- The datasets that its tree selects the files of cannot be selected. -/
  | datasets {query : Node} {f : Failure} (hnode : c.node = .filesOf query)
    (hdatasets : e.compileDatasets o query = .error f) : Raises e o c f
  /-- It refers to a stored query that selects no files. -/
  | stored {name : QueryName} {node : Node} (hname : c.RefersTo o name)
    (hnode : e.queries.resolve name = .ok node) (htype : node.type ≠ .file) :
    Raises e o c (.queryTypeMismatch QueryType.file.name node.kind)
  /-- It refers to a name whose text is that of one being expanded. -/
  | cycle {name : QueryName} (hname : c.RefersTo o name) (hmem : name.text ∈ c.chain) :
    Raises e o c (.namedQueryCycle (c.chain ++ [name.text]))
  /-- It refers to a query that cannot be looked up. -/
  | unresolved {name : QueryName} {f : Failure} (hname : c.RefersTo o name)
    (hresolve : e.queries.resolve name = .error f) : Raises e o c f

/-- A reference fails for itself, or becomes what a call becomes that it makes. -/
theorem compileCall_of_named {space : Option String} {own : String}
    (hnode : c.node = .named space own) :
    (∃ f, e.compileCall o c = .error f ∧ c.Raises e o f) ∨
      ∃ d, e.Calls o c d ∧ e.compileCall o c = e.compileCall o d := by
  cases hspace : o.requireSpace space "named query reference" with
  | error f =>
      have hfails : e.compileCall o c = .error f := by
        rw [Engine.compileCall, hnode, Engine.compileNode, hspace]
        rfl
      exact Or.inl ⟨f, hfails, .own (failsOnOwn_requireSpace o space _ f hspace)⟩
  | ok home =>
      have hrefers : c.RefersTo o ⟨home, own⟩ := ⟨space, hnode, hspace⟩
      by_cases hmem : QueryName.text ⟨home, own⟩ ∈ c.chain
      · exact Or.inl ⟨_, compileCall_of_mem hrefers hmem, .cycle hrefers hmem⟩
      cases hresolve : e.queries.resolve ⟨home, own⟩ with
      | error f =>
          exact Or.inl ⟨f, compileCall_of_unresolved hrefers hmem hresolve,
            .unresolved hrefers hresolve⟩
      | ok node =>
          by_cases htype : node.type = .file
          · exact Or.inr ⟨_, .expansion hrefers hmem hresolve htype,
              compileCall_of_not_mem hrefers hmem hresolve htype⟩
          · exact Or.inl ⟨_, compileCall_of_type_ne hrefers hmem hresolve htype,
              .stored hrefers hresolve htype⟩

/-- A call fails for itself, or as a call does that it makes. -/
theorem failure_origin {f : Failure} (h : e.compileCall o c = .error f) :
    c.Raises e o f ∨ ∃ d, e.Calls o c d ∧ e.compileCall o d = .error f := by
  by_cases hnamed : ∃ space own, c.node = .named space own
  · obtain ⟨space, own, hnode⟩ := hnamed
    rcases compileCall_of_named (e := e) (o := o) hnode with ⟨failure, hfails, hown⟩ | hcall
    · obtain rfl : failure = f := Except.error.inj (hfails.symm.trans h)
      exact Or.inl hown
    · obtain ⟨d, hstep, hsame⟩ := hcall
      exact Or.inr ⟨d, hstep, hsame.symm.trans h⟩
  · have hnode : ∀ space own, c.node ≠ .named space own :=
      fun space own hn => hnamed ⟨space, own, hn⟩
    rw [compileCall_eq hnode] at h
    cases hoperands : (c.node.operands e c.needs).mapM
        (fun p => e.compileCall o ⟨c.expanding, p.1, p.2⟩) with
    | error failure =>
        rw [hoperands] at h
        cases h
        obtain ⟨before, p, after, hsplit, hbefore, hp⟩ := mapM_eq_error_iff.mp hoperands
        exact Or.inr ⟨_, .operand hsplit hbefore, hp⟩
    | ok cs =>
        rw [hoperands] at h
        rcases failsOnly_finish hnode c.needs cs f h with hown | ⟨htype, rfl⟩ | hdatasets
        · exact Or.inl (.own hown)
        · exact Or.inl (.mismatch htype)
        · obtain ⟨query, hquery, hdatasets⟩ := hdatasets
          exact Or.inl (.datasets hquery hdatasets)

/-- A stored query that cannot be looked up is missing or cannot be read. -/
theorem eq_of_resolve_eq_error {queries : NamedQueries} {f : Failure}
    (h : queries.resolve name = .error f) :
    f = .unknownNamedQuery name.space name.name ∨
      f = .invalidNamedQuerySource name.space name.name := by
  simp only [NamedQueries.resolve] at h
  split at h
  · cases h
    exact Or.inl rfl
  · split at h
    · cases h
    · cases h
      exact Or.inr rfl

/-- A call that reports a cycle is at a reference to a name that is being expanded, or makes a
call that reports it. -/
theorem cycle_origin {chain : List String}
    (h : e.compileCall o c = .error (.namedQueryCycle chain)) :
    (∃ name, c.RefersTo o name ∧ name.text ∈ c.chain ∧ chain = c.chain ++ [name.text]) ∨
      ∃ d, e.Calls o c d ∧ e.compileCall o d = .error (.namedQueryCycle chain) := by
  refine (failure_origin h).imp_left fun hraises => ?_
  cases hraises with
  | own hown => exact hown.elim
  | datasets hnode hdatasets =>
      exact absurd hdatasets ((failsLocally_compileDatasets _).noCycle chain)
  | cycle hname hmem => exact ⟨_, hname, hmem, rfl⟩
  | unresolved hname hresolve => rcases eq_of_resolve_eq_error hresolve with hf | hf <;> cases hf

theorem mem_fileOperands_of_split {before after : List (ColumnSet × Node)} {needs : ColumnSet}
    {node : Node} (hsplit : c.node.operands e c.needs = before ++ (needs, node) :: after) :
    node ∈ c.node.fileOperands := by
  have hmem : (needs, node) ∈ c.node.operands e c.needs := by simp [hsplit]
  exact mem_fileOperands_of_mem_operands hmem

/-- A call goes from a tree to a part of it. -/
theorem Engine.Calls.hasPart (h : e.Calls o c d) : e.HasPart o c.node d.node := by
  cases h with
  | operand hsplit hbefore => exact .operand (mem_fileOperands_of_split hsplit)
  | expansion hname hfresh hresolve htype =>
      obtain ⟨space, hnode, hspace⟩ := hname
      rw [hnode]
      exact .stored (stored?_eq_some_iff.mpr ⟨_, hspace, hresolve⟩)

/-- A call makes one with fewer names left to be expanded, or one with a smaller tree. -/
theorem Engine.Calls.decreases (h : e.Calls o c d) :
    (e.queries.unexpanded d.chain).length < (e.queries.unexpanded c.chain).length ∨
      d.expanding = c.expanding ∧ sizeOf d.node < sizeOf c.node := by
  cases h with
  | operand hsplit hbefore =>
      exact Or.inr ⟨rfl, sizeOf_lt_of_mem_fileOperands (mem_fileOperands_of_split hsplit)⟩
  | expansion hname hfresh hnode htype =>
      left
      rw [chain_append]
      exact NamedQueries.length_unexpanded_lt hfresh hnode

/-- No calls lead on without end. -/
theorem wellFounded_calls (e : Engine) (o : Options) :
    WellFounded fun d c : Call => e.Calls o c d := by
  apply Subrelation.wf (r := InvImage (Prod.Lex (· < ·) (· < ·)) fun c : Call =>
    ((e.queries.unexpanded c.chain).length, sizeOf c.node)) ?_
    (InvImage.wf _ (WellFounded.prod_lex Nat.lt_wfRel.wf Nat.lt_wfRel.wf))
  intro d c h
  rcases h.decreases with hfewer | ⟨hsame, hsmaller⟩
  · exact Prod.Lex.left _ _ hfewer
  · have hchain : d.chain = c.chain := congrArg (List.map QueryName.text) hsame
    rw [InvImage, hchain]
    exact Prod.Lex.right _ hsmaller

/-- What holds of a tree and what it becomes, for a reference if it holds of the stored tree and for
any other tree if it holds of its operands for files, holds of all that calls become. -/
theorem compileCall_induction {p : Node → Compiled → Prop}
    (hstored : ∀ space name node r, e.stored? o space name = some node → node.type = .file →
      p node r → p (.named space name) r)
    (hfinish : ∀ needs node cs r, (∀ space name, node ≠ .named space name) →
      List.Forall₂ p node.fileOperands cs → e.finish o needs node cs = .ok r → p node r)
    {r : Compiled} (h : e.compileCall o c = .ok r) : p c.node r := by
  induction c using (wellFounded_calls e o).induction generalizing r with
  | _ c ih =>
      by_cases hnamed : ∃ space own, c.node = .named space own
      · obtain ⟨space, own, hnode⟩ := hnamed
        rcases compileCall_of_named (e := e) (o := o) hnode with ⟨f, hfails, -⟩ | hcall
        · cases h.symm.trans hfails
        · obtain ⟨d, hstep, hsame⟩ := hcall
          have hd := ih d hstep (hsame.symm.trans h)
          cases hstep with
          | operand hsplit => simp [hnode, Node.operands] at hsplit
          | expansion hname hfresh hresolve htype =>
              obtain ⟨space, hrefers, hspace⟩ := hname
              rw [hrefers]
              exact hstored _ _ _ r (stored?_eq_some_iff.mpr ⟨_, hspace, hresolve⟩) htype hd
      · have hnode : ∀ space own, c.node ≠ .named space own :=
          fun space own hn => hnamed ⟨space, own, hn⟩
        rw [compileCall_eq hnode] at h
        obtain ⟨cs, hcs, hr⟩ := bind_eq_ok_iff.mp h
        refine hfinish c.needs c.node cs r hnode ?_ hr
        rw [← map_snd_operands hr, List.forall₂_map_left_iff]
        refine ((List.forall₂_and_left _ _).mpr ⟨fun p hp => hp, forall₂_of_mapM hcs⟩).imp ?_
        rintro p operand ⟨hp, hcompile⟩
        obtain ⟨before, after, hsplit⟩ := List.append_of_mem hp
        refine ih _ (.operand hsplit fun q hq => ?_) hcompile
        exact exists_mapM_iff.mp ⟨cs, hcs⟩ q (by simp [hsplit, hq])

/-- A cycle is reported for a reference that is reached while its name is being expanded. -/
theorem exists_of_cycle {chain : List String}
    (h : e.compileCall o c = .error (.namedQueryCycle chain)) :
    ∃ d name, e.Reaches o c d ∧ d.RefersTo o name ∧ name.text ∈ d.chain ∧
      chain = d.chain ++ [name.text] := by
  induction c using (wellFounded_calls e o).induction with
  | _ c ih =>
      rcases cycle_origin h with ⟨name, hname, hmem, hchain⟩ | ⟨d, hstep, hd⟩
      · exact ⟨c, name, .refl, hname, hmem, hchain⟩
      · obtain ⟨last, name, hreaches, hlast⟩ := ih d hstep hd
        exact ⟨last, name, .head hstep hreaches, hlast⟩

theorem Call.RefersTo.eq {other : QueryName} (h : c.RefersTo o name) (hother : c.RefersTo o other) :
    name = other := by
  obtain ⟨space, hnode, hspace⟩ := h
  obtain ⟨space', hnode', hspace'⟩ := hother
  obtain ⟨rfl, hname⟩ := Node.named.inj (hnode.symm.trans hnode')
  have hown := Except.ok.inj (hspace.symm.trans hspace')
  cases name
  cases other
  rw [QueryName.mk.injEq]
  exact ⟨hown, hname⟩

/-- A call makes finitely many calls. -/
theorem finite_calls (e : Engine) (o : Options) (c : Call) : {d | e.Calls o c d}.Finite := by
  have hoperands : ((fun p : ColumnSet × Node => Call.mk c.expanding p.1 p.2) ''
      {p | p ∈ c.node.operands e c.needs}).Finite :=
    (c.node.operands e c.needs).finite_toSet.image _
  have hexpansions : {d : Call | ∃ name node, c.RefersTo o name ∧
      e.queries.resolve name = .ok node ∧
      d = ⟨c.expanding ++ [name], c.needs, node⟩}.Subsingleton := by
    rintro d ⟨name, node, hname, hnode, rfl⟩ d' ⟨other, node', hother, hnode', rfl⟩
    cases hname.eq hother
    cases hnode.symm.trans hnode'
    rfl
  apply (hoperands.union hexpansions.finite).subset
  intro d hd
  cases hd with
  | @operand before after needs node hsplit hbefore =>
      have hmem : (needs, node) ∈ c.node.operands e c.needs := by simp [hsplit]
      exact Or.inl ⟨_, hmem, rfl⟩
  | expansion hname hfresh hnode htype => exact Or.inr ⟨_, _, hname, hnode, rfl⟩

/-- A call reaches finitely many calls. -/
theorem finite_reaches (e : Engine) (o : Options) (c : Call) : {d | e.Reaches o c d}.Finite := by
  induction c using (wellFounded_calls e o).induction with
  | _ c ih =>
      have hsplit : {d | e.Reaches o c d} =
          {c} ∪ ⋃ d ∈ {d | e.Calls o c d}, {last | e.Reaches o d last} := by
        ext last
        have hcases := Relation.ReflTransGen.cases_head_iff (r := e.Calls o) (a := c) (b := last)
        rw [eq_comm] at hcases
        simpa [Engine.Reaches] using hcases
      rw [hsplit]
      exact (Set.finite_singleton c).union ((finite_calls e o c).biUnion fun d hd => ih d hd)

end CatalogQuery
