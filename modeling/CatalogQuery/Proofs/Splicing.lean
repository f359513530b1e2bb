/-
Stored queries in place.  Splicing puts the stored tree where a tree refers to it, and the trees
that this one refers to into it in turn, until no reference is left where files are selected.
Expanding references while a tree is compiled gives what the spliced tree gives: the names being
expanded are only looked at to find a cycle, the type of a stored tree is what its place asks for
anyway, and the columns that are needed are those that the tree is asked for in its place.
-/
import CatalogQuery.Proofs.Depth

namespace CatalogQuery

open Sql (ColumnSet)

/-- The tree with other trees in the places where files are to be selected. -/
def Node.withFileOperands (node : Node) (trees : List Node) : Node :=
  match node with
  | .union _ => .union trees
  | .join _ => .join trees
  | .filter call _ => .filter call trees
  | .minus left right => .minus (trees.getD 0 left) (trees.getD 1 right)
  | .parentsOf query => .parentsOf (trees.getD 0 query)
  | .childrenOf query => .childrenOf (trees.getD 0 query)
  | .limit query count => .limit (trees.getD 0 query) count
  | .skip query count => .skip (trees.getD 0 query) count
  | .metaFilter query predicate => .metaFilter (trees.getD 0 query) predicate
  | other => other

/-- The second tree is the first one with every reference that stands where files are to be
selected replaced by its stored tree, in which the references are replaced in the same way. -/
inductive Engine.Splices (e : Engine) (o : Options) : Node → Node → Prop
  | reference {space : Option String} {name : String} {stored tree : Node}
    (hstored : e.stored? o space name = some stored) (h : Splices e o stored tree) :
    Splices e o (.named space name) tree
  | tree {node : Node} {trees : List Node} (hnamed : ∀ space name, node ≠ .named space name)
    (hlength : node.fileOperands.length = trees.length)
    (h : ∀ p ∈ node.fileOperands.zip trees, Splices e o p.1 p.2) :
    Splices e o node (node.withFileOperands trees)

variable {e : Engine} {o : Options} {node tree : Node} {trees : List Node}

theorem fileOperands_withFileOperands (h : node.fileOperands.length = trees.length) :
    (node.withFileOperands trees).fileOperands = trees := by
  cases node with
  | union operands | join operands | filter call inputs => rfl
  | minus left right =>
      obtain ⟨first, second, rfl⟩ := List.length_eq_two.mp h.symm
      rfl
  | parentsOf query | childrenOf query | limit query count | skip query count
  | metaFilter query predicate =>
      obtain ⟨first, rfl⟩ := List.length_eq_one_iff.mp h.symm
      rfl
  | everyFile | filesOf query | named space name | list files | datasets selector
  | datasetsHaving query predicate | datasetUnion parts | namedQueries space pattern =>
      exact (List.length_eq_zero_iff.mp h.symm).symm

theorem withFileOperands_ne_named (h : ∀ space name, node ≠ .named space name)
    (space : Option String) (name : String) : node.withFileOperands trees ≠ .named space name := by
  cases node with
  | named own other => exact absurd rfl (h own other)
  | _ => exact nofun

theorem withFileOperands_of_type_ne (h : node.type ≠ .file) :
    node.withFileOperands trees = node := by
  cases node with
  | datasets selector | datasetsHaving query predicate | datasetUnion parts
  | namedQueries space pattern => rfl
  | _ => exact absurd rfl h

theorem forall₂_eachWith {r : Node → Node → Prop} {operands : List Node}
    (h : List.Forall₂ r operands trees) (needs later : ColumnSet) :
    List.Forall₂ (fun p q : ColumnSet × Node => p.1 = q.1 ∧ r p.2 q.2)
      (eachWith needs later operands) (eachWith needs later trees) := by
  cases h with
  | nil => exact .nil
  | cons hfirst hrest =>
      refine .cons ⟨rfl, hfirst⟩ ?_
      rw [List.forall₂_map_left_iff, List.forall₂_map_right_iff]
      exact hrest.imp fun _ _ hr => ⟨rfl, hr⟩

/-- The same columns are needed of the trees put in place. -/
theorem forall₂_operands {r : Node → Node → Prop} (h : List.Forall₂ r node.fileOperands trees)
    (needs : ColumnSet) :
    List.Forall₂ (fun p q : ColumnSet × Node => p.1 = q.1 ∧ r p.2 q.2) (node.operands e needs)
      ((node.withFileOperands trees).operands e needs) := by
  cases node with
  | union operands | join operands => exact forall₂_eachWith h _ _
  | minus left right =>
      obtain ⟨first, rest, hfirst, hrest, rfl⟩ := List.forall₂_cons_left_iff.mp h
      obtain ⟨second, others, hsecond, hnone, rfl⟩ := List.forall₂_cons_left_iff.mp hrest
      exact .cons ⟨rfl, hfirst⟩ (.cons ⟨rfl, hsecond⟩ .nil)
  | parentsOf query | childrenOf query | limit query count | skip query count =>
      obtain ⟨first, rest, hfirst, hrest, rfl⟩ := List.forall₂_cons_left_iff.mp h
      exact .cons ⟨rfl, hfirst⟩ .nil
  | metaFilter query predicate =>
      obtain ⟨first, rest, hfirst, hrest, rfl⟩ := List.forall₂_cons_left_iff.mp h
      simp only [Node.withFileOperands, Node.operands]
      split
      · exact .nil
      · exact .cons ⟨rfl, hfirst⟩ .nil
      · exact .cons ⟨rfl, hfirst⟩ .nil
  | filter call inputs =>
      simp only [Node.withFileOperands, Node.operands]
      split
      · exact .nil
      · exact forall₂_eachWith h _ _
  | everyFile | filesOf query | named space name | list files | datasets selector
  | datasetsHaving query predicate | datasetUnion parts | namedQueries space pattern =>
      exact .nil

/-- What is done with the compiled operands does not depend on the trees that they come from. -/
theorem finish_withFileOperands (needs : ColumnSet) :
    e.finish o needs (node.withFileOperands trees) = e.finish o needs node := by
  cases node <;> rfl

namespace Engine.Splices

theorem ofForall₂ (hnamed : ∀ space name, node ≠ .named space name)
    (h : List.Forall₂ (e.Splices o) node.fileOperands trees) :
    e.Splices o node (node.withFileOperands trees) :=
  .tree hnamed h.length_eq fun _ hp => (List.forall₂_iff_zip.mp h).2 hp

theorem exists_forall₂ (h : e.Splices o node tree)
    (hnamed : ∀ space name, node ≠ .named space name) : ∃ trees,
      List.Forall₂ (e.Splices o) node.fileOperands trees ∧ tree = node.withFileOperands trees := by
  cases h with
  | reference hstored _ => exact absurd rfl (hnamed _ _)
  | @tree _ trees _ hlength hall =>
      exact ⟨trees, List.forall₂_iff_zip.mpr ⟨hlength, fun hp => hall _ hp⟩, rfl⟩

theorem exists_stored {space : Option String} {name : String}
    (h : e.Splices o (.named space name) tree) :
    ∃ stored, e.stored? o space name = some stored ∧ e.Splices o stored tree := by
  generalize hnode : Node.named space name = node at h
  cases h with
  | reference hstored h =>
      cases hnode
      exact ⟨_, hstored, h⟩
  | tree hnamed _ _ => exact absurd hnode.symm (hnamed _ _)

/-- A tree that selects no files stays as it is. -/
theorem eq_of_type_ne (h : e.Splices o node tree) (htype : node.type ≠ .file) : tree = node := by
  have hnamed : ∀ space name, node ≠ .named space name := by
    rintro space name rfl
    exact htype rfl
  obtain ⟨trees, -, rfl⟩ := h.exists_forall₂ hnamed
  exact withFileOperands_of_type_ne htype

/-- What holds of a reference if it does of the stored tree, and of another tree if it does of its
operands for files, holds of all trees that are spliced. -/
theorem induct {p : Node → Node → Prop}
    (hreference : ∀ space name stored tree, e.stored? o space name = some stored →
      e.Splices o stored tree → p stored tree → p (.named space name) tree)
    (htree : ∀ node trees, (∀ space name, node ≠ .named space name) →
      List.Forall₂ p node.fileOperands trees → p node (node.withFileOperands trees))
    (h : e.Splices o node tree) : p node tree := by
  induction h with
  | reference hstored h ih => exact hreference _ _ _ _ hstored h ih
  | tree hnamed hlength _ ih =>
      exact htree _ _ hnamed (List.forall₂_iff_zip.mpr ⟨hlength, fun hp => ih _ hp⟩)

/-- A tree is spliced in one way at most. -/
theorem unique (h : e.Splices o node tree) :
    ∀ {other : Node}, e.Splices o node other → tree = other := by
  refine induct (p := fun node tree => ∀ {other}, e.Splices o node other → tree = other) ?_ ?_ h
  · intro space name stored tree hstored _ ih other hother
    obtain ⟨same, hsame, hother⟩ := hother.exists_stored
    cases hsame.symm.trans hstored
    exact ih hother
  · intro node trees hnamed ih other hother
    obtain ⟨others, hothers, rfl⟩ := hother.exists_forall₂ hnamed
    rw [eq_of_forall₂ ih hothers]

/-- No reference is left where files are selected. -/
theorem not_contains_named (h : e.Splices o node tree) (space : Option String) (name : String) :
    ¬e.Contains o tree (.named space name) := by
  refine induct (p := fun _ tree => ¬e.Contains o tree (.named space name)) ?_ ?_ h
  · intro _ _ _ tree _ _ ih
    exact ih
  · intro node trees hnamed ih hcontains
    rcases hcontains.cases_head with hsame | ⟨part, hpart, hrest⟩
    · exact withFileOperands_ne_named hnamed space name hsame
    · rw [hasPart_iff_mem (withFileOperands_ne_named hnamed),
        fileOperands_withFileOperands ih.length_eq] at hpart
      obtain ⟨operand, -, hnone⟩ := exists_of_mem_of_forall₂ ih hpart
      exact hnone hrest

end Engine.Splices

/-- A tree can be spliced if each reference in it and in the stored trees that it leads to can be
looked up and no references lead on without end. -/
theorem exists_splices_iff :
    (∃ tree, e.Splices o node tree) ↔
      (∀ space name, e.Contains o node (.named space name) →
        ∃ stored, e.stored? o space name = some stored) ∧
      Acc (fun part whole => e.HasPart o whole part) node := by
  constructor
  · rintro ⟨tree, h⟩
    refine Engine.Splices.induct (p := fun node _ => (∀ space name,
      e.Contains o node (.named space name) → ∃ stored, e.stored? o space name = some stored) ∧
        Acc (fun part whole => e.HasPart o whole part) node) ?_ ?_ h
    · intro own name stored tree hstored _ ih
      have hpart : ∀ {part}, e.HasPart o (.named own name) part → part = stored := fun hpart =>
        Option.some.inj ((hasPart_named_iff.mp hpart).symm.trans hstored)
      refine ⟨fun space other hcontains => ?_, .intro _ fun part h => hpart h ▸ ih.2⟩
      rcases hcontains.cases_head with hsame | ⟨part, h, hrest⟩
      · cases hsame
        exact ⟨stored, hstored⟩
      · exact ih.1 space other (hpart h ▸ hrest)
    · intro node trees hnamed ih
      have hparts {part} (hpart : e.HasPart o node part) := by
        rw [hasPart_iff_mem hnamed] at hpart
        exact exists_of_mem_of_forall₂ ih.flip hpart
      refine ⟨fun space name hcontains => ?_, .intro _ fun part hpart => ?_⟩
      · rcases hcontains.cases_head with hsame | ⟨part, hpart, hrest⟩
        · exact absurd hsame (hnamed space name)
        · obtain ⟨-, -, hresolved, -⟩ := hparts hpart
          exact hresolved space name hrest
      · obtain ⟨-, -, -, hfinite⟩ := hparts hpart
        exact hfinite
  · rintro ⟨hresolved, hfinite⟩
    induction hfinite with
    | intro node _ ih =>
        have hspliced {part} (hpart : e.HasPart o node part) : ∃ tree, e.Splices o part tree :=
          ih part hpart fun space name hcontains => hresolved space name (.head hpart hcontains)
        by_cases hnamed : ∃ space name, node = .named space name
        · obtain ⟨space, name, rfl⟩ := hnamed
          obtain ⟨stored, hstored⟩ := hresolved space name .refl
          obtain ⟨tree, htree⟩ := hspliced (.stored hstored)
          exact ⟨tree, .reference hstored htree⟩
        · have hnode : ∀ space name, node ≠ .named space name :=
            fun space name hsame => hnamed ⟨space, name, hsame⟩
          obtain ⟨trees, htrees⟩ := exists_forall₂_iff.mpr fun operand hoperand =>
            hspliced (.operand hoperand)
          exact ⟨_, .ofForall₂ hnode htrees⟩

/-- The first result is a cycle of stored queries, or the results are the same. -/
def CycleOrSame {α : Type} (x y : Except Failure α) : Prop :=
  (∃ chain, x = .error (.namedQueryCycle chain)) ∨ x = y

namespace CycleOrSame

variable {α β γ : Type}

theorem bind {x y : Except Failure α} (h : CycleOrSame x y) (k : α → Except Failure β) :
    CycleOrSame (x >>= k) (y >>= k) := by
  rcases h with ⟨chain, rfl⟩ | rfl
  · exact .inl ⟨chain, rfl⟩
  · exact .inr rfl

theorem mapM {f : α → Except Failure γ} {g : β → Except Failure γ} {items : List α}
    {others : List β} (h : List.Forall₂ (fun a b => CycleOrSame (f a) (g b)) items others) :
    CycleOrSame (items.mapM f) (others.mapM g) := by
  induction h with
  | nil => exact .inr rfl
  | @cons a b rest more hfirst _ ih =>
      rw [List.mapM_cons, List.mapM_cons]
      rcases hfirst with ⟨chain, ha⟩ | hsame
      · rw [ha]
        exact .inl ⟨chain, rfl⟩
      · rw [hsame]
        cases g b with
        | error f => exact .inr rfl
        | ok c => exact ih.bind fun cs => .ok (c :: cs)

end CycleOrSame

theorem compileNode_of_type_ne {expand : QueryName → ColumnSet → Except Failure Compiled}
    (h : node.type ≠ .file) (needs : ColumnSet) :
    e.compileNode o expand needs node = Engine.mismatch .file node := by
  cases node with
  | datasets selector | datasetsHaving query predicate | datasetUnion parts
  | namedQueries space pattern => rfl
  | _ => exact absurd rfl h

/-- A tree becomes what the spliced tree becomes, which does not expand any name, or else a name
is met again while it is being expanded. -/
theorem Engine.Splices.cycleOrSame (h : e.Splices o node tree)
    (expand : QueryName → ColumnSet → Except Failure Compiled) (expanding : List String)
    (needs : ColumnSet) :
    CycleOrSame (e.compileNode o (e.expandNamed o expanding) needs node)
      (e.compileNode o expand needs tree) := by
  -- by induction on the tree, whatever is being expanded and whichever columns are needed
  refine Engine.Splices.induct (p := fun node tree => ∀ expanding needs,
    CycleOrSame (e.compileNode o (e.expandNamed o expanding) needs node)
      (e.compileNode o expand needs tree)) ?_ ?_ h expanding needs
  · intro space name stored tree hstored h ih expanding needs
    obtain ⟨own, hspace, hresolve⟩ := stored?_eq_some_iff.mp hstored
    rw [Engine.compileNode, hspace]
    change CycleOrSame (e.expandNamed o expanding ⟨own, name⟩ needs) _
    rw [expandNamed_eq, Engine.expandStep, hresolve]
    split
    · exact .inl ⟨_, rfl⟩
    · dsimp only
      split
      · rename_i htype
        rw [h.eq_of_type_ne htype, compileNode_of_type_ne htype]
        exact .inr rfl
      · exact ih _ needs
  · intro node trees hnamed ih expanding needs
    rw [compileNode_eq _ hnamed, compileNode_eq _ (withFileOperands_ne_named hnamed),
      finish_withFileOperands]
    refine CycleOrSame.bind (.mapM ?_) _
    refine (forall₂_operands ih needs).imp ?_
    rintro ⟨needs, operand⟩ ⟨_, tree⟩ ⟨rfl, hsame⟩
    exact hsame expanding needs

/-- A tree can be spliced if each reference that it leads to can be looked up and no references lead
on without end.  It is spliced in one way, which leaves no reference where files are selected, and
becomes just what the spliced tree becomes, or fails as this one does, unless it is rejected for a
cycle of stored queries. -/
theorem compileFiles_of_splices (e : Engine) (o : Options) (node : Node) :
    ((∃ tree, e.Splices o node tree) ↔
        (∀ space name, e.Contains o node (.named space name) →
          ∃ stored, e.stored? o space name = some stored) ∧
        Acc (fun part whole => e.HasPart o whole part) node) ∧
      ∀ tree, e.Splices o node tree →
        (∀ other, e.Splices o node other → other = tree) ∧
        (∀ space name, ¬e.Contains o tree (.named space name)) ∧
        ∀ needs, NoCycle (e.compileFiles o node needs) →
          e.compileFiles o node needs = e.compileFiles o tree needs := by
  refine ⟨exists_splices_iff, fun tree h => ⟨fun other hother => hother.unique h,
    h.not_contains_named, fun needs hcycle => ?_⟩⟩
  rcases h.cycleOrSame (e.expandNamed o []) [] needs with ⟨chain, hchain⟩ | hsame
  · exact absurd hchain (hcycle chain)
  · exact hsame

/-- The namespace of the stored queries by default. -/
def homeOptions : Options := { defaultNamespace := some "s" }

/-- A stored query that refers to another one, without its namespace, and this other one. -/
def nestedTree : Node :=
  .minus (.named none "left") (.named (some "s") "end")

theorem compileFiles_of_splices_fork :
    forkEngine.Splices homeOptions nestedTree (.minus .everyFile .everyFile) ∧
      NoCycle (forkEngine.compileFiles homeOptions nestedTree .ids) ∧
      forkEngine.compileFiles homeOptions nestedTree .ids =
        forkEngine.compileFiles homeOptions (.minus .everyFile .everyFile) .ids := by
  have hend : forkEngine.Splices homeOptions (.named (some "s") "end") .everyFile :=
    .reference (stored?_eq_some_iff.mpr ⟨"s", rfl, resolve_end⟩) (.ofForall₂ nofun .nil)
  have hleft : forkEngine.Splices homeOptions (.named none "left") .everyFile :=
    .reference (stored?_eq_some_iff.mpr ⟨"s", rfl, resolve_left⟩) hend
  have hspliced : forkEngine.Splices homeOptions nestedTree
      (nestedTree.withFileOperands [.everyFile, .everyFile]) :=
    .ofForall₂ (by simp [nestedTree]) (.cons hleft (.cons hend .nil))
  have hcycle : NoCycle (forkEngine.compileFiles homeOptions nestedTree .ids) := by
    have hfirst : forkEngine.compileCall homeOptions (.root .ids (.named none "left")) =
        .ok (.query (.everyFile .sqlite none false .ids)) :=
      (compileCall_of_not_mem ⟨none, rfl, rfl⟩ (by decide) resolve_left rfl).trans
        (compileCall_of_not_mem ⟨some "s", rfl, rfl⟩ (by decide) resolve_end rfl)
    have hsecond : forkEngine.compileCall homeOptions (.root .ids (.named (some "s") "end")) =
        .ok (.query (.everyFile .sqlite none false .ids)) :=
      compileCall_of_not_mem ⟨some "s", rfl, rfl⟩ (by decide) resolve_end rfl
    have hminus : forkEngine.compileFiles homeOptions nestedTree .ids =
        forkEngine.compileCall homeOptions (.root .ids (.named none "left")) >>= fun left =>
          forkEngine.compileCall homeOptions (.root .ids (.named (some "s") "end")) >>= fun right =>
            .ok (forkEngine.combine homeOptions .except .ids left [right]) := rfl
    rw [hminus, hfirst, hsecond]
    exact nofun
  have hall := compileFiles_of_splices forkEngine homeOptions nestedTree
  exact ⟨hspliced, hcycle, (hall.2 _ hspliced).2.2 .ids hcycle⟩

end CatalogQuery
