/-
Set operations yield each identifier once.  Whatever the operands yield and whatever fails
among it, the records of a union, an intersection or a difference have different identifiers,
as long as there is more than one operand.  A single operand is returned as it is, so that it
repeats what it repeated before.
-/
import CatalogQuery.Proofs.ColumnContract
import CatalogQuery.Proofs.Failures
import CatalogQuery.Proofs.Items

namespace CatalogQuery

open Sql (ColumnSet SetOperation)

namespace RecordStream

variable {s left right : RecordStream}

/-- In each run the records have different identifiers, those before a failure and those after
it. -/
def IsDistinct (s : RecordStream) : Prop :=
  ∀ (σ : Type) (stores : Stores σ) (state : σ),
    (idsOf (recordsOf (s.play stores state).trace.items)).Nodup

theorem isDistinct_dedupe (s : RecordStream) : s.dedupe.IsDistinct := by
  intro σ stores state
  rw [dedupe, Flow.items_filterItems, recordsOf_keepItems (fun _ _ => rfl) (fun _ _ => rfl)]
  exact nodup_firstOfEach ∅ _

theorem isDistinct_fail (f : Failure) : (fail f).IsDistinct := by
  intro σ stores state
  exact List.nodup_nil

/-- What comes before a stream does not count if it yields nothing. -/
theorem isDistinct_bind {ρ : Type} {flow : Flow StreamItem ρ} {q : List Exchange → ρ → Prop}
    (hflow : flow.Always (fun _ _ => False) q []) {f : ρ → RecordStream}
    (hf : ∀ result, (f result).IsDistinct) : IsDistinct (flow.bind f) := by
  intro σ stores state
  rw [Flow.play_bind]
  simp only [Trace.items_append, hflow.items_eq_nil stores state, List.nil_append]
  exact hf _ σ stores _

theorem isDistinct_intersect (left first : RecordStream) (rest : List RecordStream) :
    (intersect left first rest).IsDistinct := by
  apply isDistinct_bind ((keeps_trivial first).collectIds [])
  intro found
  rcases found with f | ids
  · exact isDistinct_fail f
  · apply isDistinct_bind (always_collectCommon (fun s _ => keeps_trivial s) ids [])
    intro found
    rcases found with f | common
    · exact isDistinct_fail f
    · exact isDistinct_dedupe _

theorem isDistinct_difference (left right : RecordStream) : (difference left right).IsDistinct := by
  apply isDistinct_bind ((keeps_trivial right).collectIds [])
  intro found
  rcases found with f | ids
  · exact isDistinct_fail f
  · exact isDistinct_dedupe _

end RecordStream

namespace FileSet

variable {s : FileSet} {others : List FileSet}

/-- If the set is given by a stream, the stream yields each identifier once. -/
def StreamsDistinct (s : FileSet) : Prop :=
  s.fragment? = none → s.stream.IsDistinct

theorem streamsDistinct_combined {records : RecordStream} (h : records.IsDistinct)
    (op : SetOperation) (context : String) :
    (combined op context s others records).StreamsDistinct := by
  unfold combined
  split
  · rintro ⟨⟩
  · exact fun _ => h

theorem streamsDistinct_union (h : others ≠ []) : (s.union others).StreamsDistinct := by
  cases others with
  | nil => exact absurd rfl h
  | cons first rest => exact streamsDistinct_combined (RecordStream.isDistinct_dedupe _) _ _

theorem streamsDistinct_intersect (h : others ≠ []) : (s.intersect others).StreamsDistinct := by
  cases others with
  | nil => exact absurd rfl h
  | cons first rest =>
      exact streamsDistinct_combined (RecordStream.isDistinct_intersect _ _ _) _ _

/-- The last of several differences settles it. -/
theorem streamsDistinct_foldl_difference (h : others ≠ []) :
    (others.foldl difference s).StreamsDistinct := by
  induction others generalizing s with
  | nil => exact absurd rfl h
  | cons first rest ih =>
      cases rest with
      | nil => exact streamsDistinct_combined (RecordStream.isDistinct_difference _ _) _ _
      | cons second rest => exact ih (List.cons_ne_nil _ _)

end FileSet

variable {e : Engine} {o : Options}

theorem streamsDistinct_combine {op : SetOperation} {needs : ColumnSet} {first : Compiled}
    {rest : List Compiled} {files : FileSet} (hrest : rest ≠ [])
    (h : e.combine o op needs first rest = .records files) : files.StreamsDistinct := by
  have hothers : rest.map (Compiled.files e o (Engine.operationName op)) ≠ [] := by
    simpa using hrest
  unfold Engine.combine at h
  rw [if_neg (by simpa using hrest)] at h
  split at h
  · cases h
  · cases h
    cases op with
    | union => exact FileSet.streamsDistinct_union hothers
    | intersect => exact FileSet.streamsDistinct_intersect hothers
    | except => exact FileSet.streamsDistinct_foldl_difference hothers

/-- If the only operand is a stream, what it repeats stays. -/
theorem isDistinct_combineAll {op : SetOperation} {needs : ColumnSet} {subject : String}
    {cs : List Compiled} {files : FileSet} (hfiles : files.fragment? = none)
    (h : e.combineAll o op needs subject cs = .ok (.records files))
    (hsingle : cs = [.records files] → files.stream.IsDistinct) : files.stream.IsDistinct := by
  rcases cs with _ | ⟨first, rest⟩
  · cases h
  · have hcombine := Except.ok.inj h
    by_cases hrest : rest = []
    · rw [hrest] at hcombine hsingle
      exact hsingle (congrArg (fun c => [c]) hcombine)
    · exact streamsDistinct_combine hrest hcombine hfiles

/-- The tree is a set operation on files. -/
inductive Node.IsSetOperation : Node → Prop
  | union (operands : List Node) : IsSetOperation (.union operands)
  | join (operands : List Node) : IsSetOperation (.join operands)
  | minus (left right : Node) : IsSetOperation (.minus left right)

/-- The tree is a union or an intersection that has this operand only. -/
def Node.HasOnly (node only : Node) : Prop :=
  node = .union [only] ∨ node = .join [only]

theorem eq_singleton_of_eachWith {needs later : ColumnSet} {operands : List Node}
    {p : ColumnSet × Node} (h : eachWith needs later operands = [p]) :
    operands = [p.2] ∧ p.1 = needs := by
  rcases operands with _ | ⟨operand, rest⟩
  · cases h
  · obtain ⟨rfl, hrest⟩ := List.cons.inj h
    rw [List.map_eq_nil_iff.mp hrest]
    exact ⟨rfl, rfl⟩

/-- A set operation combines what its operands became. -/
theorem combineAll_of_isSetOperation {c : Call} {r : Compiled} (hnode : c.node.IsSetOperation)
    (h : e.compileCall o c = .ok r) :
    ∃ op cs, (c.node.operands e c.needs).mapM
        (fun p => e.compileCall o ⟨c.expanding, p.1, p.2⟩) = .ok cs ∧
      e.combineAll o op c.needs c.node.kind cs = .ok r := by
  have hnamed : ∀ space name, c.node ≠ .named space name := by
    intro space name hnamed
    rw [hnamed] at hnode
    cases hnode
  rw [compileCall_eq hnamed] at h
  obtain ⟨expanding, needs, node⟩ := c
  cases hnode with
  | union operands => exact ⟨.union, bind_eq_ok_iff.mp h⟩
  | join operands => exact ⟨.intersect, bind_eq_ok_iff.mp h⟩
  | minus left right => exact ⟨.except, bind_eq_ok_iff.mp h⟩

/-- Only a union or an intersection has a single operand, with the columns that are needed of
the whole. -/
theorem hasOnly_of_operands {node : Node} {needs : ColumnSet} {p : ColumnSet × Node}
    (hnode : node.IsSetOperation) (h : node.operands e needs = [p]) :
    node.HasOnly p.2 ∧ p.1 = needs := by
  cases hnode with
  | union operands =>
      obtain ⟨rfl, hneeds⟩ := eq_singleton_of_eachWith h
      exact ⟨Or.inl rfl, hneeds⟩
  | join operands =>
      obtain ⟨rfl, hneeds⟩ := eq_singleton_of_eachWith h
      exact ⟨Or.inr rfl, hneeds⟩
  | minus left right => cases h

/-- The records of a set operation have different identifiers, whichever of its operands are
streams and whatever these repeat.  Only the records of a single operand are as different as
they were. -/
theorem isDistinct_of_isSetOperation {c : Call} {files : FileSet} (hnode : c.node.IsSetOperation)
    (h : e.compileCall o c = .ok (.records files))
    (hsingle : ∀ only inner, c.node.HasOnly only →
      e.compileCall o ⟨c.expanding, c.needs, only⟩ = .ok (.records inner) →
      inner.stream.IsDistinct) :
    files.stream.IsDistinct := by
  obtain ⟨op, cs, hcs, hcombine⟩ := combineAll_of_isSetOperation hnode h
  apply isDistinct_combineAll (has_compileCall h) hcombine
  intro hone
  rw [hone] at hcs
  obtain ⟨p, hoperands, hp⟩ := exists_of_mapM_eq_singleton hcs
  obtain ⟨honly, hneeds⟩ := hasOnly_of_operands hnode hoperands
  rw [hneeds] at hp
  exact hsingle p.2 files honly hp

/-- The filter that yields everything of its only input twice. -/
def Filter.twice : Filter := fun inputs _ => .finish do
  let input ← singleInput "twice" inputs
  .ok (input.stream.consume (fun _ item => .yield item (.yield item (.finish (.next ()))))
    (fun _ _ => .finish ()) ())

def repeatingEngine : Engine where
  dialect := .sqlite
  filters := .ofList [("twice", Filter.twice)]
  queries := .empty

def repeatedFile : Node :=
  .filter { name := "twice" } [.list (.ids ["a"])]

theorem isDistinct_of_isSetOperation_repeated :
    ∃ files, Node.IsSetOperation (.union [repeatedFile, repeatedFile]) ∧
      repeatingEngine.compileCall {} (.root .ids (.union [repeatedFile, repeatedFile])) =
        .ok (.records files) ∧ files.stream.IsDistinct := by
  have hnode : Node.IsSetOperation (.union [repeatedFile, repeatedFile]) := .union _
  have hcompile : ∃ files, repeatingEngine.compileCall {}
      (.root .ids (.union [repeatedFile, repeatedFile])) = .ok (.records files) := ⟨_, rfl⟩
  obtain ⟨files, hfiles⟩ := hcompile
  refine ⟨files, hnode, hfiles, isDistinct_of_isSetOperation hnode hfiles ?_⟩
  intro only inner honly
  rcases honly with honly | honly <;> cases honly

def singleFileStores : Stores Unit where
  execute _ _ _ := (.ok {}, ())
  openCursor _ _ :=
    (.ok ⟨0, [.ok [.text "a", .text "test", .text "a.root", .null, .null, .null]]⟩, ())

/-- A union of a single operand repeats what its operand repeats. -/
theorem not_isDistinct_single_operand :
    ∃ files, repeatingEngine.compileFiles {} (.union [repeatedFile]) .ids = .ok (.records files) ∧
      ¬files.stream.IsDistinct := by
  refine ⟨_, rfl, fun h => ?_⟩
  have hnodup : ["a", "a"].Nodup := h Unit singleFileStores ()
  exact absurd hnodup (by decide)

end CatalogQuery
