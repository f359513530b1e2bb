/-
How deep expansions nest.  The names that are being expanded at a call have different texts,
each that of a stored query, so there are never more of them than such texts.  Hence expanding
with a bound on the nesting gives the same results, whatever lies beyond the bound, and a
compilation is over after finitely many calls, whether or not stored queries refer to each other
in a cycle.
-/
import CatalogQuery.Proofs.Cycles
import Mathlib.Data.Finset.Card
import Mathlib.Order.WellFounded

namespace CatalogQuery

open Sql (ColumnSet)

def NamedQueries.texts (queries : NamedQueries) : Finset String :=
  (queries.keys.map QueryName.text).toFinset

variable {e : Engine} {o : Options} {c d : Call} {name : QueryName} {node : Node}

theorem mem_texts_of_resolve (h : e.queries.resolve name = .ok node) :
    name.text ∈ e.queries.texts :=
  List.mem_toFinset.mpr (List.mem_map_of_mem (mem_keys_of_resolve h))

/-- The names being expanded have different texts, and each of these is that of a stored query. -/
structure Call.IsBounded (e : Engine) (c : Call) : Prop where
  nodup : c.chain.Nodup
  stored : ∀ text ∈ c.chain, text ∈ e.queries.texts

theorem Call.IsBounded.step (h : c.IsBounded e) (hstep : e.Calls o c d) : d.IsBounded e := by
  cases hstep with
  | operand hsplit hbefore => exact ⟨h.nodup, h.stored⟩
  | @expansion own node hown hfresh hnode htype =>
      constructor
      · rw [chain_append, List.nodup_append]
        refine ⟨h.nodup, List.nodup_singleton _, fun text htext other hother => ?_⟩
        rintro rfl
        rw [List.mem_singleton.mp hother] at htext
        exact hfresh htext
      · intro text htext
        rw [chain_append] at htext
        rcases List.mem_append.mp htext with hold | hnew
        · exact h.stored text hold
        · rw [List.mem_singleton.mp hnew]
          exact mem_texts_of_resolve hnode

theorem isBounded_of_reaches {needs : ColumnSet} (h : e.Reaches o (.root needs node) c) :
    c.IsBounded e := by
  induction h with
  | refl => exact ⟨List.nodup_nil, List.forall_mem_nil _⟩
  | tail _ hstep ih => exact ih.step hstep

theorem Call.IsBounded.length_expanding_le (h : c.IsBounded e) :
    c.expanding.length ≤ e.queries.texts.card := by
  have hsubset : c.chain.toFinset ⊆ e.queries.texts := by
    intro text htext
    exact h.stored text (List.mem_toFinset.mp htext)
  calc c.expanding.length = c.chain.length := (List.length_map _).symm
    _ = c.chain.toFinset.card := (List.toFinset_card_of_nodup h.nodup).symm
    _ ≤ e.queries.texts.card := Finset.card_le_card hsubset

namespace Engine

/-- Looks up the stored query of a name while others are being expanded, and goes on with it. -/
def expandStep (e : Engine) (expanding : List String) (name : QueryName)
    (compileStored : Node → Except Failure Compiled) : Except Failure Compiled :=
  if name.text ∈ expanding then .error (.namedQueryCycle (expanding ++ [name.text]))
  else
    match e.queries.resolve name with
    | .error f => .error f
    | .ok node => if node.type ≠ .file then mismatch .file node else compileStored node

/-- What the stored query of a name becomes if only so many expansions may be nested inside of
it.  Those that would be nested deeper are left to `beyond`. -/
def expandWithin (e : Engine) (o : Options)
    (beyond : QueryName → ColumnSet → Except Failure Compiled) :
    Nat → List String → QueryName → ColumnSet → Except Failure Compiled
  | 0, expanding, name, needs => e.expandStep expanding name fun _ => beyond name needs
  | depth + 1, expanding, name, needs =>
    e.expandStep expanding name fun node =>
      e.compileNode o (e.expandWithin o beyond depth (expanding ++ [name.text])) needs node

end Engine

theorem expandNamed_eq (expanding : List String) (needs : ColumnSet) :
    e.expandNamed o expanding name needs = e.expandStep expanding name fun node =>
      e.compileNode o (e.expandNamed o (expanding ++ [name.text])) needs node := by
  rw [Engine.expandNamed, Engine.expandStep]
  by_cases hmem : name.text ∈ expanding
  · rw [dif_pos hmem, if_pos hmem]
  · rw [dif_neg hmem, if_neg hmem]
    split
    · rename_i hresolve
      simp only [hresolve]
    · rename_i hresolve
      simp only [hresolve]

/-- Two ways of going on agree if they do for the stored query of a fresh name. -/
theorem expandStep_congr {expanding : List String} {f g : Node → Except Failure Compiled}
    (h : ∀ node, name.text ∉ expanding → e.queries.resolve name = .ok node → f node = g node) :
    e.expandStep expanding name f = e.expandStep expanding name g := by
  unfold Engine.expandStep
  by_cases hmem : name.text ∈ expanding
  · rw [if_pos hmem, if_pos hmem]
  · rw [if_neg hmem, if_neg hmem]
    cases hresolve : e.queries.resolve name with
    | error f => rfl
    | ok node =>
        dsimp only
        rw [h node hmem hresolve]

/-- A bound that leaves room for all texts not being expanded yet is never exceeded. -/
theorem expandWithin_eq_expandNamed
    (beyond : QueryName → ColumnSet → Except Failure Compiled) {depth : Nat}
    {expanding : List String}
    (hdepth : (e.queries.texts \ expanding.toFinset).card ≤ depth) (needs : ColumnSet) :
    e.expandWithin o beyond depth expanding name needs = e.expandNamed o expanding name needs := by
  rw [expandNamed_eq]
  induction depth generalizing expanding name needs with
  | zero =>
      apply expandStep_congr
      intro node hfresh hnode
      have hmem : name.text ∈ e.queries.texts \ expanding.toFinset := by
        simpa [mem_texts_of_resolve hnode] using hfresh
      have hpos := Finset.card_pos.mpr ⟨_, hmem⟩
      omega
  | succ depth ih =>
      apply expandStep_congr
      intro node hfresh hnode
      have hmem : name.text ∈ e.queries.texts \ expanding.toFinset := by
        simpa [mem_texts_of_resolve hnode] using hfresh
      have hless : (e.queries.texts \ (expanding ++ [name.text]).toFinset).card <
          (e.queries.texts \ expanding.toFinset).card := by
        apply Finset.card_lt_card
        rw [Finset.ssubset_iff_of_subset]
        · exact ⟨name.text, hmem, by simp⟩
        · apply Finset.sdiff_subset_sdiff (Finset.Subset.refl _)
          intro text htext
          simp only [List.toFinset_append, Finset.mem_union]
          exact Or.inl htext
      congr 1
      funext inner columns
      rw [expandNamed_eq]
      exact ih (by omega) columns

/-- Whatever stored queries there are, also such as refer to each other in a cycle, compiling a
tree makes finitely many calls and no endless row of them; the expansions nested at a call are
no more than the different texts of stored names, and a bound on the nesting that allows for so
many changes nothing, whatever lies beyond it. -/
theorem expansions_bounded (e : Engine) (o : Options) (node : Node) (needs : ColumnSet) :
    {c | e.Reaches o (.root needs node) c}.Finite ∧
      (∀ run : Nat → Call, run 0 = .root needs node → ∃ n, ¬e.Calls o (run n) (run (n + 1))) ∧
      (∀ c, e.Reaches o (.root needs node) c → c.expanding.length ≤ e.queries.texts.card) ∧
      ∀ beyond depth, e.queries.texts.card ≤ depth →
        e.compileNode o (e.expandWithin o beyond depth []) needs node =
          e.compileFiles o node needs := by
  refine ⟨finite_reaches e o _, fun run _ => ?_, fun c h => ?_, fun beyond depth hdepth => ?_⟩
  · by_contra hforever
    push Not at hforever
    exact (wellFounded_iff_isEmpty_descending_chain.mp (wellFounded_calls e o)).false
      ⟨run, hforever⟩
  · exact (isBounded_of_reaches h).length_expanding_le
  · have hsame : e.expandWithin o beyond depth [] = e.expandNamed o [] := by
      funext name columns
      exact expandWithin_eq_expandNamed beyond (by simpa using hdepth) columns
    rw [hsame, Engine.compileFiles]

/-- An engine with two stored queries that refer to each other. -/
def loopEngine : Engine where
  dialect := .sqlite
  filters := .empty
  queries := .ofList
    [(⟨"s", "one"⟩, "\x7b\"named_query\":[\"s\",\"two\"]\x7d"),
      (⟨"s", "two"⟩, "\x7b\"named_query\":[\"s\",\"one\"]\x7d")]

theorem resolve_one :
    loopEngine.queries.resolve ⟨"s", "one"⟩ = .ok (.named (some "s") "two") :=
  NamedQueries.resolve_of_write (by decide +kernel) (by decide) (by decide)

theorem resolve_two :
    loopEngine.queries.resolve ⟨"s", "two"⟩ = .ok (.named (some "s") "one") :=
  NamedQueries.resolve_of_write (by decide +kernel) (by decide) (by decide)

theorem expansions_bounded_loop : ∃ c,
    loopEngine.Reaches {} (.root .ids (.named (some "s") "one")) c ∧
      c.expanding = [⟨"s", "one"⟩, ⟨"s", "two"⟩] ∧
      c.expanding.length ≤ loopEngine.queries.texts.card ∧ loopEngine.queries.texts.card ≤ 2 ∧
      ∀ beyond, loopEngine.compileNode {} (loopEngine.expandWithin {} beyond 2 []) .ids
        (.named (some "s") "one") = loopEngine.compileFiles {} (.named (some "s") "one") .ids := by
  have hall := expansions_bounded loopEngine {} (.named (some "s") "one") .ids
  have hfirst : loopEngine.Calls {} (.root .ids (.named (some "s") "one"))
      ⟨[⟨"s", "one"⟩], .ids, .named (some "s") "two"⟩ :=
    .expansion ⟨some "s", rfl, rfl⟩ List.not_mem_nil resolve_one rfl
  have hsecond : loopEngine.Calls {} ⟨[⟨"s", "one"⟩], .ids, .named (some "s") "two"⟩
      ⟨[⟨"s", "one"⟩, ⟨"s", "two"⟩], .ids, .named (some "s") "one"⟩ :=
    .expansion ⟨some "s", rfl, rfl⟩ (by decide) resolve_two rfl
  have hreaches := (Relation.ReflTransGen.single hfirst).tail hsecond
  have hcard : loopEngine.queries.texts.card ≤ 2 := List.toFinset_card_le _
  exact ⟨_, hreaches, rfl, hall.2.2.1 _ hreaches, hcard, fun beyond => hall.2.2.2 beyond 2 hcard⟩

end CatalogQuery
