/-
The relation that a recursive query defines.  It grows in rounds, each of which adds the pairs
that are new.  When a step leads along edges, only the ends of edges are added, so that nothing is
new any more after as many rounds as there are edges.  What is known then is the least relation
that has the pairs of the beginning and is closed under the step: all that edges lead to from
them, however many there are in a row and even if they lead back.
-/
import CatalogQuery.Proofs.Sql.Evaluation
import Mathlib.Logic.Function.Iterate
import Mathlib.Logic.Relation

namespace CatalogQuery.Sql

variable {known pairs : List (String × String)} {pair : String × String}

theorem mem_freshPairs : pair ∈ freshPairs known pairs ↔ pair ∈ pairs ∧ pair ∉ known := by
  induction pairs generalizing known with
  | nil => simp [freshPairs]
  | cons first rest ih =>
      rw [freshPairs]
      split
      · rename_i hknown
        rw [ih, List.mem_cons]
        constructor
        · rintro ⟨hrest, hnew⟩
          exact ⟨.inr hrest, hnew⟩
        · rintro ⟨rfl | hrest, hnew⟩
          · exact absurd hknown hnew
          · exact ⟨hrest, hnew⟩
      · rename_i hnew
        rw [List.mem_cons, ih, List.mem_cons, List.mem_cons]
        by_cases hfirst : pair = first
        · subst hfirst
          simp [hnew]
        · simp [hfirst]

section Rounds

variable {next : List (String × String) → List (String × String)}

/-- What is known after a round that finds some pairs. -/
def grown (next : List (String × String) → List (String × String))
    (known : List (String × String)) : List (String × String) :=
  known ++ freshPairs known (next known)

theorem addRounds_eq_iterate (rounds : Nat) (known : List (String × String)) :
    addRounds (fun known => some (next known)) rounds known =
      some ((grown next)^[rounds] known) := by
  induction rounds generalizing known with
  | zero => rfl
  | succ rounds ih => exact ih (grown next known)

theorem mem_grown : pair ∈ grown next known ↔ pair ∈ known ∨ pair ∈ next known := by
  rw [grown, List.mem_append, mem_freshPairs]
  by_cases hknown : pair ∈ known <;> simp [hknown]

/-- A round finds nothing that is not known. -/
def IsSaturated (next : List (String × String) → List (String × String))
    (known : List (String × String)) : Prop :=
  next known ⊆ known

theorem IsSaturated.grown_eq (h : IsSaturated next known) : grown next known = known := by
  have hnone : freshPairs known (next known) = [] := by
    rw [List.eq_nil_iff_forall_not_mem]
    intro pair hpair
    obtain ⟨hfound, hnew⟩ := mem_freshPairs.mp hpair
    exact hnew (h hfound)
  rw [grown, hnone, List.append_nil]

/-- A round that finds something leaves fewer of the pairs that can be found. -/
theorem length_unknown_lt {ends : List (String × String)} (hends : next known ⊆ ends)
    (h : ¬IsSaturated next known) :
    (ends.filter (· ∉ grown next known)).length < (ends.filter (· ∉ known)).length := by
  obtain ⟨pair, hfound, hnew⟩ : ∃ pair ∈ next known, pair ∉ known := by
    simpa [IsSaturated, List.subset_def] using h
  have hsplit : ends.filter (· ∉ grown next known) =
      (ends.filter (· ∉ known)).filter (· ∉ next known) := by
    rw [List.filter_filter]
    apply List.filter_congr
    intro other _
    simp [mem_grown, not_or, Bool.and_comm]
  rw [hsplit]
  refine List.length_filter_lt_length_iff_exists.mpr ⟨pair, ?_, by simpa using hfound⟩
  exact List.mem_filter.mpr ⟨hends hfound, by simpa using hnew⟩

/-- As many rounds as there are pairs that can be found leave nothing to find. -/
theorem isSaturated_iterate {ends : List (String × String)} (hends : ∀ known, next known ⊆ ends)
    {rounds : Nat} (h : (ends.filter (· ∉ known)).length ≤ rounds) :
    IsSaturated next ((grown next)^[rounds] known) := by
  induction rounds generalizing known with
  | zero =>
      intro pair hpair
      have hnone := List.filter_eq_nil_iff.mp (List.eq_nil_of_length_eq_zero (Nat.le_zero.mp h))
      simpa using hnone pair (hends _ hpair)
  | succ rounds ih =>
      by_cases hsaturated : IsSaturated next known
      · rwa [Function.iterate_fixed hsaturated.grown_eq]
      · have hless := length_unknown_lt (hends known) hsaturated
        rw [Function.iterate_succ_apply]
        exact ih (by omega)

end Rounds

section Edges

variable {next : List (String × String) → List (String × String)}
  {edges : List ((String × String) × (String × String))} {start : List (String × String)}

/-- Whatever is known after some rounds, edges lead there from the beginning. -/
theorem exists_reflTransGen_of_mem_iterate
    (hnext : ∀ known pair, pair ∈ next known ↔ ∃ parent ∈ known, (parent, pair) ∈ edges)
    {rounds : Nat} (h : pair ∈ (grown next)^[rounds] start) :
    ∃ base ∈ start, Relation.ReflTransGen (fun parent child => (parent, child) ∈ edges) base
      pair := by
  induction rounds generalizing pair with
  | zero => exact ⟨pair, h, .refl⟩
  | succ rounds ih =>
      rw [Function.iterate_succ_apply', mem_grown] at h
      rcases h with hknown | hfound
      · exact ih hknown
      · obtain ⟨parent, hparent, hedge⟩ := (hnext _ _).mp hfound
        obtain ⟨base, hbase, hpath⟩ := ih hparent
        exact ⟨base, hbase, hpath.tail hedge⟩

theorem mem_iterate_of_mem (rounds : Nat) (h : pair ∈ start) :
    pair ∈ (grown next)^[rounds] start := by
  induction rounds with
  | zero => exact h
  | succ rounds ih =>
      rw [Function.iterate_succ_apply', mem_grown]
      exact .inl ih

/-- After as many rounds as there are edges exactly that is known to which edges lead from the
beginning. -/
theorem mem_iterate_iff
    (hnext : ∀ known pair, pair ∈ next known ↔ ∃ parent ∈ known, (parent, pair) ∈ edges)
    {rounds : Nat} (hrounds : edges.length ≤ rounds) :
    pair ∈ (grown next)^[rounds] start ↔ ∃ base ∈ start,
      Relation.ReflTransGen (fun parent child => (parent, child) ∈ edges) base pair := by
  refine ⟨exists_reflTransGen_of_mem_iterate hnext, ?_⟩
  rintro ⟨base, hbase, hpath⟩
  have hends (known : List (String × String)) : next known ⊆ edges.map Prod.snd := by
    intro pair hpair
    obtain ⟨parent, -, hedge⟩ := (hnext known pair).mp hpair
    exact List.mem_map_of_mem hedge
  have hsaturated : IsSaturated next ((grown next)^[rounds] start) := by
    apply isSaturated_iterate hends
    calc _ ≤ (edges.map Prod.snd).length := List.length_filter_le _ _
      _ ≤ rounds := by rwa [List.length_map]
  induction hpath with
  | refl => exact mem_iterate_of_mem rounds hbase
  | tail _ hedge ih => exact hsaturated ((hnext _ _).mpr ⟨_, ih, hedge⟩)

end Edges

end CatalogQuery.Sql
