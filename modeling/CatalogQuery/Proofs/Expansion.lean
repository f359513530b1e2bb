/-
Steps between files and those they were made of, on streams.  Where the stores look up all that
some files reach, an expansion yields the files that those of its stream reach, each once.
-/
import CatalogQuery.Proofs.Rounds

namespace CatalogQuery.RecordStream

open Sql (ColumnSet Direction Fragment)

/-- The files that some of the known ones reach. -/
def reached (reaches : String → String → Prop) (known : Set String) : Set String :=
  {id | ∃ k ∈ known, reaches k id}

def members (ids : List String) : Set String :=
  {id | id ∈ ids}

section LooksUp

variable {σ : Type} {stores : Stores σ} {direction : Direction} {columns : ColumnSet}
  {debug : Bool} {reaches : String → String → Prop} {start : RecordStream} {round : Round}
  {rounds : List Round} {closing : Trace StreamItem}

/-- Whatever was said before, the stores answer each look-up with the files that the given ones
reach. -/
def AlwaysLooksUp (stores : Stores σ) (direction : Direction) (columns : ColumnSet)
    (reaches : String → String → Prop) : Prop :=
  ∀ state ids, ids ≠ [] → ∃ answer records,
    (stores.execute state .catalog
        (.query ((Fragment.ofIds ids .ids).step direction columns).query)).1 = .ok answer ∧
      answer.rows.mapM (Record.ofRow direction.name) = .ok records ∧
      ∀ id, id ∈ idsOf records ↔ id ∈ reached reaches (members ids)

theorem found_of_alwaysLooksUp (debug : Bool)
    (h : AlwaysLooksUp stores direction columns reaches) (hids : round.ids ≠ [])
    (hanswer : round.AnsweredBy direction columns stores) :
    round.Succeeds direction columns debug ∧
      ∀ id, id ∈ filesOf (round.items direction columns debug) ↔
        id ∈ reached reaches (members round.ids) := by
  obtain ⟨state, hstate⟩ := hanswer
  obtain ⟨answer, records, hexecute, hrecords, hreaches⟩ := h state round.ids hids
  have hround : round.answer = .ok answer := hstate.symm.trans hexecute
  have hfound : round.found direction columns debug = .ok records := by
    rw [Round.found, hround]
    exact hrecords
  refine ⟨⟨records, hfound⟩, fun id => ?_⟩
  rw [← hreaches, Round.items, hfound]
  simp only [filesOf_map_ok]

/-- What is found for all batches is what is found for the whole. -/
theorem mem_reached_flatten (rounds : List Round) (id : String) :
    id ∈ reached reaches (members (rounds.map Round.ids).flatten) ↔
      ∃ round ∈ rounds, id ∈ reached reaches (members round.ids) := by
  simp only [reached, members, Set.mem_ofPred_eq, List.mem_flatten, List.mem_map]
  constructor
  · rintro ⟨known, ⟨_, ⟨round, hround, rfl⟩, hknown⟩, hreaches⟩
    exact ⟨round, hround, known, hknown, hreaches⟩
  · rintro ⟨round, hround, known, hknown, hreaches⟩
    exact ⟨known, ⟨_, ⟨round, hround, rfl⟩, hknown⟩, hreaches⟩

/-- Stores that always look up files give all those that the batches reach, each once. -/
theorem filesOf_of_alwaysLooksUp (h : AlwaysLooksUp stores direction columns reaches)
    (hends : Ends direction columns debug start rounds closing)
    (hanswers : ∀ round ∈ rounds, round.AnsweredBy direction columns stores)
    {t : Trace StreamItem}
    (ht : t = Trace.distinct (rounds.flatMap (Round.trace direction columns debug) ++ closing)) :
    (∀ round ∈ rounds, round.Succeeds direction columns debug) ∧ (filesOf t.items).Nodup ∧
      ∀ id, id ∈ filesOf t.items ↔
        id ∈ reached reaches (members (filesOf (Trace.items (rounds.flatMap Round.read)))) := by
  have hne : ∀ round ∈ rounds, round.ids ≠ [] := fun round hround =>
    (batching_of_ends hends).ne_nil (Nat.succ_pos _) _ (List.mem_map_of_mem hround)
  have hfound (round : Round) (hround : round ∈ rounds) :=
    found_of_alwaysLooksUp debug h (hne round hround) (hanswers round hround)
  obtain ⟨hnodup, hmem⟩ := filesOf_distinct
    (Trace.items (rounds.flatMap (Round.trace direction columns debug) ++ closing))
  rw [ht, items_distinct]
  refine ⟨fun round hround => (hfound round hround).1, hnodup, fun id => ?_⟩
  rw [hmem, Trace.items_append, filesOf_append, filesOf_closing hends, List.append_nil,
    items_rounds, filesOf_flatMap, filesOf_read, mem_reached_flatten, List.mem_flatMap]
  constructor
  · rintro ⟨round, hround, hid⟩
    exact ⟨round, hround, ((hfound round hround).2 id).mp hid⟩
  · rintro ⟨round, hround, hid⟩
    exact ⟨round, hround, ((hfound round hround).2 id).mpr hid⟩

theorem failuresOf_of_succeeds (hok : ∀ round ∈ rounds, round.Succeeds direction columns debug) :
    failuresOf (Trace.items (rounds.flatMap (Round.trace direction columns debug))) = [] := by
  rw [items_rounds, failuresOf_eq_nil_iff]
  intro item hitem
  obtain ⟨round, hround, hitem⟩ := List.mem_flatMap.mp hitem
  obtain ⟨records, hfound⟩ := hok round hround
  rw [Round.items, hfound] at hitem
  obtain ⟨record, -, rfl⟩ := List.mem_map.mp hitem
  rfl

/-- A stream of a list is taken in its order. -/
theorem items_of_leads {α : Type} {items : List α} {t : Trace α} {after : Flow α Unit}
    (h : (Flow.ofList items).Leads t after) :
    ∃ more, items = t.items ++ more ∧ after = .ofList more := by
  induction items generalizing t with
  | nil =>
      cases h
      exact ⟨[], rfl, rfl⟩
  | cons item rest ih =>
      cases h with
      | refl => exact ⟨item :: rest, rfl, rfl⟩
      | yield _ hrest =>
          obtain ⟨more, hmore, hafter⟩ := ih hrest
          exact ⟨more, congrArg (List.cons item) hmore, hafter⟩

/-- If each round succeeds, all records of a list are in the rounds, and nothing comes after
them. -/
theorem items_of_ends_ofList {records : List Record} {rounds : List Round}
    {closing : Trace StreamItem}
    (hends : Ends direction columns debug (.ofList (records.map .ok)) rounds closing)
    (hok : ∀ round ∈ rounds, round.Succeeds direction columns debug) :
    filesOf (Trace.items (rounds.flatMap Round.read)) = idsOf records ∧ closing.items = [] := by
  cases hends with
  | done hleads hrest _ _ =>
      obtain ⟨more, hmore, hafter⟩ := items_of_leads hleads
      cases more with
      | nil =>
          rw [Trace.items_append, hrest, List.append_nil, List.append_nil] at hmore
          rw [← hmore, filesOf_map_ok]
          exact ⟨rfl, Trace.items_map_inl _⟩
      | cons _ _ => cases hafter
  | unanswered _ _ _ hlast =>
      obtain ⟨records, hfound⟩ := hok _ (List.mem_append_right _ List.mem_cons_self)
      rw [hfound] at hlast
      cases hlast
  | interrupted hleads _ _ _ _ =>
      obtain ⟨more, hmore, -⟩ := items_of_leads hleads
      have hclean := failuresOf_map_ok records
      rw [hmore, Trace.items_append, failuresOf_append, failuresOf_append] at hclean
      simp [failuresOf] at hclean

end LooksUp

/-- The files that are reached from those of a stream. -/
theorem denotes_expand {store : Responses} {direction : Direction} {columns : ColumnSet}
    {reaches : String → String → Prop}
    (h : AlwaysLooksUp (Flow.unchanging store) direction columns reaches) (debug : Bool)
    {s : RecordStream} {files : Set String} (hs : s.Denotes store files) :
    (s.expand direction columns debug).Denotes store (reached reaches files) := by
  obtain ⟨records, hyields, -, hfiles⟩ := hs
  -- It does not matter where the stream has its records from.
  let list : RecordStream := .ofList (records.map .ok)
  have hrun : (s.expand direction columns debug).run store =
      (list.expand direction columns debug).run store :=
    Flow.run_consume_congr (hyields.trans (Flow.run_ofList _).symm) _ _ _
  obtain ⟨rounds, closing, hends, hanswers, htrace⟩ :=
    exists_rounds list direction columns debug (Flow.unchanging store) ()
  obtain ⟨hok, hnodup, hmem⟩ := filesOf_of_alwaysLooksUp h hends hanswers htrace
  obtain ⟨hread, hclosing⟩ := items_of_ends_ofList hends hok
  have hclean : failuresOf ((list.expand direction columns debug).itemsFrom store) = [] := by
    rw [itemsFrom, htrace, items_distinct]
    apply failuresOf_distinct
    rw [Trace.items_append, failuresOf_append, failuresOf_of_succeeds hok, hclosing]
    rfl
  have hmembers : members (idsOf records) = files := Set.ext hfiles
  rw [hread, hmembers] at hmem
  obtain ⟨found, hfound⟩ := denotes_iff.mpr ⟨hclean, hnodup, hmem⟩
  rw [Yields, ← hrun] at hfound
  exact ⟨found, hfound⟩

end CatalogQuery.RecordStream
