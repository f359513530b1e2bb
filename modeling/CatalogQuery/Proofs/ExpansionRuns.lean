/-
Runs of an expansion.  The batches of its rounds are the files of its stream in order, as many
of them as a look-up takes, and only the last batch may be smaller.  Where the stores look up all
that some files reach, each file that those of the rounds reach comes out once.
-/
import CatalogQuery.Proofs.Backing

namespace CatalogQuery

open Sql (ColumnSet Direction)

/-- An expansion takes a stream in rounds. -/
theorem RecordStream.play_expand {σ : Type} (s : RecordStream) (direction : Direction)
    (columns : ColumnSet) (debug : Bool) (stores : Stores σ) (state : σ) :
    ∃ rounds closing, Ends direction columns debug s rounds closing ∧
      (∀ round ∈ rounds, round.AnsweredBy direction columns stores) ∧
      (∀ (k : Nat) (hk : k < rounds.length), rounds[k].ids =
        ((filesOf (Trace.items (rounds.flatMap Round.read))).drop (lookupSize * k)).take
          lookupSize) ∧
      rounds.length = ((filesOf (Trace.items (rounds.flatMap Round.read))).length +
        (lookupSize - 1)) / lookupSize ∧
      ((s.expand direction columns debug).play stores state).trace =
        Trace.distinct (rounds.flatMap (Round.trace direction columns debug) ++ closing) ∧
      ∀ reaches, AlwaysLooksUp stores direction columns reaches →
        (∀ round ∈ rounds, round.Succeeds direction columns debug) ∧
        (filesOf ((s.expand direction columns debug).play stores state).trace.items).Nodup ∧
        ∀ id, id ∈ filesOf ((s.expand direction columns debug).play stores state).trace.items ↔
          id ∈ reached reaches (members (filesOf (Trace.items (rounds.flatMap Round.read)))) := by
  obtain ⟨rounds, closing, hends, hanswers, hplay⟩ :=
    exists_rounds s direction columns debug stores state
  have hbatching := batching_of_ends hends
  refine ⟨rounds, closing, hends, hanswers, fun k hk => ?_, ?_, hplay, fun reaches hstores =>
    filesOf_of_alwaysLooksUp hstores hends hanswers hplay⟩
  · have hk' : k < (rounds.map Round.ids).length := by rwa [List.length_map]
    rw [filesOf_read, ← hbatching.getElem_eq k hk', List.getElem_map]
  · rw [filesOf_read, ← hbatching.length_eq (Nat.succ_pos _), List.length_map]

def manyRecords (count : Nat) : List Record :=
  (List.range count).map fun k => plainRecord ("p" ++ toString k)

theorem play_expand_family :
    RecordStream.AlwaysLooksUp (Flow.unchanging familyStore.responses) .children .ids
        (familyStore.catalog.Steps .children) ∧
      ∀ id, id ∈ filesOf ((RecordStream.expand .children .ids false
          (.ofList [letter "a", letter "a"])).play (Flow.unchanging familyStore.responses)
            ()).trace.items ↔ id = "b" := by
  have hstores : RecordStream.AlwaysLooksUp (Flow.unchanging familyStore.responses) .children .ids
      (familyStore.catalog.Steps .children) :=
    looksUp familyStore.responses_answers .children .ids
  refine ⟨hstores, fun id => ?_⟩
  obtain ⟨rounds, closing, hends, -, -, -, -, hreached⟩ := RecordStream.play_expand
    (.ofList [letter "a", letter "a"]) .children .ids false
    (Flow.unchanging familyStore.responses) ()
  obtain ⟨hok, -, hmem⟩ := hreached _ hstores
  have hread : filesOf (Trace.items (rounds.flatMap Round.read)) =
      idsOf [plainRecord "a", plainRecord "a"] := (RecordStream.items_of_ends_ofList hends hok).1
  rw [hmem, hread]
  simp [RecordStream.reached, RecordStream.members, idsOf, Sql.Catalog.Steps,
    Sql.Catalog.Leads, Sql.Catalog.IsFile, Sql.Direction.orient, familyStore, plainFile,
    plainRecord]
  exact ⟨fun h => h.2.symm, fun h => ⟨Or.inr h.symm, h.symm⟩⟩

/-- The first failing answer ends an expansion, so that there may be fewer look-ups than the
batches need. -/
theorem exchanges_expand_broken :
    failuresOf (Flow.play brokenStores ()
        (.ofList ((manyRecords 1001).map .ok) : RecordStream)).trace.items = [] ∧
      (Flow.play brokenStores ()
        (.ofList ((manyRecords 1001).map .ok) : RecordStream)).trace.items.length = 1001 ∧
      ((RecordStream.expand .parents .ids false
        (.ofList ((manyRecords 1001).map .ok))).play brokenStores ()).trace.exchanges.length ≠
          (1001 + (1000 - 1)) / 1000 := by
  refine ⟨?_, ?_, ?_⟩ <;> decide +kernel

end CatalogQuery
