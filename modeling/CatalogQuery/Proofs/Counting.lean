/-
Counting records.  Only the first record of a file counts.  The sizes that these records do not
carry are looked up at the end of each batch, so that no file is looked up twice, whatever batch
it comes in again; a batch that tells all sizes asks nothing.
-/
import CatalogQuery.FileSet.Summary
import CatalogQuery.Proofs.Rounds
import CatalogQuery.Proofs.SetOperators
import Mathlib.Algebra.BigOperators.Group.Finset.Basic
import Mathlib.Algebra.Ring.Nat

namespace CatalogQuery

/-- The files seen before and those of some records. -/
def seenAfter (seen : IdSet) (records : List Record) : IdSet :=
  records.foldl (fun ids record => ids.insert record.id) seen

theorem firstOfEach_append (seen : IdSet) (records more : List Record) :
    firstOfEach seen (records ++ more) =
      firstOfEach seen records ++ firstOfEach (seenAfter seen records) more := by
  induction records generalizing seen with
  | nil => rfl
  | cons record rest ih =>
      rw [List.cons_append, firstOfEach, firstOfEach, ih]
      split
      · rfl
      · rfl

def firstRecord? (records : List Record) (id : String) : Option Record :=
  records.find? fun record => record.id == id

theorem firstRecord?_of_mem_firstOfEach {seen : IdSet} {records : List Record} {record : Record}
    (h : record ∈ firstOfEach seen records) : firstRecord? records record.id = some record := by
  induction records generalizing seen with
  | nil => cases h
  | cons first rest ih =>
      rw [firstOfEach] at h
      -- What comes after the first record has another identifier.
      have hlater (h : record ∈ firstOfEach (seen.insert first.id) rest) :
          firstRecord? (first :: rest) record.id = some record := by
        have hnew := ((mem_idsOf_firstOfEach _ _ _).mp (List.mem_map_of_mem h)).2
        rw [contains_insert, Bool.or_eq_false_iff, decide_eq_false_iff_not] at hnew
        rw [firstRecord?, List.find?_cons_of_neg (by simpa using hnew.1)]
        exact ih h
      split at h
      · exact hlater h
      · rcases List.mem_cons.mp h with rfl | h
        · simp [firstRecord?]
        · exact hlater h

/-- The records that come first are those of all files. -/
theorem mem_firstOfEach_empty {records : List Record} {record : Record} :
    record ∈ firstOfEach ∅ records ↔ firstRecord? records record.id = some record := by
  refine ⟨firstRecord?_of_mem_firstOfEach, fun h => ?_⟩
  have hid : record.id ∈ idsOf (firstOfEach ∅ records) :=
    (mem_idsOf_firstOfEach _ _ _).mpr
      ⟨List.mem_map_of_mem (List.mem_of_find?_eq_some h), Std.TreeSet.contains_emptyc⟩
  obtain ⟨other, hother, hsame⟩ := List.mem_map.mp hid
  have hfirst := firstRecord?_of_mem_firstOfEach hother
  rw [hsame, h] at hfirst
  rwa [Option.some_inj.mp hfirst]

section Sizes

variable (sizes : String → Nat)

/-- The size that a record carries, or else the stored one. -/
def recordSize (record : Record) : Nat :=
  match record.size with
  | some size => size.toNat
  | none => sizes record.id

def fileSize (records : List Record) (id : String) : Nat :=
  match firstRecord? records id with
  | some record => recordSize sizes record
  | none => 0

/-- The files of a batch that were not seen before and whose size their record does not carry. -/
def unsized (seen : IdSet) (batch : List Record) : List String :=
  idsOf ((firstOfEach seen batch).filter fun record => record.size.isNone)

def unsizedOf (seen : IdSet) : List (List Record) → List (List String)
  | [] => []
  | batch :: rest => unsized seen batch :: unsizedOf (seenAfter seen batch) rest

theorem unsizedOf_congr {seen known : IdSet} (h : ∀ id, seen.contains id = known.contains id)
    (batches : List (List Record)) : unsizedOf seen batches = unsizedOf known batches := by
  induction batches generalizing seen known with
  | nil => rfl
  | cons batch rest ih =>
      rw [unsizedOf, unsizedOf, unsized, unsized, firstOfEach_congr h]
      refine congrArg (List.cons _) (ih fun id => ?_)
      rw [Bool.eq_iff_iff, seenAfter, seenAfter, contains_foldl_insert, contains_foldl_insert, h]

/-- It makes no difference how the records are put into batches. -/
theorem flatten_unsizedOf (seen : IdSet) (batches : List (List Record)) :
    (unsizedOf seen batches).flatten = unsized seen batches.flatten := by
  induction batches generalizing seen with
  | nil => rfl
  | cons batch rest ih =>
      rw [unsizedOf, List.flatten_cons, ih, List.flatten_cons, unsized, unsized, unsized,
        firstOfEach_append, List.filter_append, idsOf, idsOf, idsOf, List.map_append]

theorem nodup_unsized (seen : IdSet) (batch : List Record) : (unsized seen batch).Nodup :=
  (nodup_firstOfEach seen batch).sublist (List.filter_sublist.map _)

theorem mem_unsized_empty {records : List Record} {id : String} :
    id ∈ unsized ∅ records ↔
      ∃ record, firstRecord? records id = some record ∧ record.size = none := by
  simp only [unsized, idsOf, List.mem_map, List.mem_filter, Option.isNone_iff_eq_none]
  constructor
  · rintro ⟨record, ⟨hrecord, hsize⟩, rfl⟩
    exact ⟨record, mem_firstOfEach_empty.mp hrecord, hsize⟩
  · rintro ⟨record, hrecord, hsize⟩
    have hid : record.id = id := by simpa using List.find?_some hrecord
    subst hid
    exact ⟨record, ⟨mem_firstOfEach_empty.mpr hrecord, hsize⟩, rfl⟩

/-- Carried and looked up, the sizes of some records are complete. -/
theorem sum_recordSize (records : List Record) :
    (records.map (recordSize sizes)).sum =
      (records.map fun record => (record.size.map UInt64.toNat).getD 0).sum +
        ((idsOf (records.filter fun record => record.size.isNone)).map sizes).sum := by
  induction records with
  | nil => rfl
  | cons record rest ih =>
      rw [List.map_cons, List.sum_cons, ih, List.map_cons, List.sum_cons, recordSize]
      cases hsize : record.size with
      | some size => simp [hsize, Nat.add_assoc]
      | none => simp [hsize, idsOf, Nat.add_left_comm]

theorem toFinset_firstOfEach (records : List Record) :
    (idsOf (firstOfEach ∅ records)).toFinset = (idsOf records).toFinset := by
  ext id
  simp [mem_idsOf_firstOfEach]

theorem length_firstOfEach (records : List Record) :
    (firstOfEach ∅ records).length = (idsOf records).toFinset.card := by
  rw [← toFinset_firstOfEach, List.toFinset_card_of_nodup (nodup_firstOfEach ∅ records), idsOf,
    List.length_map]

theorem sum_fileSize (records : List Record) :
    ((firstOfEach ∅ records).map (recordSize sizes)).sum =
      ∑ id ∈ (idsOf records).toFinset, fileSize sizes records id := by
  rw [← toFinset_firstOfEach, List.sum_toFinset _ (nodup_firstOfEach ∅ records), idsOf,
    List.map_map]
  congr 1
  apply List.map_congr_left
  intro record hrecord
  rw [Function.comp_apply, fileSize, mem_firstOfEach_empty.mp hrecord]

end Sizes

namespace FileSet

theorem add_of_not_contains {tally : Tally} {record : Record}
    (h : ¬tally.seen.contains record.id = true) :
    tally.add record =
      ⟨tally.seen.insert record.id, tally.count + 1,
        tally.size + .ofNat ((record.size.map UInt64.toNat).getD 0),
        if record.size.isNone then record.id :: tally.unknown else tally.unknown⟩ := by
  rw [Tally.add, if_neg h]
  cases hsize : record.size with
  | some size => simp
  | none => simp

/-- What has been counted after some records. -/
theorem foldl_add (tally : Tally) (batch : List Record) :
    let firsts := firstOfEach tally.seen batch
    let after := batch.foldl Tally.add tally
    (∀ id, after.seen.contains id = (seenAfter tally.seen batch).contains id) ∧
      after.count = tally.count + .ofNat firsts.length ∧
      after.size = tally.size +
        .ofNat (firsts.map fun record => (record.size.map UInt64.toNat).getD 0).sum ∧
      after.unknown = (unsized tally.seen batch).reverse ++ tally.unknown := by
  induction batch generalizing tally with
  | nil => simp [firstOfEach, seenAfter, unsized, idsOf]
  | cons record rest ih =>
      have hrest := ih (tally.add record)
      simp only [List.foldl_cons, firstOfEach, seenAfter, unsized]
      by_cases hseen : tally.seen.contains record.id = true
      · have hadd : tally.add record = tally := if_pos hseen
        have hsame (id : String) :
            (tally.seen.insert record.id).contains id = tally.seen.contains id := by
          rw [contains_insert]
          by_cases hid : record.id = id
          · subst hid
            simp [hseen]
          · simp [hid]
        rw [hadd] at hrest ⊢
        simp only [hseen, if_true, firstOfEach_congr hsame]
        refine ⟨fun id => ?_, hrest.2⟩
        rw [hrest.1, Bool.eq_iff_iff, seenAfter, contains_foldl_insert, contains_foldl_insert,
          hsame]
      · rw [add_of_not_contains hseen] at hrest ⊢
        obtain ⟨hafter, hcount, hsize, hunknown⟩ := hrest
        simp only [hseen, Bool.false_eq_true, if_false]
        refine ⟨hafter, ?_, ?_, ?_⟩
        · rw [hcount, List.length_cons, Nat.add_comm _ 1, UInt64.ofNat_add, UInt64.add_assoc]
          rfl
        · rw [hsize, List.map_cons, List.sum_cons, UInt64.ofNat_add, UInt64.add_assoc]
        · rw [hunknown, unsized, List.filter_cons]
          cases record.size <;> simp [idsOf]

end FileSet

section LookUps

variable {σ : Type} {stores : Stores σ} {sizes : String → Nat}

/-- Each file has a fixed size: whatever was said before, different files are answered with the
sum of their sizes, as long as it is an integer that cells can have. -/
def AnswersSizes (stores : Stores σ) (sizes : String → Nat) : Prop :=
  ∀ state ids, ids ≠ [] → ids.Nodup → ((ids.map sizes).sum : Int) ≤ maxInt64 →
    ∃ answer n, (stores.execute state .catalog (.query (Sql.totalSize ids))).1 = .ok answer ∧
      (answer.rows.head?.bind fun row => row[0]?.bind Cell.asInteger?) = some n ∧
      n.toInt = (ids.map sizes).sum

/-- One state may be followed by the other when sizes are looked up. -/
def SizesMayFollow (stores : Stores σ) (state after : σ) : Prop :=
  after = state ∨
    ∃ ids, after = (stores.execute state .catalog (.query (Sql.totalSize ids))).2

/-- The look-up of the sizes of some files, if there are any. -/
def sizeLookUp (ids : List String) (answer : Except Failure Answer) : List Exchange :=
  if ids = [] then [] else [.executed .catalog (.query (Sql.totalSize ids)) answer]

namespace FileSet

theorem naturalAt_eq {rows : List Row} {n : Int64} {size : Nat}
    (hcell : (rows.head?.bind fun row => row[0]?.bind Cell.asInteger?) = some n)
    (hn : n.toInt = size) : naturalAt 0 rows = .ofNat size := by
  obtain ⟨row, hrow, hcell⟩ := Option.bind_eq_some_iff.mp hcell
  rw [naturalAt, hrow]
  simp only [hcell, hn, Int.toNat_natCast]

theorem play_lookUpSize (hsizes : AnswersSizes stores sizes) (state : σ) {ids : List String}
    (hne : ids ≠ []) (hnodup : ids.Nodup) (hfits : ((ids.map sizes).sum : Int) ≤ maxInt64)
    (debug : Bool) :
    ∃ answer, (lookUpSize ids debug).play stores state =
      ⟨[.inl (.executed .catalog (.query (Sql.totalSize ids)) answer)],
        .ok (.ofNat (ids.map sizes).sum),
        (stores.execute state .catalog (.query (Sql.totalSize ids))).2⟩ := by
  obtain ⟨answer, n, hanswer, hcell, hn⟩ := hsizes state ids hne hnodup hfits
  refine ⟨.ok answer, ?_⟩
  simp only [lookUpSize, Sql.Query.rows, Flow.bind, Flow.play, hanswer, Except.map,
    Except.mapError, naturalAt_eq hcell hn]

/-- The state of a count after a batch. -/
structure Tally.CountsBatch (sizes : String → Nat) (before : Tally) (batch : List Record)
    (after : Tally) : Prop where
  seen : ∀ id, after.seen.contains id = (seenAfter before.seen batch).contains id
  count : after.count = before.count + .ofNat (firstOfEach before.seen batch).length
  size : after.size =
    before.size + .ofNat ((firstOfEach before.seen batch).map (recordSize sizes)).sum

/-- What the count comes to with some more records. -/
def Tally.total (sizes : String → Nat) (tally : Tally) (records : List Record) : Counts :=
  ⟨tally.count + .ofNat (firstOfEach tally.seen records).length,
    tally.size + .ofNat ((firstOfEach tally.seen records).map (recordSize sizes)).sum⟩

theorem Tally.total_nil (sizes : String → Nat) (tally : Tally) :
    tally.total sizes [] = ⟨tally.count, tally.size⟩ := by
  simp [total, firstOfEach]

theorem Tally.CountsBatch.total_eq {before after : Tally} {batch : List Record}
    (h : before.CountsBatch sizes batch after) (records : List Record) :
    after.total sizes records = before.total sizes (batch ++ records) := by
  rw [total, total, h.count, h.size, firstOfEach_append, firstOfEach_congr h.seen]
  simp only [List.length_append, List.map_append, List.sum_append, UInt64.ofNat_add,
    UInt64.add_assoc]

/-- A batch is counted with one look-up at most. -/
theorem play_countBatch (hsizes : AnswersSizes stores sizes) (state : σ) (tally : Tally)
    (batch : List Record)
    (hfits : (((unsized tally.seen batch).map sizes).sum : Int) ≤ maxInt64) (debug : Bool) :
    ∃ after answer, tally.CountsBatch sizes batch after ∧
      ((countBatch debug tally batch).play stores state).trace.exchanges =
        sizeLookUp (unsized tally.seen batch) answer ∧
      ((countBatch debug tally batch).play stores state).result = .next after ∧
      SizesMayFollow stores state ((countBatch debug tally batch).play stores state).state := by
  obtain ⟨hseen, hcount, hsize, hunknown⟩ := foldl_add { tally with unknown := [] } batch
  have hsum := sum_recordSize sizes (firstOfEach tally.seen batch)
  rw [← unsized] at hsum
  rw [countBatch]
  generalize batch.foldl Tally.add { tally with unknown := [] } = counted at *
  rw [List.append_nil] at hunknown
  by_cases hnone : unsized tally.seen batch = []
  · have hempty : counted.unknown.isEmpty = true := by rw [hunknown, hnone]; rfl
    rw [hnone, List.map_nil, List.sum_nil, Nat.add_zero] at hsum
    refine ⟨counted, .ok {}, ⟨hseen, hcount, by rw [hsum, hsize]⟩, ?_⟩
    simp only [hempty, if_true, sizeLookUp, if_pos hnone]
    exact ⟨rfl, rfl, .inl rfl⟩
  · have hsome : counted.unknown.isEmpty = false := by simp [hunknown, hnone]
    have hids : counted.unknown.reverse = unsized tally.seen batch := by
      rw [hunknown, List.reverse_reverse]
    obtain ⟨answer, hplay⟩ :=
      play_lookUpSize hsizes state hnone (nodup_unsized tally.seen batch) hfits debug
    let after : Tally :=
      { counted with size := counted.size + .ofNat ((unsized tally.seen batch).map sizes).sum }
    refine ⟨after, answer, ⟨hseen, hcount, ?_⟩, ?_⟩
    · rw [hsum, UInt64.ofNat_add, ← UInt64.add_assoc, ← hsize]
    · simp only [hsome, Bool.false_eq_true, if_false, hids, Flow.play_bind, hplay, Flow.play,
        sizeLookUp, if_neg hnone]
      exact ⟨rfl, rfl, .inr ⟨_, rfl⟩⟩

end FileSet

/-- A stream is read batch by batch, and after each batch the sizes are looked up that are not
known of its files; then comes what is read without finding another record. -/
inductive SizeRounds :
    Trace StreamItem → List (List Record) → List (List String) → List Exchange → Prop
  | done (rest : Trace StreamItem) (hrest : rest.items = []) :
    SizeRounds rest [] [] rest.exchanges
  | round {read more : Trace StreamItem} {batch : List Record} {batches : List (List Record)}
    {asked : List (List String)} {log : List Exchange} (hread : read.items = batch.map .ok)
    (ids : List String) (answer : Except Failure Answer)
    (hmore : SizeRounds more batches asked log) :
    SizeRounds (read ++ more) (batch :: batches) (ids :: asked)
      (read.exchanges ++ sizeLookUp ids answer ++ log)

/-- An exchange belongs to what is read, be it the last of some or the first of others. -/
theorem SizeRounds.of_snoc {got t : Trace StreamItem} {x : Exchange}
    {batches : List (List Record)} {asked : List (List String)} {log : List Exchange}
    (h : SizeRounds (got ++ [.inl x] ++ t) batches asked
      (Trace.exchanges (got ++ [.inl x]) ++ log)) :
    SizeRounds (got ++ .inl x :: t) batches asked (got.exchanges ++ x :: log) := by
  rw [List.append_assoc, Trace.exchanges_append, List.append_assoc] at h
  exact h

namespace FileSet

/-- Counts the records of a stream that come after those of an unfinished batch, latest first. -/
def countFrom (debug : Bool) (tally : Tally) (pending : List Record) (s : RecordStream) :
    Action (Except Failure Counts) :=
  (Flow.chunksFrom lookupSize pending s).consume
    (fun tally batch =>
      match batch with
      | .error f => .finish (.stop (.error f))
      | .ok batch => countBatch debug tally batch)
    (fun tally _ => .finish (.ok ⟨tally.count, tally.size⟩))
    tally

/-- The rest of a stream is counted in rounds, the first of which has begun already. -/
theorem play_countFrom (hsizes : AnswersSizes stores sizes) {state : σ} {s : RecordStream}
    {records : List Record} (hs : s.Supplies (SizesMayFollow stores) stores state records)
    (debug : Bool) (tally : Tally) {pending : List Record} (got : Trace StreamItem)
    (hgot : got.items = pending.reverse.map .ok)
    (hfits : ∀ ids ∈ unsizedOf tally.seen (batchesFrom lookupSize pending records),
      ((ids.map sizes).sum : Int) ≤ maxInt64) :
    ((countFrom debug tally pending s).play stores state).result =
        .ok (tally.total sizes (pending.reverse ++ records)) ∧
      ∃ t, s.Leads t (.finish ()) ∧
        SizeRounds (got ++ t) (batchesFrom lookupSize pending records)
          (unsizedOf tally.seen (batchesFrom lookupSize pending records))
          (got.exchanges ++
            ((countFrom debug tally pending s).play stores state).trace.exchanges) := by
  induction hs generalizing tally pending got with
  | finish state =>
      cases pending with
      | nil =>
          refine ⟨congrArg Except.ok (tally.total_nil sizes).symm, [], .refl _, ?_⟩
          simpa [countFrom, Flow.chunksFrom, Flow.consume, Flow.play, batchesFrom, unsizedOf]
            using SizeRounds.done got hgot
      | cons record pending =>
          obtain ⟨after, answer, hcounts, hlog, hresult, -⟩ := play_countBatch hsizes state tally
            (record :: pending).reverse (hfits _ List.mem_cons_self) debug
          rw [countFrom, Flow.consume_chunksFrom_finish _ _ _ (List.cons_ne_nil _ _),
            Flow.play_bind_of_result hresult]
          simp only [Flow.play, List.append_nil]
          refine ⟨?_, [], .refl _, ?_⟩
          · have htotal := hcounts.total_eq []
            rw [Tally.total_nil, List.append_nil] at htotal
            rw [htotal]
          · have hround := SizeRounds.round hgot (unsized tally.seen (record :: pending).reverse)
              answer (.done [] rfl)
            simp only [Trace.exchanges_nil, List.append_nil] at hround ⊢
            rw [hlog]
            exact hround
  | @yield state record rest records hrest ih =>
      have hmore : Trace.items (got ++ [.inr (.ok record)]) =
          (record :: pending).reverse.map .ok := by
        rw [Trace.items_append, hgot, List.reverse_cons, List.map_append]
        rfl
      have hsame : Trace.exchanges (got ++ [.inr (.ok record)]) = got.exchanges := by
        rw [Trace.exchanges_append]
        exact List.append_nil _
      have hrecords : (record :: pending).reverse ++ records =
          pending.reverse ++ record :: records := by
        rw [List.reverse_cons, List.append_assoc, List.singleton_append]
      by_cases hfull : lookupSize ≤ (record :: pending).length
      · rw [batchesFrom, if_pos hfull] at hfits ⊢
        obtain ⟨hfirst, hothers⟩ := List.forall_mem_cons.mp hfits
        obtain ⟨after, answer, hcounts, hlog, hresult, hstate⟩ :=
          play_countBatch hsizes state tally _ hfirst debug
        have hasked := unsizedOf_congr hcounts.seen (batchesFrom lookupSize [] records)
        obtain ⟨hrestResult, t, hleads, hrounds⟩ :=
          ih _ hstate after [] rfl (hasked ▸ hothers)
        rw [countFrom] at hrestResult hrounds
        rw [countFrom, Flow.consume_chunksFrom_full _ _ _ hfull,
          Flow.play_bind_of_result hresult]
        refine ⟨?_, .inr (.ok record) :: t, hleads.yield _, ?_⟩
        · rw [hrestResult, List.reverse_nil, List.nil_append, hcounts.total_eq, hrecords]
        · have hround := SizeRounds.round hmore (unsized tally.seen (record :: pending).reverse)
            answer hrounds
          rw [hasked, hsame, ← hlog, List.append_assoc, List.append_assoc] at hround
          rw [Trace.exchanges_append]
          exact hround
      · rw [batchesFrom, if_neg hfull] at hfits ⊢
        obtain ⟨hresult, t, hleads, hrounds⟩ := ih state (.inl rfl) tally _ hmore hfits
        rw [hsame, List.append_assoc] at hrounds
        rw [countFrom, Flow.chunksFrom_small hfull, ← countFrom, ← hrecords]
        exact ⟨hresult, .inr (.ok record) :: t, hleads.yield _, hrounds⟩
  | @execute state store statement next records hnext ih =>
      obtain ⟨hresult, t, hleads, hrounds⟩ := ih tally
        (got ++ [.inl (.executed store statement (stores.execute state store statement).1)])
        (by rwa [Trace.items_snoc]) hfits
      exact ⟨hresult, _, hleads.execute store statement _, hrounds.of_snoc⟩
  | @openCursor state statement next records hnext ih =>
      obtain ⟨hresult, t, hleads, hrounds⟩ := ih tally
        (got ++ [.inl (.opened statement (stores.openCursor state statement).1)])
        (by rwa [Trace.items_snoc]) hfits
      exact ⟨hresult, _, hleads.openCursor statement _, hrounds.of_snoc⟩
  | advance cursor hrest ih =>
      obtain ⟨hresult, t, hleads, hrounds⟩ := ih tally (got ++ [.inl (.advanced cursor)])
        (by rwa [Trace.items_snoc]) hfits
      exact ⟨hresult, _, hleads.advance cursor, hrounds.of_snoc⟩

/-- A stream is counted with each of its files once, and what the first record of a file does not
tell of its size is looked up once. -/
theorem counts_of_supplies (hsizes : AnswersSizes stores sizes) {state : σ} {s : RecordStream}
    {records : List Record} (hs : s.Supplies (SizesMayFollow stores) stores state records)
    (hfits : ∀ ids ∈ unsizedOf ∅ (batchesFrom lookupSize [] records),
      ((ids.map sizes).sum : Int) ≤ maxInt64)
    (dialect : Sql.Dialect) (debug : Bool) :
    let played := (counts ⟨dialect, debug, .stream s⟩).play stores state
    let files := (idsOf records).toFinset
    let total := ∑ id ∈ files, fileSize sizes records id
    let batches := batchesFrom lookupSize [] records
    let asked := unsizedOf ∅ batches
    (∃ counts, played.result = .ok counts ∧
      (files.card < UInt64.size → counts.count.toNat = files.card) ∧
      (total < UInt64.size → counts.totalSize.toNat = total)) ∧
    (Batching lookupSize batches ∧ batches.flatten = records) ∧
    (∃ t, s.Leads t (.finish ()) ∧ SizeRounds t batches asked played.trace.exchanges) ∧
    asked.flatten.Nodup ∧
    ∀ id, id ∈ asked.flatten ↔
      ∃ record, firstRecord? records id = some record ∧ record.size = none := by
  intro played files total batches asked
  have hflatten : batches.flatten = records := flatten_batchesFrom lookupSize [] records
  have hasked : asked.flatten = unsized ∅ records := by rw [flatten_unsizedOf, hflatten]
  have htotal : Tally.total sizes {} records = ⟨.ofNat files.card, .ofNat total⟩ := by
    simp only [Tally.total, length_firstOfEach, sum_fileSize, UInt64.zero_add]
    rfl
  obtain ⟨hresult, t, hleads, hrounds⟩ :=
    play_countFrom hsizes hs debug {} [] rfl hfits
  rw [List.reverse_nil, List.nil_append, htotal] at hresult
  refine ⟨⟨_, hresult, UInt64.toNat_ofNat_of_lt, UInt64.toNat_ofNat_of_lt⟩,
    ⟨batching_batchesFrom (Nat.succ_pos _) records, hflatten⟩, ⟨t, hleads, hrounds⟩, ?_⟩
  rw [hasked]
  exact ⟨nodup_unsized ∅ records, fun id => mem_unsized_empty⟩

end FileSet

end LookUps

def weighingStores (sizes : String → Nat) : Stores Unit where
  execute _ _ statement :=
    match statement with
    | .query (.selectWhere _ _ (.oneOf _ ids)) =>
      (.ok { rows := [[.integer (.ofInt (ids.map sizes).sum)]] }, ())
    | _ => (.ok {}, ())
  openCursor _ _ := (.ok ⟨0, []⟩, ())

theorem answersSizes_weighingStores (sizes : String → Nat) :
    AnswersSizes (weighingStores sizes) sizes := by
  intro state ids _ _ hfits
  refine ⟨_, _, rfl, rfl, ?_⟩
  rw [maxInt64] at hfits
  exact Int64.toInt_ofInt_of_le (by omega) (by omega)

/-- Two files, each of them twice; the first record of one of them carries its size. -/
theorem counts_of_supplies_repeated :
    let sizes : String → Nat := fun _ => 30
    let records : List Record :=
      [{ plainRecord "a" with size := some 12 }, plainRecord "b", plainRecord "a",
        plainRecord "b"]
    ∃ counts, ((FileSet.ofRecords .sqlite records).counts.play (weighingStores sizes) ()).result =
        .ok counts ∧ counts.count.toNat = 2 ∧ counts.totalSize.toNat = 42 := by
  intro sizes records
  have hs : RecordStream.Supplies (SizesMayFollow (weighingStores sizes)) (weighingStores sizes) ()
      (.ofList (records.map .ok)) records :=
    RecordStream.supplies_of_items (fun _ _ _ => rfl) rfl
  have hfits : ∀ ids ∈ unsizedOf ∅ (batchesFrom lookupSize [] records),
      ((ids.map sizes).sum : Int) ≤ maxInt64 := by decide
  obtain ⟨⟨counts, hresult, hcount, htotal⟩, -⟩ :=
    FileSet.counts_of_supplies (answersSizes_weighingStores sizes) hs hfits .sqlite false
  exact ⟨counts, hresult, hcount (by decide), htotal (by decide)⟩

end CatalogQuery
