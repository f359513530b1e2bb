/-
Expansion in rounds.  In each round a batch is taken of a stream, the store is asked for the
files one step away, and all records of the answer come out before the next batch is taken.
What the stream itself says to the stores meanwhile may depend on their state, which the
look-ups may change.
-/
import CatalogQuery.Proofs.Batches
import CatalogQuery.Proofs.Items

namespace CatalogQuery

open Sql (ColumnSet Direction Fragment)

namespace Flow

variable {α ρ : Type}

/-- With some answers this happens in a program, which then goes on as another one. -/
inductive Leads : Flow α ρ → Trace α → Flow α ρ → Prop
  | refl (flow : Flow α ρ) : Leads flow [] flow
  | yield (item : α) {rest after : Flow α ρ} {t : Trace α} (h : Leads rest t after) :
    Leads (.yield item rest) (.inr item :: t) after
  | execute (store : Store) (statement : Sql.Statement)
    {next : Except Failure Answer → Flow α ρ} (answer : Except Failure Answer)
    {after : Flow α ρ} {t : Trace α} (h : Leads (next answer) t after) :
    Leads (.execute store statement next) (.inl (.executed store statement answer) :: t) after
  | openCursor (statement : Sql.Statement) {next : Except Failure Cursor → Flow α ρ}
    (answer : Except Failure Cursor) {after : Flow α ρ} {t : Trace α}
    (h : Leads (next answer) t after) :
    Leads (.openCursor statement next) (.inl (.opened statement answer) :: t) after
  | advance (cursor : Nat) {rest after : Flow α ρ} {t : Trace α} (h : Leads rest t after) :
    Leads (.advance cursor rest) (.inl (.advanced cursor) :: t) after

theorem Leads.trans {start middle after : Flow α ρ} {t more : Trace α}
    (h : start.Leads t middle) (hmore : middle.Leads more after) :
    start.Leads (t ++ more) after := by
  induction h with
  | refl flow => exact hmore
  | yield item _ ih => exact (ih hmore).yield item
  | execute store statement answer _ ih => exact .execute store statement answer (ih hmore)
  | openCursor statement answer _ ih => exact .openCursor statement answer (ih hmore)
  | advance cursor _ ih => exact (ih hmore).advance cursor

end Flow

/-- A round: what is said and pulled for a batch, and what the store answers for it. -/
structure Round where
  read : Trace StreamItem
  answer : Except Failure Answer
  clean : failuresOf read.items = []

namespace Round

variable (direction : Direction) (columns : ColumnSet) (debug : Bool) (round : Round)

/-- The batch. -/
def ids : List String := filesOf round.read.items

/-- The query for the files one step away from the batch. -/
def query : Sql.Query := ((Fragment.ofIds round.ids .ids).step direction columns).query

/-- The records of the answer, or why there are none. -/
def found : Except Failure (List Record) :=
  ((round.answer.map Answer.rows).mapError
    (Failure.atStep direction.name debug (round.query direction columns))).bind
      fun rows => rows.mapM (Record.ofRow direction.name)

/-- What comes out of the answer. -/
def items : List StreamItem :=
  match round.found direction columns debug with
  | .ok records => records.map .ok
  | .error f => [.error f]

/-- The round as it happens, with all records of the answer. -/
def trace : Trace StreamItem :=
  round.read.exchanges.map .inl ++
    .inl (.executed .catalog (.query (round.query direction columns)) round.answer) ::
      (round.items direction columns debug).map .inr

/-- The answer is what the stores say in some state. -/
def AnsweredBy {σ : Type} (stores : Stores σ) : Prop :=
  ∃ state, (stores.execute state .catalog (.query (round.query direction columns))).1 =
    round.answer

/-- The answer has records. -/
def Succeeds : Prop := ∃ records, round.found direction columns debug = .ok records

end Round

section Ends

variable (direction : Direction) (columns : ColumnSet) (debug : Bool) (start : RecordStream)

/-- How an expansion of a stream ends after some rounds, and what is still exchanged then. -/
inductive Ends : List Round → Trace StreamItem → Prop
  /-- The stream has come to its end. -/
  | done {rounds : List Round} {rest : Trace StreamItem}
    (hleads : start.Leads (rounds.flatMap Round.read ++ rest) (.finish ()))
    (hrest : rest.items = []) (hrounds : Batching lookupSize (rounds.map Round.ids))
    (hok : ∀ round ∈ rounds, round.Succeeds direction columns debug) :
    Ends rounds (rest.exchanges.map .inl)
  /-- The store has failed in the last round. -/
  | unanswered {rounds : List Round} {last : Round} {f : Failure} {after : RecordStream}
    (hleads : start.Leads ((rounds ++ [last]).flatMap Round.read) after)
    (hrounds : Batching lookupSize ((rounds ++ [last]).map Round.ids))
    (hok : ∀ round ∈ rounds, round.Succeeds direction columns debug)
    (hlast : last.found direction columns debug = .error f) :
    Ends (rounds ++ [last]) []
  /-- The stream has failed, and the unfinished batch is left. -/
  | interrupted {rounds : List Round} {rest : Trace StreamItem} {f : Failure}
    {after : RecordStream}
    (hleads : start.Leads (rounds.flatMap Round.read ++ rest ++ [.inr (.error f)]) after)
    (hrest : failuresOf rest.items = []) (hsmall : (filesOf rest.items).length < lookupSize)
    (hrounds : ∀ round ∈ rounds, round.ids.length = lookupSize)
    (hok : ∀ round ∈ rounds, round.Succeeds direction columns debug) :
    Ends rounds (rest.exchanges.map .inl ++ [.inr (.error f)])

end Ends

/-- The trace without the records of files that were seen before or came before. -/
def keepFresh (seen : IdSet) (t : Trace StreamItem) : Trace StreamItem :=
  Flow.keepItems (firstTest fileOfEntry) seen t

theorem keepFresh_empty (t : Trace StreamItem) : keepFresh ∅ t = t.distinct :=
  keepItems_firstTest_empty t

theorem keepFresh_exchange (seen : IdSet) (x : Exchange) (t : Trace StreamItem) :
    keepFresh seen (.inl x :: t) = .inl x :: keepFresh seen t := rfl

theorem keepFresh_map_inl (seen : IdSet) (log : List Exchange) (t : Trace StreamItem) :
    keepFresh seen (log.map .inl ++ t) = log.map .inl ++ keepFresh seen t := by
  induction log with
  | nil => rfl
  | cons x rest ih => exact congrArg (List.cons _) ih

theorem keepFresh_record (seen : IdSet) (record : Record) (t : Trace StreamItem) :
    keepFresh seen (.inr (.ok record) :: t) =
      if seen.contains record.id then keepFresh (seen.insert record.id) t
      else .inr (.ok record) :: keepFresh (seen.insert record.id) t := by
  by_cases hseen : seen.contains record.id = true
  · simp [keepFresh, Flow.keepItems, firstTest, fileOfEntry, fileOf, hseen]
  · simp [keepFresh, Flow.keepItems, firstTest, fileOfEntry, fileOf, hseen]

/-- Records come out as long as they are the first of their files, and what follows them is
judged with their files as seen. -/
theorem keepFresh_records {seen after : IdSet} {records : List Record}
    (hafter : ∀ id, after.contains id = true ↔ seen.contains id = true ∨ id ∈ idsOf records)
    (t : Trace StreamItem) :
    keepFresh seen ((records.map .ok).map .inr ++ t) =
      ((firstOfEach seen records).map .ok).map .inr ++ keepFresh after t := by
  induction records generalizing seen with
  | nil =>
      have hsame : isFresh fileOfEntry after = isFresh fileOfEntry seen := by
        funext entry
        simp only [isFresh]
        congr 1
        funext id
        rw [Bool.not_inj_iff, Bool.eq_iff_iff, hafter]
        simp [idsOf]
      rw [keepFresh, keepFresh, keepItems_firstTest, keepItems_firstTest, hsame]
      rfl
  | cons record rest ih =>
      have hrest : keepFresh (seen.insert record.id) ((rest.map .ok).map .inr ++ t) =
          ((firstOfEach (seen.insert record.id) rest).map .ok).map .inr ++ keepFresh after t :=
        ih fun id => by rw [hafter, contains_insert_or_mem]
      rw [List.map_cons, List.map_cons, List.cons_append, keepFresh_record, hrest, firstOfEach]
      split
      · rfl
      · rfl

namespace RecordStream

variable {σ : Type} {direction : Direction} {columns : ColumnSet} {debug : Bool}
  {stores : Stores σ} {state : σ} {round : Round}

/-- Adds a record to those found so far, unless it was seen before. -/
def addFresh (found : List Record × IdSet) (record : Record) : List Record × IdSet :=
  if found.2.contains record.id then found
  else (record :: found.1, found.2.insert record.id)

theorem foldl_addFresh (records found : List Record) (seen : IdSet) :
    (records.foldl addFresh (found, seen)).1.reverse =
        found.reverse ++ firstOfEach seen records ∧
      ∀ id, (records.foldl addFresh (found, seen)).2.contains id = true ↔
        seen.contains id = true ∨ id ∈ idsOf records := by
  induction records generalizing found seen with
  | nil => simp [firstOfEach, idsOf]
  | cons record rest ih =>
      simp only [List.foldl_cons, addFresh, firstOfEach]
      cases hseen : seen.contains record.id with
      | true =>
          have hinsert (id : String) :
              (seen.insert record.id).contains id = seen.contains id := by
            rw [contains_insert]
            by_cases hid : record.id = id
            · simp [← hid, hseen]
            · simp [hid]
          obtain ⟨hfound, hall⟩ := ih found seen
          refine ⟨?_, fun id => ?_⟩
          · rw [firstOfEach_congr hinsert]
            exact hfound
          · rw [← contains_insert_or_mem, hinsert]
            exact hall id
      | false =>
          obtain ⟨hfound, hall⟩ := ih (record :: found) (seen.insert record.id)
          refine ⟨?_, fun id => ?_⟩
          · simpa using hfound
          · rw [← contains_insert_or_mem]
            exact hall id

/-- Yields the records that were found, without those of files that were seen before. -/
def deliver (seen : IdSet) :
    Except Failure (List Record) → Flow StreamItem (Verdict (List String × IdSet) Unit)
  | .error f => .yield (.error f) (.finish (.stop ()))
  | .ok records =>
    let fresh := records.foldl addFresh ([], seen)
    (Flow.ofList (fresh.1.reverse.map .ok)).bind fun _ => .finish (.next ([], fresh.2))

theorem play_deliver_ok (stores : Stores σ) (state : σ) (seen : IdSet) (records : List Record) :
    ∃ after : IdSet,
      (∀ id, after.contains id = true ↔ seen.contains id = true ∨ id ∈ idsOf records) ∧
      (deliver seen (.ok records)).play stores state =
        ⟨((firstOfEach seen records).map .ok).map .inr, .next ([], after), state⟩ := by
  obtain ⟨hfresh, hafter⟩ := foldl_addFresh records [] seen
  rw [List.reverse_nil, List.nil_append] at hfresh
  refine ⟨_, hafter, ?_⟩
  simp only [deliver, Flow.play_bind, Flow.play_ofList, hfresh, Flow.play, List.append_nil]

/-- A look-up asks the store once and delivers what was found. -/
theorem lookUp_eq (direction : Direction) (columns : ColumnSet) (debug : Bool) (seen : IdSet)
    (round : Round) :
    lookUp direction columns debug seen round.ids =
      .execute .catalog (.query (round.query direction columns)) fun answer =>
        deliver seen ({ round with answer := answer }.found direction columns debug) := by
  rw [lookUp]
  apply congrArg (Flow.execute _ _)
  funext answer
  rw [Flow.bind]
  split
  · rename_i f h
    have hfound : { round with answer := answer }.found direction columns debug = .error f := h
    rw [hfound, deliver]
  · rename_i records h
    have hfound : { round with answer := answer }.found direction columns debug = .ok records := h
    rw [hfound]
    rfl

section Look

variable {later : σ}
  (hanswer : stores.execute state .catalog (.query (round.query direction columns)) =
    (round.answer, later))

include hanswer

theorem play_lookUp (debug : Bool) (seen : IdSet) :
    (lookUp direction columns debug seen round.ids).play stores state =
      let rest := (deliver seen (round.found direction columns debug)).play stores later
      ⟨.inl (.executed .catalog (.query (round.query direction columns)) round.answer) ::
        rest.trace, rest.result, rest.state⟩ := by
  simp only [lookUp_eq, Flow.play, hanswer]

/-- After a round with records what follows comes out with their files as seen. -/
theorem trace_round_ok (hok : round.Succeeds direction columns debug) (seen : IdSet)
    (next : Verdict (List String × IdSet) Unit → RecordStream) :
    ∃ after : IdSet, ∀ more : Trace StreamItem,
      ((next (.next ([], after))).play stores later).trace = keepFresh after more →
      round.read.exchanges.map .inl ++
          (((lookUp direction columns debug seen round.ids).bind next).play stores state).trace =
        keepFresh seen (round.trace direction columns debug ++ more) := by
  obtain ⟨records, hfound⟩ := hok
  obtain ⟨after, hafter, hdeliver⟩ := play_deliver_ok stores later seen records
  refine ⟨after, fun more hmore => ?_⟩
  have hplay := play_lookUp hanswer debug seen
  rw [hfound, hdeliver] at hplay
  rw [Flow.play_bind, hplay]
  simp only [hmore, Round.trace, Round.items, hfound, List.append_assoc, List.cons_append,
    keepFresh_map_inl, keepFresh_exchange, keepFresh_records hafter]

/-- A round without an answer is the last one. -/
theorem trace_round_error {f : Failure} (hfound : round.found direction columns debug = .error f)
    (seen : IdSet) {next : Verdict (List String × IdSet) Unit → RecordStream}
    (hnext : next (.stop ()) = .finish ()) :
    round.read.exchanges.map .inl ++
        (((lookUp direction columns debug seen round.ids).bind next).play stores state).trace =
      keepFresh seen (round.trace direction columns debug) := by
  have hplay := play_lookUp hanswer debug seen
  rw [hfound] at hplay
  rw [Flow.play_bind, hplay]
  simp only [deliver, Flow.play, hnext, Round.trace, Round.items, hfound, List.append_nil,
    keepFresh_map_inl, keepFresh_exchange]
  rfl

end Look

/-- An expansion with an unfinished batch, latest identifier first, and files that were seen. -/
def expandFrom (direction : Direction) (columns : ColumnSet) (debug : Bool) (ids : List String)
    (seen : IdSet) (s : RecordStream) : RecordStream :=
  s.consume
    (fun (ids, seen) item =>
      match item with
      | .error f => .yield (.error f) (.finish (.stop ()))
      | .ok record =>
        let ids := record.id :: ids
        if lookupSize ≤ ids.length then lookUp direction columns debug seen ids.reverse
        else .finish (.next (ids, seen)))
    (fun (ids, seen) _ =>
      if ids.isEmpty then .finish ()
      else (lookUp direction columns debug seen ids.reverse).bind fun _ => .finish ())
    (ids, seen)

theorem expandFrom_finish {ids : List String} (hids : ids ≠ []) (seen : IdSet) :
    expandFrom direction columns debug ids seen (.finish ()) =
      (lookUp direction columns debug seen ids.reverse).bind fun _ => .finish () := by
  cases ids with
  | nil => exact absurd rfl hids
  | cons id rest => rfl

theorem expandFrom_full {ids : List String} {record : Record}
    (hfull : lookupSize ≤ (record.id :: ids).length) (seen : IdSet) (rest : RecordStream) :
    expandFrom direction columns debug ids seen (.yield (.ok record) rest) =
      (lookUp direction columns debug seen (record.id :: ids).reverse).bind fun verdict =>
        match verdict with
        | .next state => expandFrom direction columns debug state.1 state.2 rest
        | .stop result => .finish result := by
  simp only [expandFrom, Flow.consume, hfull, if_true]
  apply congrArg (Flow.bind _)
  funext verdict
  cases verdict <;> rfl

theorem expandFrom_small {ids : List String} {record : Record}
    (hsmall : ¬lookupSize ≤ (record.id :: ids).length) (seen : IdSet) (rest : RecordStream) :
    expandFrom direction columns debug ids seen (.yield (.ok record) rest) =
      expandFrom direction columns debug (record.id :: ids) seen rest := by
  simp only [expandFrom, Flow.consume, hsmall, if_false, Flow.bind]

/-- A program goes on from where it is. -/
theorem leads_snoc {start s after : RecordStream} {before got : Trace StreamItem}
    {entry : Exchange ⊕ StreamItem} (hleads : start.Leads (before ++ got) s)
    (hnext : s.Leads [entry] after) : start.Leads (before ++ (got ++ [entry])) after := by
  rw [← List.append_assoc]
  exact hleads.trans hnext

/-- The round that the store would answer now. -/
def nextRound (stores : Stores σ) (state : σ) (direction : Direction) (columns : ColumnSet)
    (read : Trace StreamItem) (clean : failuresOf read.items = []) : Round :=
  let query := ((Fragment.ofIds (filesOf read.items) .ids).step direction columns).query
  ⟨read, (stores.execute state .catalog (.query query)).1, clean⟩

theorem execute_nextRound (state : σ) {read : Trace StreamItem}
    (clean : failuresOf read.items = []) :
    stores.execute state .catalog
        (.query ((nextRound stores state direction columns read clean).query direction columns)) =
      ((nextRound stores state direction columns read clean).answer,
        (stores.execute state .catalog (.query
          ((nextRound stores state direction columns read clean).query direction columns))).2) :=
  rfl

def AllFull (direction : Direction) (columns : ColumnSet) (debug : Bool) (rounds : List Round) :
    Prop :=
  ∀ round ∈ rounds, round.ids.length = lookupSize ∧ round.Succeeds direction columns debug

section Expands

variable {start s : RecordStream} {earlier : List Round} {got t : Trace StreamItem}
  {seen : IdSet}

theorem AllFull.batching (h : AllFull direction columns debug earlier) {rounds : List Round}
    (hrounds : Batching lookupSize (rounds.map Round.ids)) :
    Batching lookupSize ((earlier ++ rounds).map Round.ids) := by
  rw [List.map_append]
  apply hrounds.append
  rw [List.forall_mem_map]
  exact fun round hround => (h round hround).1

theorem AllFull.succeeds (h : AllFull direction columns debug earlier) :
    ∀ round ∈ earlier, round.Succeeds direction columns debug :=
  fun round hround => (h round hround).2

theorem AllFull.append (h : AllFull direction columns debug earlier)
    (hlength : round.ids.length = lookupSize) (hok : round.Succeeds direction columns debug) :
    AllFull direction columns debug (earlier ++ [round]) :=
  List.forall_mem_append.mpr ⟨h, List.forall_mem_singleton.mpr ⟨hlength, hok⟩⟩

/-- With some rounds behind and an unfinished batch, a trace goes on in rounds to an end. -/
def Expands (direction : Direction) (columns : ColumnSet) (debug : Bool) (stores : Stores σ)
    (start : RecordStream) (earlier : List Round) (got : Trace StreamItem) (seen : IdSet)
    (t : Trace StreamItem) : Prop :=
  ∃ rounds closing, Ends direction columns debug start (earlier ++ rounds) closing ∧
    (∀ round ∈ rounds, round.AnsweredBy direction columns stores) ∧
    got.exchanges.map .inl ++ t =
      keepFresh seen (rounds.flatMap (Round.trace direction columns debug) ++ closing)

/-- An exchange belongs to the unfinished batch. -/
theorem Expands.exchange {x : Exchange}
    (h : Expands direction columns debug stores start earlier (got ++ [.inl x]) seen t) :
    Expands direction columns debug stores start earlier got seen (.inl x :: t) := by
  obtain ⟨rounds, closing, hends, hanswers, htrace⟩ := h
  rw [Trace.exchanges_append, List.map_append, List.append_assoc] at htrace
  exact ⟨rounds, closing, hends, hanswers, htrace⟩

/-- A record of the unfinished batch does not come out. -/
theorem Expands.record {record : Record}
    (h : Expands direction columns debug stores start earlier (got ++ [.inr (.ok record)]) seen t) :
    Expands direction columns debug stores start earlier got seen t := by
  have hexchanges : Trace.exchanges (got ++ [.inr (.ok record)]) = got.exchanges := by
    rw [Trace.exchanges_append]
    exact List.append_nil _
  rwa [Expands, hexchanges] at h

/-- An empty batch is not asked for. -/
theorem expands_done (hleads : start.Leads (earlier.flatMap Round.read ++ got) (.finish ()))
    (hearlier : AllFull direction columns debug earlier) (hgot : got.items = []) :
    Expands direction columns debug stores start earlier got seen [] := by
  have hlog := keepFresh_map_inl seen got.exchanges []
  rw [List.append_nil] at hlog
  refine ⟨[], got.exchanges.map .inl, ?_, fun _ hround => (List.not_mem_nil hround).elim, ?_⟩
  · have hnone : Batching lookupSize (([] : List Round).map Round.ids) := .nil
    have hbatching := hearlier.batching hnone
    rw [List.append_nil] at hbatching ⊢
    exact .done hleads hgot hbatching hearlier.succeeds
  · rw [List.flatMap_nil, List.nil_append, hlog]
    rfl

/-- A failure of the stream comes out, and the unfinished batch is left. -/
theorem expands_failure {f : Failure} {rest : RecordStream}
    (hleads : start.Leads (earlier.flatMap Round.read ++ got) (.yield (.error f) rest))
    (hearlier : AllFull direction columns debug earlier) (hgot : failuresOf got.items = [])
    (hsmall : (filesOf got.items).length < lookupSize) :
    Expands direction columns debug stores start earlier got seen [.inr (.error f)] := by
  refine ⟨[], got.exchanges.map .inl ++ [.inr (.error f)], ?_,
    fun _ hround => (List.not_mem_nil hround).elim, ?_⟩
  · rw [List.append_nil]
    exact .interrupted (hleads.trans (.yield _ (.refl rest))) hgot hsmall
      (fun round hround => (hearlier round hround).1) hearlier.succeeds
  · rw [List.flatMap_nil, List.nil_append, keepFresh_map_inl]
    rfl

/-- A batch is asked for; unless the answer fails, the rest goes on behind it. -/
theorem expands_round (hleads : start.Leads (earlier.flatMap Round.read ++ got) s)
    (hearlier : AllFull direction columns debug earlier) (hgot : failuresOf got.items = [])
    (hbatch : Batching lookupSize [filesOf got.items]) {state : σ}
    {next : Verdict (List String × IdSet) Unit → RecordStream}
    (hstop : next (.stop ()) = .finish ())
    (hnext : ∀ (round : Round) (after : IdSet) (later : σ), round.read = got →
      round.Succeeds direction columns debug →
      ∃ rounds closing,
        Ends direction columns debug start (earlier ++ (round :: rounds)) closing ∧
        (∀ other ∈ rounds, other.AnsweredBy direction columns stores) ∧
        ((next (.next ([], after))).play stores later).trace =
          keepFresh after (rounds.flatMap (Round.trace direction columns debug) ++ closing)) :
    Expands direction columns debug stores start earlier got seen
      (((lookUp direction columns debug seen (filesOf got.items)).bind next).play stores
        state).trace := by
  let round := nextRound stores state direction columns got hgot
  have hanswer : round.AnsweredBy direction columns stores := ⟨state, rfl⟩
  cases hfound : round.found direction columns debug with
  | error f =>
      refine ⟨[round], [], ?_, List.forall_mem_singleton.mpr hanswer, ?_⟩
      · have hread : start.Leads ((earlier ++ [round]).flatMap Round.read) s := by
          rw [List.flatMap_append, List.flatMap_singleton]
          exact hleads
        exact .unanswered hread (hearlier.batching hbatch) hearlier.succeeds hfound
      · rw [List.flatMap_singleton, List.append_nil]
        exact trace_round_error (execute_nextRound state hgot) hfound seen hstop
  | ok records =>
      have hok : round.Succeeds direction columns debug := ⟨records, hfound⟩
      obtain ⟨after, htrace⟩ := trace_round_ok (execute_nextRound state hgot) hok seen next
      obtain ⟨rounds, closing, hends, hanswers, hrest⟩ := hnext round after _ rfl hok
      refine ⟨round :: rounds, closing, hends, List.forall_mem_cons.mpr ⟨hanswer, hanswers⟩, ?_⟩
      rw [List.flatMap_cons, List.append_assoc]
      exact htrace _ hrest

end Expands

theorem failuresOf_items_snoc (got : Trace StreamItem) (record : Record) :
    failuresOf (Trace.items (got ++ [.inr (.ok record)])) = failuresOf got.items := by
  rw [Trace.items_append, failuresOf_append]
  exact List.append_nil _

theorem filesOf_items_snoc (got : Trace StreamItem) (record : Record) :
    filesOf (Trace.items (got ++ [.inr (.ok record)])) = filesOf got.items ++ [record.id] := by
  rw [Trace.items_append, filesOf_append]
  rfl

/-- From each place in a run there are further rounds to an end. -/
theorem expands_expandFrom {start : RecordStream} (s : RecordStream) (state : σ) (seen : IdSet)
    {earlier : List Round} {got : Trace StreamItem}
    (hleads : start.Leads (earlier.flatMap Round.read ++ got) s)
    (hearlier : AllFull direction columns debug earlier) (hgot : failuresOf got.items = [])
    (hsmall : (filesOf got.items).length < lookupSize) :
    Expands direction columns debug stores start earlier got seen
      ((expandFrom direction columns debug (filesOf got.items).reverse seen s).play stores
        state).trace := by
  induction s generalizing state seen earlier got with
  | finish result =>
      by_cases hids : filesOf got.items = []
      · rw [hids]
        exact expands_done hleads hearlier (eq_nil_of_filesOf hids hgot)
      · have hids' : (filesOf got.items).reverse ≠ [] := by simpa using hids
        rw [expandFrom_finish hids', List.reverse_reverse]
        apply expands_round hleads hearlier hgot (.last hids hsmall) rfl
        rintro round after later rfl hok
        refine ⟨[], [], ?_, fun _ hround => (List.not_mem_nil hround).elim, rfl⟩
        have hread : start.Leads ((earlier ++ [round]).flatMap Round.read ++ []) (.finish ()) := by
          rw [List.append_nil, List.flatMap_append, List.flatMap_singleton]
          exact hleads
        exact .done hread rfl (hearlier.batching (.last hids hsmall))
          (List.forall_mem_append.mpr ⟨hearlier.succeeds, List.forall_mem_singleton.mpr hok⟩)
  | yield item rest ih =>
      rcases item with f | record
      · exact expands_failure hleads hearlier hgot hsmall
      · -- The record belongs to the unfinished batch.
        let more : Trace StreamItem := got ++ [.inr (.ok record)]
        have hmore : start.Leads (earlier.flatMap Round.read ++ more) rest :=
          leads_snoc hleads (.yield _ (.refl rest))
        have hclean : failuresOf more.items = [] := (failuresOf_items_snoc got record).trans hgot
        have hids : filesOf more.items = filesOf got.items ++ [record.id] :=
          filesOf_items_snoc got record
        have hreverse : record.id :: (filesOf got.items).reverse =
            (filesOf more.items).reverse := by
          rw [hids, List.reverse_append]
          rfl
        have hlength : (record.id :: (filesOf got.items).reverse).length =
            (filesOf more.items).length := by
          rw [hreverse, List.length_reverse]
        apply Expands.record
        by_cases hfull : lookupSize ≤ (record.id :: (filesOf got.items).reverse).length
        · have hsize : (filesOf more.items).length = lookupSize := by
            rw [hids, List.length_append, List.length_singleton] at hlength ⊢
            omega
          rw [expandFrom_full hfull, hreverse, List.reverse_reverse]
          apply expands_round hmore hearlier hclean (.cons hsize .nil) rfl
          intro round after later hround hok
          have hids' : round.ids.length = lookupSize := by rw [Round.ids, hround, hsize]
          have hleads' : start.Leads ((earlier ++ [round]).flatMap Round.read ++ []) rest := by
            rw [List.append_nil, List.flatMap_append, List.flatMap_singleton, hround]
            exact hmore
          obtain ⟨rounds, closing, hends, hanswers, htrace⟩ := ih later after hleads'
            (hearlier.append hids' hok) rfl (Nat.succ_pos _)
          rw [List.append_assoc] at hends
          exact ⟨rounds, closing, hends, hanswers, htrace⟩
        · rw [expandFrom_small hfull, hreverse]
          refine ih state seen hmore hearlier hclean ?_
          rw [← hlength]
          exact Nat.lt_of_not_le hfull
  | execute store statement next ih =>
      have hnext := leads_snoc hleads
        (.execute store statement (stores.execute state store statement).1 (.refl _))
      have hrest := ih _ (stores.execute state store statement).2 seen hnext hearlier
        (Trace.items_snoc got _ ▸ hgot) (Trace.items_snoc got _ ▸ hsmall)
      rw [Trace.items_snoc] at hrest
      exact hrest.exchange
  | openCursor statement next ih =>
      have hnext := leads_snoc hleads
        (.openCursor statement (stores.openCursor state statement).1 (.refl _))
      have hrest := ih _ (stores.openCursor state statement).2 seen hnext hearlier
        (Trace.items_snoc got _ ▸ hgot) (Trace.items_snoc got _ ▸ hsmall)
      rw [Trace.items_snoc] at hrest
      exact hrest.exchange
  | advance cursor rest ih =>
      have hnext := leads_snoc hleads (.advance cursor (.refl rest))
      have hrest := ih state seen hnext hearlier (Trace.items_snoc got _ ▸ hgot)
        (Trace.items_snoc got _ ▸ hsmall)
      rw [Trace.items_snoc] at hrest
      exact hrest.exchange

section Outcome

variable {start : RecordStream} {rounds : List Round} {closing : Trace StreamItem}

theorem batching_of_ends (h : Ends direction columns debug start rounds closing) :
    Batching lookupSize (rounds.map Round.ids) := by
  cases h with
  | done _ _ hrounds _ => exact hrounds
  | unanswered _ hrounds _ _ => exact hrounds
  | interrupted _ _ _ hrounds _ =>
      have hfull : ∀ batch ∈ rounds.map Round.ids, batch.length = lookupSize :=
        List.forall_mem_map.mpr hrounds
      have hbatching := Batching.nil.append hfull
      rwa [List.append_nil] at hbatching

/-- No record comes after the last round. -/
theorem filesOf_closing (h : Ends direction columns debug start rounds closing) :
    filesOf closing.items = [] := by
  cases h with
  | done _ _ _ _ =>
      rw [Trace.items_map_inl]
      rfl
  | unanswered _ _ _ _ => rfl
  | interrupted _ _ _ _ _ =>
      rw [Trace.items_append, Trace.items_map_inl]
      rfl

theorem filesOf_read (rounds : List Round) :
    filesOf (Trace.items (rounds.flatMap Round.read)) = (rounds.map Round.ids).flatten := by
  induction rounds with
  | nil => rfl
  | cons round rest ih =>
      rw [List.flatMap_cons, Trace.items_append, filesOf_append, ih, List.map_cons,
        List.flatten_cons, Round.ids]

/-- All records of an answer come out of its round. -/
theorem items_rounds (rounds : List Round) :
    Trace.items (rounds.flatMap (Round.trace direction columns debug)) =
      rounds.flatMap (Round.items direction columns debug) := by
  induction rounds with
  | nil => rfl
  | cons round rest ih =>
      have hitems : (round.trace direction columns debug).items =
          round.items direction columns debug := by
        rw [Round.trace, Trace.items_append, Trace.items_map_inl, List.nil_append,
          Trace.items_exchange, Trace.items_map_inr]
      rw [List.flatMap_cons, Trace.items_append, ih, List.flatMap_cons, hitems]

end Outcome

/-- An expansion takes a stream in rounds. -/
theorem exists_rounds (s : RecordStream) (direction : Direction) (columns : ColumnSet)
    (debug : Bool) (stores : Stores σ) (state : σ) :
    ∃ rounds closing, Ends direction columns debug s rounds closing ∧
      (∀ round ∈ rounds, round.AnsweredBy direction columns stores) ∧
      ((s.expand direction columns debug).play stores state).trace =
        Trace.distinct (rounds.flatMap (Round.trace direction columns debug) ++ closing) := by
  have hexpands : Expands direction columns debug stores s [] [] ∅
      ((expandFrom direction columns debug [] ∅ s).play stores state).trace :=
    expands_expandFrom s state ∅ (.refl s) (fun _ hround => (List.not_mem_nil hround).elim) rfl
      (Nat.succ_pos _)
  obtain ⟨rounds, closing, hends, hanswers, htrace⟩ := hexpands
  refine ⟨rounds, closing, hends, hanswers, ?_⟩
  rw [← keepFresh_empty, ← htrace]
  rfl

end RecordStream

end CatalogQuery
