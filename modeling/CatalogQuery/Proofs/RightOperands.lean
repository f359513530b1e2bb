/-
Sets that are read first.  A set of records is restricted to the files that other sets have, or
do not have, and these are read one after another as soon as something is pulled.  A failure
among them is all that comes out; the sets behind it are left alone, and so is the restricted
set.  Without a failure all of them are read to their ends before anything else is pulled.
-/
import CatalogQuery.Proofs.Windows

namespace CatalogQuery

open Sql (Fragment)

namespace Trace

/-- What is exchanged until the first failure, and that failure. -/
def untilFailure : Trace StreamItem → List Exchange × Option Failure
  | [] => ([], none)
  | .inl x :: rest =>
    let (log, failure) := untilFailure rest
    (x :: log, failure)
  | .inr (.ok _) :: rest => untilFailure rest
  | .inr (.error f) :: _ => ([], some f)

theorem untilFailure_append {t : Trace StreamItem} (h : failuresOf t.items = [])
    (more : Trace StreamItem) :
    untilFailure (t ++ more) =
      (t.exchanges ++ (untilFailure more).1, (untilFailure more).2) := by
  induction t with
  | nil => rfl
  | cons entry rest ih =>
      rcases entry with x | f | record
      · rw [List.cons_append, untilFailure, ih h]
        rfl
      · cases h
      · rw [List.cons_append, untilFailure, ih h]
        rfl

theorem untilFailure_eq {t : Trace StreamItem} (h : failuresOf t.items = []) :
    untilFailure t = (t.exchanges, none) := by
  have happend := untilFailure_append h []
  rwa [List.append_nil, untilFailure, List.append_nil] at happend

theorem untilFailure_failure {t : Trace StreamItem} (h : failuresOf t.items = [])
    (f : Failure) (more : Trace StreamItem) :
    untilFailure (t ++ .inr (.error f) :: more) = (t.exchanges, some f) := by
  rw [untilFailure_append h, untilFailure, List.append_nil]

/-- Nothing counts behind a failure. -/
theorem untilFailure_append_of_eq_some {t : Trace StreamItem} {f : Failure}
    (h : (untilFailure t).2 = some f) (more : Trace StreamItem) :
    untilFailure (t ++ more) = untilFailure t := by
  induction t with
  | nil => cases h
  | cons entry rest ih =>
      rcases entry with x | g | record
      · rw [List.cons_append, untilFailure, ih h, untilFailure]
      · rfl
      · rw [List.cons_append, untilFailure, ih h, untilFailure]

/-- The failure is the first one among the items. -/
theorem untilFailure_snd (t : Trace StreamItem) :
    (untilFailure t).2 = (failuresOf t.items).head? := by
  induction t with
  | nil => rfl
  | cons entry rest ih =>
      rcases entry with x | f | record
      · exact ih
      · rfl
      · exact ih

theorem untilFailure_eq_none_iff {t : Trace StreamItem} :
    (untilFailure t).2 = none ↔ failuresOf t.items = [] := by
  rw [untilFailure_snd, List.head?_eq_none_iff]

end Trace

theorem failuresOf_flatMap_items {σ : Type} {runs : List (Played σ StreamItem Unit)} :
    failuresOf (Trace.items (runs.flatMap Played.trace)) = [] ↔
      ∀ run ∈ runs, failuresOf run.trace.items = [] := by
  induction runs with
  | nil => exact ⟨fun _ _ hrun => (List.not_mem_nil hrun).elim, fun _ => rfl⟩
  | cons run rest ih =>
      rw [List.flatMap_cons, Trace.items_append, failuresOf_append, List.append_eq_nil_iff, ih,
        List.forall_mem_cons]

namespace RecordStream

variable {σ : Type} (stores : Stores σ) (state : σ)

/-- A program reads streams for the identifiers that have some property: it yields nothing, says
to the stores what the streams say until their first failure, and returns that failure. -/
structure Reads (streams : List RecordStream) (accept : String → Prop)
    (flow : Flow StreamItem (Except Failure IdSet)) : Prop where
  trace : (flow.play stores state).trace =
    (Trace.untilFailure ((runsInTurn stores state streams).flatMap Played.trace)).1.map .inl
  error (f : Failure) :
    (Trace.untilFailure ((runsInTurn stores state streams).flatMap Played.trace)).2 = some f →
      (flow.play stores state).result = .error f
  ok : (Trace.untilFailure ((runsInTurn stores state streams).flatMap Played.trace)).2 = none →
    (∃ ids, (flow.play stores state).result = .ok ids ∧
      ∀ id, ids.contains id = true ↔ accept id) ∧
    (flow.play stores state).state = stateAfter state (runsInTurn stores state streams)

/-- Adds the identifiers of the records of a stream to others. -/
def collectFrom (ids : IdSet) (s : RecordStream) : Flow StreamItem (Except Failure IdSet) :=
  s.consume
    (fun ids item =>
      match item with
      | .ok record => .finish (.next (ids.insert record.id))
      | .error f => .finish (.stop (.error f)))
    (fun ids _ => .finish (.ok ids))
    ids

/-- What comes of reading a stream depends on its trace until the first failure. -/
theorem play_collectFrom (ids : IdSet) (s : RecordStream) :
    ((collectFrom ids s).play stores state).trace =
        (s.play stores state).trace.untilFailure.1.map .inl ∧
      ((collectFrom ids s).play stores state).result =
        (match (s.play stores state).trace.untilFailure.2 with
          | some f => .error f
          | none => .ok ((recordsOf (s.play stores state).trace.items).foldl
              (fun ids record => ids.insert record.id) ids)) ∧
      ((s.play stores state).trace.untilFailure.2 = none →
        ((collectFrom ids s).play stores state).state = (s.play stores state).state) := by
  induction s generalizing ids state with
  | finish result => exact ⟨rfl, rfl, fun _ => rfl⟩
  | yield item rest ih =>
      rcases item with f | record
      · exact ⟨rfl, rfl, fun hnone => nomatch hnone⟩
      · exact ih state (ids.insert record.id)
  | execute store statement next ih =>
      obtain ⟨htrace, hresult, hstate⟩ := ih (stores.execute state store statement).1
        (stores.execute state store statement).2 ids
      exact ⟨congrArg (List.cons _) htrace, hresult, hstate⟩
  | openCursor statement next ih =>
      obtain ⟨htrace, hresult, hstate⟩ := ih (stores.openCursor state statement).1
        (stores.openCursor state statement).2 ids
      exact ⟨congrArg (List.cons _) htrace, hresult, hstate⟩
  | advance cursor rest ih =>
      obtain ⟨htrace, hresult, hstate⟩ := ih state ids
      exact ⟨congrArg (List.cons _) htrace, hresult, hstate⟩

theorem reads_collectIds (s : RecordStream) :
    Reads stores state [s] (fun id => id ∈ filesOf (s.play stores state).trace.items)
      (collectIds s) := by
  have hruns : (runsInTurn stores state [s]).flatMap Played.trace =
      (s.play stores state).trace := List.append_nil _
  obtain ⟨htrace, hresult, hstate⟩ := play_collectFrom stores state ∅ s
  refine ⟨by rw [hruns]; exact htrace, fun f hf => ?_, fun hnone => ?_⟩
  · rw [hruns] at hf
    rw [hf] at hresult
    exact hresult
  · rw [hruns] at hnone
    rw [hnone] at hresult
    refine ⟨⟨_, hresult, fun id => ?_⟩, hstate hnone⟩
    rw [contains_foldl_insert]
    simp [filesOf]

/-- After a stream others may be read for what they have in common with it. -/
theorem Reads.collectMore {s : RecordStream} {rest : List RecordStream} {p : String → Prop}
    {q : IdSet → String → Prop} {flow : Flow StreamItem (Except Failure IdSet)}
    {more : IdSet → Flow StreamItem (Except Failure IdSet)}
    (hflow : Reads stores state [s] p flow)
    (hmore : ∀ ids, Reads stores (s.play stores state).state rest (q ids) (more ids))
    {r : String → Prop}
    (hr : ∀ ids : IdSet, (∀ id, ids.contains id = true ↔ p id) → ∀ id, q ids id ↔ r id) :
    Reads stores state (s :: rest) r (flow.bind fun found =>
      match found with
      | .error f => .finish (.error f)
      | .ok ids => more ids) := by
  have hone : (runsInTurn stores state [s]).flatMap Played.trace =
      (s.play stores state).trace := List.append_nil _
  have hall : (runsInTurn stores state (s :: rest)).flatMap Played.trace =
      (s.play stores state).trace ++
        (runsInTurn stores (s.play stores state).state rest).flatMap Played.trace := rfl
  obtain ⟨htrace, herror, hok⟩ := hflow
  rw [hone] at htrace herror hok
  cases hfirst : (s.play stores state).trace.untilFailure.2 with
  | some f =>
      -- The others are not come to.
      have hplay := Flow.play_bind_of_result (herror f hfirst) fun found =>
        match found with
        | .error f => .finish (.error f)
        | .ok ids => more ids
      have huntil := Trace.untilFailure_append_of_eq_some hfirst
        ((runsInTurn stores (s.play stores state).state rest).flatMap Played.trace)
      refine ⟨?_, ?_, ?_⟩
      · rw [hplay, hall, huntil, ← htrace]
        exact List.append_nil _
      · rw [hplay, hall, huntil, hfirst]
        rintro g ⟨⟩
        rfl
      · rw [hall, huntil, hfirst]
        rintro ⟨⟩
  | none =>
      obtain ⟨⟨ids, hresult, hids⟩, hstate⟩ := hok hfirst
      have hplay := Flow.play_bind_of_result hresult fun found =>
        match found with
        | .error f => .finish (.error f)
        | .ok ids => more ids
      rw [hstate] at hplay
      have hclean := Trace.untilFailure_eq_none_iff.mp hfirst
      have huntil := Trace.untilFailure_append hclean
        ((runsInTurn stores (s.play stores state).state rest).flatMap Played.trace)
      rw [Trace.untilFailure_eq hclean] at htrace
      obtain ⟨hmoreTrace, hmoreError, hmoreOk⟩ := hmore ids
      refine ⟨?_, ?_, ?_⟩
      · rw [hplay, hall, huntil, List.map_append]
        exact congrArg₂ _ htrace hmoreTrace
      · rw [hplay, hall, huntil]
        exact hmoreError
      · rw [hplay, hall, huntil]
        intro hnone
        obtain ⟨⟨common, hcommon, hcontains⟩, hafter⟩ := hmoreOk hnone
        exact ⟨⟨common, hcommon, fun id => (hcontains id).trans (hr ids hids id)⟩, hafter⟩

/-- A file is among the records of each of some runs. -/
def InEach (runs : List (Played σ StreamItem Unit)) (id : String) : Prop :=
  ∀ run ∈ runs, id ∈ filesOf run.trace.items

theorem reads_collectCommon (ids : IdSet) (streams : List RecordStream) :
    Reads stores state streams
      (fun id => ids.contains id = true ∧ InEach (runsInTurn stores state streams) id)
      (collectCommon ids streams) := by
  induction streams generalizing state ids with
  | nil =>
      refine ⟨rfl, fun f hf => (nomatch hf), fun _ => ⟨⟨ids, rfl, fun id => ?_⟩, rfl⟩⟩
      simp [InEach, runsInTurn]
  | cons s rest ih =>
      apply (reads_collectIds stores state s).collectMore stores state
        (fun found => ih (s.play stores state).state (ids.filter found.contains))
      intro found hfound id
      rw [contains_filter, Bool.and_eq_true, hfound, InEach, InEach, runsInTurn,
        List.forall_mem_cons, and_assoc]

/-- Reads some streams for what they have in common. -/
def collectAll (first : RecordStream) (rest : List RecordStream) :
    Flow StreamItem (Except Failure IdSet) :=
  (collectIds first).bind fun found =>
    match found with
    | .error f => .finish (.error f)
    | .ok ids => collectCommon ids rest

theorem reads_collectAll (first : RecordStream) (rest : List RecordStream) :
    Reads stores state (first :: rest) (InEach (runsInTurn stores state (first :: rest)))
      (collectAll first rest) := by
  apply (reads_collectIds stores state first).collectMore stores state
    (fun found => reads_collectCommon stores (first.play stores state).state found rest)
  intro found hfound id
  rw [hfound, InEach, InEach, runsInTurn, List.forall_mem_cons]

/-- The records of a stream that a set of identifiers allows, after the set was read. -/
def restricted (left : RecordStream) (read : Flow StreamItem (Except Failure IdSet))
    (allows : IdSet → String → Bool) : RecordStream :=
  read.bind fun found =>
    match found with
    | .error f => fail f
    | .ok ids => dedupe (left.filterIds (allows ids))

theorem intersect_eq_restricted (left first : RecordStream) (rest : List RecordStream) :
    intersect left first rest =
      restricted left (collectAll first rest) fun ids => ids.contains := by
  rw [restricted, collectAll, Flow.bind_bind]
  apply congrArg (collectIds first).bind
  funext found
  rcases found with f | ids <;> rfl

theorem difference_eq_restricted (left right : RecordStream) :
    difference left right =
      restricted left (collectIds right) fun ids id => !ids.contains id := rfl

variable {stores state} {streams : List RecordStream} {accept : String → Prop}
  {read : Flow StreamItem (Except Failure IdSet)}

/-- After a failure there is nothing but that failure. -/
theorem Reads.trace_restricted_error (hread : Reads stores state streams accept read)
    {log : List Exchange} {f : Failure}
    (hf : Trace.untilFailure ((runsInTurn stores state streams).flatMap Played.trace) =
      (log, some f))
    (left : RecordStream) (allows : IdSet → String → Bool) :
    ((restricted left read allows).play stores state).trace =
      log.map .inl ++ [.inr (.error f)] := by
  have hresult := hread.error f (congrArg Prod.snd hf)
  rw [restricted, Flow.play_bind_of_result hresult, hread.trace, hf]
  rfl

/-- Without a failure what was read comes first, and then the restricted records. -/
theorem Reads.play_restricted_ok (hread : Reads stores state streams accept read)
    (hclean : ∀ run ∈ runsInTurn stores state streams, failuresOf run.trace.items = [])
    (left : RecordStream) (allows : IdSet → String → Bool) :
    ∃ ids : IdSet, (∀ id, ids.contains id = true ↔ accept id) ∧
      ((restricted left read allows).play stores state).trace =
        (Trace.exchanges ((runsInTurn stores state streams).flatMap Played.trace)).map .inl ++
          ((dedupe (left.filterIds (allows ids))).play stores
            (stateAfter state (runsInTurn stores state streams))).trace := by
  have huntil := Trace.untilFailure_eq (failuresOf_flatMap_items.mpr hclean)
  obtain ⟨⟨ids, hresult, hids⟩, hstate⟩ := hread.ok (congrArg Prod.snd huntil)
  refine ⟨ids, hids, ?_⟩
  rw [restricted, Flow.play_bind_of_result hresult, hread.trace, huntil, hstate]

end RecordStream

def FileSet.markEach (places place : Nat) : List FileSet → List FileSet
  | [] => []
  | s :: rest => s.marked places place :: markEach places (place + 1) rest

theorem FileSet.map_stream_markEach (places place : Nat) (sets : List FileSet) :
    (markEach places place sets).map stream =
      CatalogQuery.markEach places place (sets.map stream) := by
  induction sets generalizing place with
  | nil => rfl
  | cons s rest ih => exact congrArg (List.cons _) (ih (place + 1))

theorem FileSet.stream_combined {op : Sql.SetOperation} {context : String} {s : FileSet}
    {others : List FileSet} {records : RecordStream}
    (h : (combined op context s others records).fragment? = none) :
    (combined op context s others records).stream = records := by
  unfold combined at h ⊢
  split at h
  · cases h
  · rfl

/-- What a set is restricted by. -/
inductive Restriction
  /-- Only files that all of the others have stay. -/
  | join (others : List FileSet)
  /-- Only files that the other one does not have stay. -/
  | minus (other : FileSet)

namespace Restriction

/-- The sets that are read first. -/
def others : Restriction → List FileSet
  | .join others => others
  | .minus other => [other]

def apply : Restriction → FileSet → FileSet
  | .join others, s => s.intersect others
  | .minus other, s => s.difference other

/-- How many sets there are together with the restricted one, which has place zero. -/
def places (r : Restriction) : Nat := r.others.length + 1

/-- The restriction with a mark before each record. -/
def marked (r : Restriction) : Restriction :=
  match r with
  | .join others => .join (FileSet.markEach r.places 1 others)
  | .minus other => .minus (other.marked r.places 1)

theorem streams_marked (r : Restriction) :
    r.marked.others.map FileSet.stream =
      markEach r.places 1 (r.others.map FileSet.stream) := by
  cases r with
  | join others => exact FileSet.map_stream_markEach _ _ others
  | minus other => rfl

theorem fragment?_apply_marked (r : Restriction) (s : FileSet) :
    (r.marked.apply (s.marked r.places 0)).fragment? = none := by
  rcases r with (_ | ⟨other, rest⟩) | other <;> rfl

section Runs

variable {σ : Type} (r : Restriction) (s : FileSet) (stores : Stores σ) (state : σ)

/-- The runs of the sets that are read, one after another. -/
def readings : List (Played σ StreamItem Unit) :=
  runsInTurn stores state (r.others.map FileSet.stream)

/-- The run of the restricted set after all others. -/
def lastRun : Played σ StreamItem Unit :=
  s.stream.play stores (stateAfter state (r.readings stores state))

/-- The places that records are pulled from in a run, in order. -/
def turns : List Nat :=
  ((r.marked.apply (s.marked r.places 0)).stream.play stores state).trace.turns r.places

theorem length_readings : (r.readings stores state).length + 1 = r.places := by
  rw [readings, length_runsInTurn, List.length_map, places]

theorem readings_marked :
    r.marked.readings stores state = markRuns r.places 1 (r.readings stores state) := by
  rw [readings, streams_marked, runsInTurn_markEach, readings]

theorem trace_lastRun_marked :
    (r.marked.lastRun (s.marked r.places 0) stores state).trace =
      (r.lastRun s stores state).trace.marked r.places 0 := by
  rw [lastRun, readings_marked, stateAfter_markRuns]
  exact congrArg Played.trace (Flow.play_marked stores _ r.places 0 s.stream)

end Runs

section Stream

variable {r : Restriction} {s : FileSet} {σ : Type} (stores : Stores σ) (state : σ)

/-- A restriction in memory reads the other sets, unless there are none. -/
theorem stream_apply (h : (r.apply s).fragment? = none) :
    r = .join [] ∨ ∃ (read : Flow StreamItem (Except Failure IdSet))
      (allows : IdSet → String → Bool) (accept : String → Prop),
      RecordStream.Reads stores state (r.others.map FileSet.stream) accept read ∧
        (r.apply s).stream = RecordStream.restricted s.stream read allows := by
  rcases r with (_ | ⟨first, rest⟩) | other
  · exact Or.inl rfl
  · refine Or.inr ⟨_, fun ids => ids.contains, _, RecordStream.reads_collectAll stores state _ _,
      ?_⟩
    exact (FileSet.stream_combined h).trans (RecordStream.intersect_eq_restricted _ _ _)
  · refine Or.inr ⟨_, fun ids id => !ids.contains id, _,
      RecordStream.reads_collectIds stores state _, ?_⟩
    exact (FileSet.stream_combined h).trans (RecordStream.difference_eq_restricted _ _)

theorem trace_apply_error (h : (r.apply s).fragment? = none) {log : List Exchange} {f : Failure}
    (hf : Trace.untilFailure ((r.readings stores state).flatMap Played.trace) = (log, some f)) :
    ((r.apply s).stream.play stores state).trace = log.map .inl ++ [.inr (.error f)] := by
  rcases stream_apply stores state h with rfl | ⟨read, allows, accept, hread, hstream⟩
  · cases hf
  · rw [hstream]
    exact hread.trace_restricted_error hf s.stream allows

theorem trace_apply_ok (h : (r.apply s).fragment? = none)
    (hclean : ∀ run ∈ r.readings stores state, failuresOf run.trace.items = []) :
    ∃ rest : Trace StreamItem, rest.exchanges = (r.lastRun s stores state).trace.exchanges ∧
      ((r.apply s).stream.play stores state).trace =
        (Trace.exchanges ((r.readings stores state).flatMap Played.trace)).map .inl ++ rest := by
  rcases stream_apply stores state h with rfl | ⟨read, allows, accept, hread, hstream⟩
  · exact ⟨_, rfl, rfl⟩
  · obtain ⟨ids, -, htrace⟩ := hread.play_restricted_ok hclean s.stream allows
    refine ⟨_, ?_, (congrArg (fun flow => (Flow.play stores state flow).trace) hstream).trans
      htrace⟩
    rw [RecordStream.dedupe, Flow.exchanges_filterItems, RecordStream.filterIds,
      Flow.exchanges_filterItems]
    rfl

/-- The sets in front of a failing one are pulled from in order, and the failing one until it
fails. -/
theorem turns_error {early late : List (Played σ StreamItem Unit)}
    {failing : Played σ StreamItem Unit} {before after : Trace StreamItem} {f : Failure}
    (hruns : r.readings stores state = early ++ failing :: late)
    (hearly : ∀ run ∈ early, failuresOf run.trace.items = [])
    (hfailing : failing.trace = before ++ .inr (.error f) :: after)
    (hbefore : failuresOf before.items = []) :
    r.turns s stores state =
      turnsOf 1 early ++ List.replicate (before.items.length + 1) (early.length + 1) := by
  have hlength : early.length + 1 < r.places := by
    rw [← r.length_readings stores state, hruns, List.length_append, List.length_cons]
    omega
  -- The failing run with its marks: one of them stands right before the failure.
  let read : Trace StreamItem := (markRuns r.places 1 early).flatMap Played.trace ++
    before.marked r.places (early.length + 1) ++ [.inl (.advanced (early.length + 1))]
  have hclean : failuresOf read.items = [] := by
    simp only [read, Trace.items_append, items_markRuns, Trace.items_marked, failuresOf_append,
      hbefore, failuresOf_flatMap_items.mpr hearly]
    rfl
  have hsplit : (r.marked.readings stores state).flatMap Played.trace =
      read ++ .inr (.error f) :: (after.marked r.places (early.length + 1) ++
        (markRuns r.places (early.length + 1 + 1) late).flatMap Played.trace) := by
    rw [readings_marked, hruns, markRuns_append, List.flatMap_append, Nat.add_comm 1, markRuns,
      List.flatMap_cons, hfailing, Trace.marked_append]
    simp [read, Trace.marked, Trace.markedEntry]
  have hplay := trace_apply_error stores state (fragment?_apply_marked r s)
    ((congrArg Trace.untilFailure hsplit).trans (Trace.untilFailure_failure hclean f _))
  have hturns : Trace.turns r.places read =
      turnsOf 1 early ++ List.replicate (before.items.length + 1) (early.length + 1) := by
    rw [Trace.turns_append, Trace.turns_append, turns_markRuns (by omega),
      Trace.turns_marked hlength, List.append_assoc, List.replicate_succ']
    simp [Trace.turns, Exchange.place?, hlength]
  rw [turns, ← hturns]
  apply Trace.turns_congr
  rw [hplay, Trace.exchanges_append, Trace.exchanges_map_inl]
  exact List.append_nil _

/-- Without a failure the restricted set is pulled from after all others. -/
theorem turns_ok (hclean : ∀ run ∈ r.readings stores state, failuresOf run.trace.items = []) :
    r.turns s stores state = turnsOf 1 (r.readings stores state) ++
      List.replicate (r.lastRun s stores state).trace.items.length 0 := by
  have hmarked : ∀ run ∈ r.marked.readings stores state, failuresOf run.trace.items = [] := by
    rw [readings_marked, ← failuresOf_flatMap_items, items_markRuns]
    exact failuresOf_flatMap_items.mpr hclean
  obtain ⟨rest, hrest, htrace⟩ :=
    trace_apply_ok stores state (fragment?_apply_marked r s) hmarked
  rw [trace_lastRun_marked] at hrest
  calc
    r.turns s stores state = Trace.turns r.places
        ((markRuns r.places 1 (r.readings stores state)).flatMap Played.trace ++
          (r.lastRun s stores state).trace.marked r.places 0) := by
      apply Trace.turns_congr
      rw [htrace, readings_marked, Trace.exchanges_append, Trace.exchanges_map_inl, hrest,
        Trace.exchanges_append]
    _ = _ := by
      have hzero : 0 < r.places := Nat.succ_pos _
      rw [Trace.turns_append, Trace.turns_marked hzero,
        turns_markRuns (Nat.le_of_eq ((Nat.add_comm 1 _).trans (r.length_readings stores state)))]

/-- A restriction in memory does nothing until it is pulled from.  The first pull reads the other
sets in order.  If one of them fails, that failure is all that comes out however often one pulls:
nothing is pulled from the sets behind it or from the restricted one, and nothing is said for
them to the stores.  If none fails, all of them are read to their ends first. -/
theorem play_apply (h : (r.apply s).fragment? = none) :
    ((r.apply s).stream.take 0).play stores state = ⟨[], (), state⟩ ∧
      (∀ early failing late (before after : Trace StreamItem) f,
        r.readings stores state = early ++ failing :: late →
        (∀ run ∈ early, failuresOf run.trace.items = []) →
        failing.trace = before ++ .inr (.error f) :: after → failuresOf before.items = [] →
        (∀ n, (((r.apply s).stream.take (n + 1)).play stores state).trace =
          (Trace.exchanges (early.flatMap Played.trace ++ before)).map .inl ++
            [.inr (.error f)]) ∧
        ((r.apply s).stream.play stores state).trace =
          (Trace.exchanges (early.flatMap Played.trace ++ before)).map .inl ++
            [.inr (.error f)] ∧
        r.turns s stores state =
          turnsOf 1 early ++ List.replicate (before.items.length + 1) (early.length + 1)) ∧
      ((∀ run ∈ r.readings stores state, failuresOf run.trace.items = []) →
        (∃ rest : Trace StreamItem,
          rest.exchanges = (r.lastRun s stores state).trace.exchanges ∧
          (∀ n, (((r.apply s).stream.take (n + 1)).play stores state).trace =
            (Trace.exchanges ((r.readings stores state).flatMap Played.trace)).map .inl ++
              rest.takeItems (n + 1)) ∧
          ((r.apply s).stream.play stores state).trace =
            (Trace.exchanges ((r.readings stores state).flatMap Played.trace)).map .inl ++
              rest) ∧
        r.turns s stores state = turnsOf 1 (r.readings stores state) ++
          List.replicate (r.lastRun s stores state).trace.items.length 0) := by
  refine ⟨by rw [Flow.take_zero]; rfl, ?_, fun hclean => ⟨?_, turns_ok stores state hclean⟩⟩
  · intro early failing late before after f hruns hearly hfailing hbefore
    have hsplit : (r.readings stores state).flatMap Played.trace =
        (early.flatMap Played.trace ++ before) ++
          .inr (.error f) :: (after ++ late.flatMap Played.trace) := by
      rw [hruns, List.flatMap_append, List.flatMap_cons, hfailing]
      simp only [List.append_assoc, List.cons_append]
    have hclean : failuresOf (Trace.items (early.flatMap Played.trace ++ before)) = [] := by
      rw [Trace.items_append, failuresOf_append, hbefore, failuresOf_flatMap_items.mpr hearly]
      rfl
    have hplay := trace_apply_error stores state h
      ((congrArg Trace.untilFailure hsplit).trans (Trace.untilFailure_failure hclean f _))
    refine ⟨fun n => ?_, hplay, turns_error stores state hruns hearly hfailing hbefore⟩
    rw [Flow.trace_take, hplay, Trace.takeItems_map_inl, Trace.takeItems_item,
      Trace.takeItems_nil]
  · obtain ⟨rest, hrest, htrace⟩ := trace_apply_ok stores state h hclean
    refine ⟨rest, hrest, fun n => ?_, htrace⟩
    rw [Flow.trace_take, htrace, Trace.takeItems_map_inl]

end Stream

end Restriction

/-- Stores that fail whatever they are asked. -/
def brokenStores : Stores Unit where
  execute _ _ _ := (.error (.store "boom"), ())
  openCursor _ _ := (.error (.store "boom"), ())

def queriedFile (id : String) : FileSet :=
  .ofQuery .sqlite (.ofIds [id] .ids) "file_list" false

def recordedFile (id : String) : FileSet :=
  .ofRecords .sqlite [{ id := id, space := "test", name := id }]

/-- A record in memory and two queries. -/
def mixedJoin : Restriction :=
  .join [recordedFile "a", queriedFile "b", queriedFile "c"]

/-- Of the two queries only the first one is asked, and the restricted one is not asked either.
Where nothing fails the restricted set comes last. -/
theorem play_apply_mixed :
    (mixedJoin.apply (queriedFile "d")).fragment? = none ∧
      ((mixedJoin.apply (queriedFile "d")).stream.play brokenStores ()).trace =
        [.inl (.opened (.query (Fragment.ofIds ["b"] .ids).query) (.error (.store "boom"))),
          .inr (.error (.storeFailure "file_list" none "boom"))] ∧
      mixedJoin.turns (queriedFile "d") brokenStores () = [1, 2] ∧
      (Restriction.minus (recordedFile "a")).turns (recordedFile "b") brokenStores () =
        [1, 0] := by
  have hmemory : (mixedJoin.apply (queriedFile "d")).fragment? = none := rfl
  have hrecorded : ∀ run ∈ [Flow.play brokenStores () (recordedFile "a").stream],
      failuresOf run.trace.items = [] := by
    intro run hrun
    rw [List.mem_singleton.mp hrun]
    rfl
  obtain ⟨-, htrace, hturns⟩ := (Restriction.play_apply brokenStores () hmemory).2.1 _ _ _
    [.inl (.opened (.query (Fragment.ofIds ["b"] .ids).query) (.error (.store "boom")))] [] _
    rfl hrecorded rfl rfl
  have hminus : ((Restriction.minus (recordedFile "a")).apply (recordedFile "b")).fragment? =
      none := rfl
  exact ⟨hmemory, htrace, hturns,
    ((Restriction.play_apply brokenStores () hminus).2.2 hrecorded).2⟩

end CatalogQuery
