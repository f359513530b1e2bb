/-
Attribution of failures.  Where a filter is applied in vain, its failure is attributed to it and
nothing else comes out; otherwise its records come out with each failure attributed to it that has
no code of the catalogue.  What is attributed has such a code, so that the filters above leave it
alone: however many of them pass a failure on, it names the filter that raised it.
-/
import CatalogQuery.Proofs.Backing
import CatalogQuery.Proofs.Catalogue
import CatalogQuery.Proofs.Operands
import CatalogQuery.Proofs.Thinning
import Mathlib.Data.List.Perm.Subperm

namespace CatalogQuery

open Sql (ColumnSet)

section Runs

variable {α β ρ σ : Type} (stores : Stores σ) (state : σ)

theorem Flow.play_ofAction (action : Action ρ) :
    ((ofAction action : Flow α ρ).play stores state) =
      let run := action.play stores state
      ⟨run.trace.exchanges.map .inl, run.result, run.state⟩ := by
  induction action generalizing state with
  | finish result => rfl
  | yield item rest ih => exact item.elim
  | execute store statement next ih =>
      simp only [ofAction, play, ih]
      rfl
  | openCursor statement next ih =>
      simp only [ofAction, play, ih]
      rfl
  | advance cursor rest ih =>
      simp only [ofAction, play, ih]
      rfl

theorem Flow.trace_mapItems (f : α → β) (flow : Flow α ρ) :
    ((flow.mapItems f).play stores state).trace =
      (flow.play stores state).trace.map (Sum.map id f) := by
  induction flow generalizing state with
  | finish result => rfl
  | yield item rest ih => exact congrArg (List.cons _) (ih state)
  | execute store statement next ih => exact congrArg (List.cons _) (ih _ _)
  | openCursor statement next ih => exact congrArg (List.cons _) (ih _ _)
  | advance cursor rest ih => exact congrArg (List.cons _) (ih state)

end Runs

section MapItems

variable {α β : Type} (f : α → β) (t : Trace α)

theorem Trace.items_mapItems : Trace.items (t.map (Sum.map id f)) = (Trace.items t).map f := by
  rw [Trace.items, Trace.items, List.filterMap_map, List.map_filterMap]
  congr 1
  funext entry
  cases entry <;> rfl

theorem Trace.exchanges_mapItems :
    Trace.exchanges (t.map (Sum.map id f) : Trace β) = t.exchanges := by
  rw [Trace.exchanges, Trace.exchanges, List.filterMap_map]
  congr 1
  funext entry
  cases entry <;> rfl

end MapItems

namespace Filter

/-- What comes out of a filter after the exchanges that applying it takes, by the outcome: the
failure alone, or what its stream says to the stores and yields. -/
def attributedTrace (name : String) (log : List Exchange) :
    Except Failure (Trace StreamItem) → Trace StreamItem
  | .error f => log.map .inl ++ [.inr (.error (.filterFailure name f.description))]
  | .ok raw => log.map .inl ++ raw.map (Sum.map id fun item => item.mapError (attributed name))

theorem trace_run (filter : Filter) (name : String) (inputs : List FileSet) (args : Arguments)
    {σ : Type} (stores : Stores σ) (state : σ) :
    ((filter.run name inputs args).play stores state).trace =
      let applied := (filter inputs args).play stores state
      attributedTrace name applied.trace.exchanges
        (applied.result.map fun records => (records.play stores applied.state).trace) := by
  rw [run, Flow.play_bind, Flow.play_ofAction]
  dsimp only
  cases ((filter inputs args).play stores state).result with
  | error f => rfl
  | ok records => exact congrArg _ (Flow.trace_mapItems stores _ _ records)

end Filter

theorem attributed_of_isCatalogued {f : Failure} (h : f.isCatalogued = true) (name : String) :
    Filter.attributed name f = f :=
  if_pos h

section AttributedTrace

variable (name : String) (log : List Exchange) (raw more : Trace StreamItem)

theorem failuresOf_attributedTrace_ok :
    failuresOf (Filter.attributedTrace name log (.ok raw)).items =
      (failuresOf raw.items).map (Filter.attributed name) := by
  rw [Filter.attributedTrace, Trace.items_append, Trace.items_map_inl, List.nil_append,
    Trace.items_mapItems, failuresOf, failuresOf, List.filterMap_map, List.map_filterMap]
  congr 1
  funext item
  cases item <;> rfl

theorem exchanges_attributedTrace_ok :
    (Filter.attributedTrace name log (.ok raw)).exchanges = log ++ raw.exchanges := by
  rw [Filter.attributedTrace, Trace.exchanges_append, Trace.exchanges_map_inl,
    Trace.exchanges_mapItems]

theorem failuresOf_attributedTrace_error (f : Failure) :
    failuresOf (Filter.attributedTrace name log (.error f)).items =
      [.filterFailure name f.description] := by
  rw [Filter.attributedTrace, Trace.items_append, Trace.items_map_inl]
  rfl

theorem attributedTrace_append :
    ∃ rest, Filter.attributedTrace name log (.ok (raw ++ more)) =
      Filter.attributedTrace name log (.ok raw) ++ rest := by
  simp only [Filter.attributedTrace, List.map_append, ← List.append_assoc]
  exact ⟨_, rfl⟩

end AttributedTrace

namespace Engine

variable {e : Engine} {o : Options} {call : FilterCall} {queries : List Node} {needs : ColumnSet}

theorem compileFiles_filter_iff {c : Compiled} :
    e.compileFiles o (.filter call queries) needs = .ok c ↔
      ∃ filter cs, e.filters.get? call.name = some filter ∧
        queries.mapM (fun query => e.compileFiles o query needs.withMetadata) = .ok cs ∧
        c = .records ⟨e.dialect, o.debug, .stream
          (filter.run call.name (cs.map (Compiled.files e o "filter")) call.toArguments)⟩ := by
  have hinputs : e.compileOperands o (e.expandNamed o []) needs.withMetadata needs.withMetadata
      queries = queries.mapM fun query => e.compileFiles o query needs.withMetadata := by
    rw [compileOperands_eq_mapM, eachWith_same, List.mapM_map]
    rfl
  rw [compileFiles, compileNode]
  cases hfilter : e.filters.get? call.name with
  | none => simp
  | some filter =>
      simp only [hinputs, bind_eq_ok_iff]
      constructor
      · rintro ⟨cs, hcs, hc⟩
        cases hc
        exact ⟨filter, cs, rfl, hcs, rfl⟩
      · rintro ⟨other, cs, hother, hcs, rfl⟩
        cases hother
        exact ⟨cs, hcs, rfl⟩

/-- In some run this is what the records of a query say to the stores and yield, as they are given
to a filter. -/
def IsRun (e : Engine) (o : Options) (query : Node × ColumnSet) (t : Trace StreamItem) : Prop :=
  ∃ c, e.compileFiles o query.1 query.2 = .ok c ∧ ∃ (σ : Type) (stores : Stores σ) (state : σ),
    ((c.files e o "filter").stream.play stores state).trace = t

/-- In some run the filter of a call is applied to the records of queries with these exchanges,
and the outcome is a failure, or a stream that says this to the stores and yields it. -/
def Applies (e : Engine) (o : Options) (call : FilterCall) (queries : List Node)
    (needs : ColumnSet) (log : List Exchange) (outcome : Except Failure (Trace StreamItem)) :
    Prop :=
  ∃ filter cs, e.filters.get? call.name = some filter ∧
    queries.mapM (fun query => e.compileFiles o query needs.withMetadata) = .ok cs ∧
    ∃ (σ : Type) (stores : Stores σ) (state : σ),
      let applied :=
        (filter (cs.map (Compiled.files e o "filter")) call.toArguments).play stores state
      applied.trace.exchanges = log ∧
        applied.result.map (fun records => (records.play stores applied.state).trace) = outcome

/-- Applying a filter shows in the run of its node, and nothing else does. -/
theorem isRun_filter_iff {t : Trace StreamItem} :
    e.IsRun o (.filter call queries, needs) t ↔
      ∃ log outcome, e.Applies o call queries needs log outcome ∧
        t = Filter.attributedTrace call.name log outcome := by
  constructor
  · rintro ⟨c, hc, σ, stores, state, rfl⟩
    obtain ⟨filter, cs, hfilter, hcs, rfl⟩ := compileFiles_filter_iff.mp hc
    exact ⟨_, _, ⟨filter, cs, hfilter, hcs, σ, stores, state, rfl, rfl⟩,
      filter.trace_run call.name _ call.toArguments stores state⟩
  · rintro ⟨_, _, ⟨filter, cs, hfilter, hcs, σ, stores, state, rfl, rfl⟩, rfl⟩
    exact ⟨_, compileFiles_filter_iff.mpr ⟨filter, cs, hfilter, hcs, rfl⟩, σ, stores, state,
      filter.trace_run call.name _ call.toArguments stores state⟩

theorem isCatalogued_of_isRun {query : Node × ColumnSet} {t : Trace StreamItem}
    (h : e.IsRun o query t) {f : Failure} (hf : f ∈ failuresOf t.items) :
    f.isCatalogued = true := by
  obtain ⟨c, hc, σ, stores, state, rfl⟩ := h
  have hkeeps := ((keeps_compileFiles (fits_catalogued e o) hc).files (e := e)
    (covers_catalogued o.debug) "filter").stream []
  obtain ⟨item, hitem, hfailure⟩ := List.mem_filterMap.mp hf
  obtain ⟨before, after, hsplit⟩ := Trace.mem_items_iff.mp hitem
  rcases item with failure | record
  · cases hfailure
    exact hkeeps.of_mayYield ⟨σ, stores, state, before, after, hsplit, rfl⟩ _ rfl
  · cases hfailure

end Engine

/-- Something happens within something else: what it says to the stores is said there, and each of
its failures comes out. -/
structure Trace.Within (t whole : Trace StreamItem) : Prop where
  exchanges : t.exchanges.Sublist whole.exchanges
  failures : (failuresOf t.items).Subperm (failuresOf whole.items)

theorem Trace.within_of_eq {t whole : Trace StreamItem} (hexchanges : t.exchanges = whole.exchanges)
    (hfailures : failuresOf t.items = failuresOf whole.items) : t.Within whole :=
  ⟨by rw [hexchanges], by rw [hfailures]⟩

theorem Trace.Within.trans {t middle whole : Trace StreamItem} (h : t.Within middle)
    (hmiddle : middle.Within whole) : t.Within whole :=
  ⟨h.exchanges.trans hmiddle.exchanges, h.failures.trans hmiddle.failures⟩

namespace Engine

variable {e : Engine} {o : Options} {inner outer : Node × ColumnSet} {t whole : Trace StreamItem}

/-- The beginnings of a run of a query and of one of a query above it.  Each filter between has
been applied, what has been done of the run below happens within its own run, and so the failures
that it has met are among those that its stream has yielded. -/
inductive PassedUp (e : Engine) (o : Options) (inner : Node × ColumnSet) (t : Trace StreamItem) :
    Node × ColumnSet → Trace StreamItem → Prop
  | here {more : Trace StreamItem} (h : e.IsRun o inner (t ++ more)) : PassedUp e o inner t inner t
  | filter {call : FilterCall} {queries : List Node} {query : Node} {needs : ColumnSet}
      {below : Trace StreamItem} {log : List Exchange} {raw more : Trace StreamItem}
      (h : PassedUp e o inner t (query, needs.withMetadata) below) (hquery : query ∈ queries)
      (happlies : e.Applies o call queries needs log (.ok (raw ++ more)))
      (hpasses : below.Within (log.map .inl ++ raw)) :
      PassedUp e o inner t (.filter call queries, needs)
        (Filter.attributedTrace call.name log (.ok raw))

theorem PassedUp.whole_run (h : e.IsRun o inner t) : e.PassedUp o inner t inner t := by
  rw [← List.append_nil t] at h
  exact .here h

/-- The filter's stream has come to its end. -/
theorem PassedUp.filter_whole {call : FilterCall} {queries : List Node} {query : Node}
    {needs : ColumnSet} {below raw : Trace StreamItem} {log : List Exchange}
    (h : e.PassedUp o inner t (query, needs.withMetadata) below) (hquery : query ∈ queries)
    (happlies : e.Applies o call queries needs log (.ok raw))
    (hpasses : below.Within (log.map .inl ++ raw)) :
    e.PassedUp o inner t (.filter call queries, needs)
      (Filter.attributedTrace call.name log (.ok raw)) := by
  rw [← List.append_nil raw] at happlies
  exact .filter h hquery happlies hpasses

theorem PassedUp.isRun (h : e.PassedUp o inner t outer whole) :
    ∃ more, e.IsRun o outer (whole ++ more) := by
  cases h with
  | here h => exact ⟨_, h⟩
  | filter h hquery happlies hpasses =>
      obtain ⟨rest, hrest⟩ := attributedTrace_append _ _ _ _
      exact ⟨rest, isRun_filter_iff.mpr ⟨_, _, happlies, hrest.symm⟩⟩

theorem PassedUp.isCatalogued (h : e.PassedUp o inner t outer whole) {f : Failure}
    (hf : f ∈ failuresOf whole.items) : f.isCatalogued = true := by
  obtain ⟨more, hrun⟩ := h.isRun
  apply isCatalogued_of_isRun hrun
  rw [Trace.items_append, failuresOf_append]
  exact List.mem_append_left _ hf

/-- A filter leaves the failures of another query alone. -/
theorem within_attributedTrace {below raw : Trace StreamItem} {log : List Exchange}
    (hpasses : below.Within (log.map .inl ++ raw))
    (hcatalogued : ∀ f ∈ failuresOf below.items, f.isCatalogued = true) (name : String) :
    below.Within (Filter.attributedTrace name log (.ok raw)) := by
  obtain ⟨hexchanges, hfailures⟩ := hpasses
  rw [Trace.exchanges_append, Trace.exchanges_map_inl] at hexchanges
  rw [Trace.items_append, Trace.items_map_inl, List.nil_append] at hfailures
  have hsame : (failuresOf below.items).map (Filter.attributed name) = failuresOf below.items :=
    (List.map_congr_left fun f hf => attributed_of_isCatalogued (hcatalogued f hf) name).trans
      (List.map_id _)
  constructor
  · rw [exchanges_attributedTrace_ok]
    exact hexchanges
  · rw [failuresOf_attributedTrace_ok, ← hsame]
    obtain ⟨met, hperm, hsublist⟩ := hfailures
    exact ⟨met.map _, hperm.map _, hsublist.map _⟩

/-- However many filters are between, what happens below happens within the whole. -/
theorem PassedUp.within (h : e.PassedUp o inner t outer whole) : t.Within whole := by
  induction h with
  | here h => exact Trace.within_of_eq rfl rfl
  | filter h hquery happlies hpasses ih =>
      exact ih.trans (within_attributedTrace hpasses (fun f hf => h.isCatalogued hf) _)

end Engine

/-- Where the filter can be applied to a set, it passes the items of the set on as a test tells it,
and each failure. -/
def Filter.PassesFailures (filter : Filter) : Prop :=
  ∀ input args, ∃ x, filter [input] args = .finish x ∧ ∀ records, x = .ok records →
    ∃ (τ : Type) (keep : τ → StreamItem → Bool × τ) (start : τ),
      records = input.stream.filterItems keep start ∧ ∀ state f, (keep state (.error f)).1 = true

theorem Filter.passesFailures_everyNth : everyNth.PassesFailures := by
  intro input args
  refine ⟨_, rfl, fun records hrecords => ?_⟩
  obtain ⟨only, honly, hrecords⟩ := bind_eq_ok_iff.mp hrecords
  cases honly
  dsimp only at hrecords
  split at hrecords
  · cases hrecords
  · split at hrecords
    · cases hrecords
      exact ⟨_, _, _, rfl, fun _ _ => rfl⟩
    · cases hrecords

theorem failuresOf_keepItems {τ : Type} {keep : τ → StreamItem → Bool × τ}
    (h : ∀ state f, (keep state (.error f)).1 = true) (start : τ) (items : List StreamItem) :
    failuresOf (Flow.keepItems keep start items) = failuresOf items := by
  induction items generalizing start with
  | nil => rfl
  | cons item rest ih =>
      rcases item with f | record
      · simp only [Flow.keepItems, h, ↓reduceIte]
        exact congrArg (List.cons f) (ih _)
      · simp only [Flow.keepItems]
        split
        · exact ih _
        · exact ih _

/-- In each run such a filter cannot be applied, or it passes on what is met in a run below. -/
theorem Engine.exists_below {e : Engine} {o : Options} {call : FilterCall} {filter : Filter}
    (hfilter : e.filters.get? call.name = some filter) (hpasses : filter.PassesFailures)
    {query : Node} {needs : ColumnSet} {whole : Trace StreamItem}
    (h : e.IsRun o (.filter call [query], needs) whole) :
    (∃ f, whole = Filter.attributedTrace call.name [] (.error f)) ∨
      ∃ below, e.IsRun o (query, needs.withMetadata) below ∧
        ∀ inner t, e.PassedUp o inner t (query, needs.withMetadata) below →
          e.PassedUp o inner t (.filter call [query], needs) whole := by
  obtain ⟨log, outcome, happlies, rfl⟩ := isRun_filter_iff.mp h
  have hpart := happlies
  obtain ⟨other, cs, hother, hcs, σ, stores, state, rfl, rfl⟩ := happlies
  obtain rfl : filter = other := Option.some.inj (hfilter.symm.trans hother)
  obtain ⟨c, hc, rfl⟩ : ∃ c, e.compileFiles o query needs.withMetadata = .ok c ∧ cs = [c] := by
    cases forall₂_of_mapM hcs with
    | cons hc hrest =>
        cases hrest
        exact ⟨_, hc, rfl⟩
  obtain ⟨x, hx, hselects⟩ := hpasses (c.files e o "filter") call.toArguments
  have hplay : (filter ([c].map (Compiled.files e o "filter")) call.toArguments).play stores state =
      ⟨[], x, state⟩ := by
    rw [List.map_singleton, hx]
    rfl
  rw [hplay] at hpart ⊢
  rcases x with f | records
  · exact Or.inl ⟨f, rfl⟩
  · obtain ⟨τ, keep, start, rfl, hkeep⟩ := hselects records rfl
    refine Or.inr ⟨_, ⟨c, hc, σ, stores, state, rfl⟩, fun inner t hbelow =>
      hbelow.filter_whole List.mem_cons_self hpart (Trace.within_of_eq ?_ ?_)⟩
    · exact (Flow.exchanges_filterItems stores state keep start _).symm
    · have hfailures := failuresOf_keepItems hkeep start
        ((c.files e o "filter").stream.play stores state).trace.items
      rw [← Flow.items_filterItems] at hfailures
      exact hfailures.symm

/-- The query below calls of filters, the last one next to it. -/
def Node.sieved (calls : List FilterCall) (query : Node) : Node :=
  calls.foldr (fun call below => .filter call [below]) query

/-- The engine knows the filter of the call, which passes failures on. -/
def Engine.Sieves (e : Engine) (call : FilterCall) : Prop :=
  ∃ filter, e.filters.get? call.name = some filter ∧ filter.PassesFailures

/-- In each run of such filters above each other one cannot be applied, which comes out as its
failure, or what is met in a run of the query below them all is passed up to the whole. -/
theorem Engine.exists_passedUp {e : Engine} {o : Options} {calls : List FilterCall} {query : Node}
    {needs : ColumnSet} {whole : Trace StreamItem} (hcalls : ∀ call ∈ calls, e.Sieves call)
    (h : e.IsRun o (query.sieved calls, needs) whole) :
    (∃ call ∈ calls, ∃ f, .filterFailure call.name (Failure.description f) ∈
        failuresOf whole.items) ∨
      ∃ columns t, e.IsRun o (query, columns) t ∧
        e.PassedUp o (query, columns) t (query.sieved calls, needs) whole := by
  induction calls generalizing needs whole with
  | nil => exact Or.inr ⟨needs, whole, h, .whole_run h⟩
  | cons call rest ih =>
      obtain ⟨hcall, hrest⟩ := List.forall_mem_cons.mp hcalls
      obtain ⟨filter, hfilter, hpasses⟩ := hcall
      rcases exists_below hfilter hpasses h with ⟨f, rfl⟩ | ⟨below, hbelow, hup⟩
      · refine Or.inl ⟨call, List.mem_cons_self, f, ?_⟩
        rw [failuresOf_attributedTrace_error]
        exact List.mem_cons_self
      · rcases ih hrest hbelow with ⟨other, hother, f, hf⟩ | ⟨columns, t, ht, hpassed⟩
        · have hfailures := (hup _ _ (.whole_run hbelow)).within.failures
          exact Or.inl ⟨other, List.mem_cons_of_mem _ hother, f, hfailures.subset hf⟩
        · exact Or.inr ⟨columns, t, ht, hup _ _ hpassed⟩

/-- Leaving columns out changes no failure. -/
theorem failuresOf_only {σ : Type} (stores : Stores σ) (state : σ) (s : FileSet)
    (columns : ColumnSet) :
    failuresOf ((s.only columns).stream.play stores state).trace.items =
      failuresOf (s.stream.play stores state).trace.items := by
  have htrace : ((s.only columns).stream.play stores state).trace =
      (s.stream.play stores state).trace.map
        (Sum.map id fun item => item.map (Record.only columns)) :=
    Flow.trace_mapItems stores state _ s.stream
  rw [htrace, Trace.items_mapItems, failuresOf, failuresOf, List.filterMap_map]
  congr 1
  funext item
  cases item <;> rfl

/-- What comes out of a filter is settled by applying it: a failure to apply it comes out alone, as
one of the filter, and otherwise the failures of its stream that have no code of the catalogue come
out as such.  Filters above that pass failures on leave them as they are, however many there are:
what was raised below the whole comes out unchanged, be it of a store, of a row or of a filter. -/
theorem failures_attributed_once (e : Engine) (o : Options) :
    (∀ call queries needs t, e.IsRun o (.filter call queries, needs) t ↔
        ∃ log outcome, e.Applies o call queries needs log outcome ∧
          t = Filter.attributedTrace call.name log outcome) ∧
      (∀ inner t outer whole, e.PassedUp o inner t outer whole → t.Within whole) ∧
      (∀ calls (query : Node) needs whole, (∀ call ∈ calls, e.Sieves call) →
        e.IsRun o (query.sieved calls, needs) whole →
        (∃ call ∈ calls, ∃ f, .filterFailure call.name (Failure.description f) ∈
            failuresOf whole.items) ∨
          ∃ columns t, e.IsRun o (query, columns) t ∧
            e.PassedUp o (query, columns) t (query.sieved calls, needs) whole) ∧
      (∀ call queries needs log raw outer whole,
        e.PassedUp o (.filter call queries, needs)
          (Filter.attributedTrace call.name log (.ok raw)) outer whole →
        ((failuresOf raw.items).map fun f =>
          if f.isCatalogued then f else .filterFailure call.name f.description).Subperm
            (failuresOf whole.items)) ∧
      (∀ call queries needs log f outer whole,
        e.PassedUp o (.filter call queries, needs)
          (Filter.attributedTrace call.name log (.error f)) outer whole →
        .filterFailure call.name f.description ∈ failuresOf whole.items) ∧
      ∀ call queries files, e.files o (.filter call queries) = .ok files →
        ∀ (σ : Type) (stores : Stores σ) (state : σ),
          ∃ t, e.IsRun o (.filter call queries, o.columns) t ∧
            failuresOf (files.stream.play stores state).trace.items = failuresOf t.items := by
  refine ⟨fun call queries needs t => Engine.isRun_filter_iff,
    fun inner t outer whole h => h.within,
    fun calls query needs whole hcalls h => Engine.exists_passedUp hcalls h,
    fun call queries needs log raw outer whole h => ?_,
    fun call queries needs log f outer whole h => ?_,
    fun call queries files hfiles σ stores state => ?_⟩
  · have hfailures := h.within.failures
    rwa [failuresOf_attributedTrace_ok] at hfailures
  · have hfailures := h.within.failures
    rw [failuresOf_attributedTrace_error] at hfailures
    exact hfailures.subset List.mem_cons_self
  · obtain ⟨c, hc, hfiles⟩ := bind_eq_ok_iff.mp hfiles
    obtain ⟨filter, cs, hfilter, hcs, rfl⟩ := Engine.compileFiles_filter_iff.mp hc
    cases hfiles
    exact ⟨_, ⟨_, hc, σ, stores, state, rfl⟩, failuresOf_only stores state _ o.columns⟩

/-- A filter that cannot be applied. -/
def Filter.refusing : Filter := fun _ _ => .finish (.error (.filter "no"))

/-- An engine that knows a filter for one of every so many records, and two filters that fail. -/
def nestingEngine : Engine where
  dialect := .sqlite
  filters := .ofList [("every_nth", Filter.everyNth), ("raising", Filter.raising),
    ("refusing", Filter.refusing)]
  queries := .empty

def downStores : Stores Unit where
  execute _ _ _ := (.error (.store "down"), ())
  openCursor _ _ := (.error (.store "down"), ())

/-- Two filters that keep everything. -/
def twice : List FilterCall := [everyRecord, everyRecord]

theorem sieves_twice : ∀ call ∈ twice, nestingEngine.Sieves call := by
  intro call hcall
  obtain rfl : call = everyRecord := by simpa [twice] using hcall
  exact ⟨Filter.everyNth, rfl, Filter.passesFailures_everyNth⟩

/-- The filter that keeps everything passes everything on. -/
theorem passedUp_everyRecord {e : Engine} {o : Options} {inner : Node × ColumnSet} {query : Node}
    {needs : ColumnSet} {t below : Trace StreamItem}
    (hfilter : e.filters.get? "every_nth" = some Filter.everyNth)
    (h : e.PassedUp o inner t (query, needs.withMetadata) below)
    (hrun : e.IsRun o (query, needs.withMetadata) below) :
    e.PassedUp o inner t (.filter everyRecord [query], needs)
        (Filter.attributedTrace "every_nth" [] (.ok below)) ∧
      e.IsRun o (.filter everyRecord [query], needs)
        (Filter.attributedTrace "every_nth" [] (.ok below)) := by
  obtain ⟨c, hc, σ, stores, state, rfl⟩ := hrun
  have hthins : everyRecord.toArguments.Thins 1 0 := ⟨by decide, by decide, by decide⟩
  have happlied := hthins.everyNth (c.files e o "filter")
  rw [Filter.atDistance_one] at happlied
  have hcs : [query].mapM (fun query => e.compileFiles o query needs.withMetadata) = .ok [c] := by
    rw [List.mapM_cons, hc]
    rfl
  have happlies : e.Applies o everyRecord [query] needs []
      (.ok ((c.files e o "filter").stream.play stores state).trace) := by
    refine ⟨Filter.everyNth, [c], hfilter, hcs, σ, stores, state, ?_⟩
    rw [List.map_singleton, happlied]
    exact ⟨rfl, rfl⟩
  exact ⟨h.filter_whole List.mem_cons_self happlies (Trace.within_of_eq rfl rfl),
    Engine.isRun_filter_iff.mpr ⟨[], _, happlies, rfl⟩⟩

theorem exists_passedUp_twice {query : Node} {t : Trace StreamItem}
    (h : nestingEngine.IsRun {} (query, .withMetadata .ids) t) :
    ∃ whole, nestingEngine.PassedUp {} (query, .withMetadata .ids) t (query.sieved twice, .ids)
        whole ∧
      nestingEngine.IsRun {} (query.sieved twice, .ids) whole := by
  -- asking for the metadata twice is asking for it once
  have hhere : nestingEngine.PassedUp {} (query, .withMetadata .ids) t
      (query, .withMetadata (.withMetadata .ids)) t := .whole_run h
  obtain ⟨hpassed, hrun⟩ := passedUp_everyRecord rfl hhere h
  exact ⟨_, passedUp_everyRecord rfl hpassed hrun⟩

theorem failures_attributed_once_nested :
    (∃ t whole, nestingEngine.PassedUp {} (.list (.ids ["a"]), .withMetadata .ids) t
        (Node.sieved twice (.list (.ids ["a"])), .ids) whole ∧
      failuresOf t.items = [.storeFailure "filter" none "down"] ∧ t.Within whole) ∧
      ((∀ call ∈ twice, nestingEngine.Sieves call) ∧ ∃ whole,
        nestingEngine.IsRun {} (Node.sieved twice (filteredNode "raising"), .ids) whole ∧
        ((∃ call ∈ twice, ∃ f, .filterFailure call.name (Failure.description f) ∈
            failuresOf whole.items) ∨
          ∃ columns t, nestingEngine.IsRun {} (filteredNode "raising", columns) t ∧
            nestingEngine.PassedUp {} (filteredNode "raising", columns) t
              (Node.sieved twice (filteredNode "raising"), .ids) whole)) ∧
      (∃ whole, nestingEngine.PassedUp {} (filteredNode "raising", .withMetadata .ids)
          (Filter.attributedTrace "raising" []
            (.ok [.inr (.error (.foreign .compilation "OTHER_CODE" "Other" "boom"))]))
          (Node.sieved twice (filteredNode "raising"), .ids) whole ∧
        [.filterFailure "raising" "boom"].Subperm (failuresOf whole.items)) ∧
      (∃ whole, nestingEngine.PassedUp {} (filteredNode "refusing", .withMetadata .ids)
          (Filter.attributedTrace "refusing" [] (.error (.filter "no")))
          (Node.sieved twice (filteredNode "refusing"), .ids) whole ∧
        .filterFailure "refusing" "no" ∈ failuresOf whole.items) ∧
      ∃ files, nestingEngine.files {} (Node.sieved twice (filteredNode "raising")) = .ok files ∧
        ∃ t, nestingEngine.IsRun {} (Node.sieved twice (filteredNode "raising"), .ids) t ∧
          failuresOf (files.stream.play emptyStores ()).trace.items = failuresOf t.items := by
  obtain ⟨-, hwithin, hsieved, hraised, hrefused, hfiles⟩ :=
    failures_attributed_once nestingEngine {}
  have hdown : ∃ t, nestingEngine.IsRun {} (.list (.ids ["a"]), .withMetadata .ids) t ∧
      failuresOf t.items = [.storeFailure "filter" none "down"] :=
    ⟨_, ⟨_, rfl, Unit, downStores, (), rfl⟩, rfl⟩
  have hraising : nestingEngine.IsRun {} (filteredNode "raising", .withMetadata .ids)
      (Filter.attributedTrace "raising" []
        (.ok [.inr (.error (.foreign .compilation "OTHER_CODE" "Other" "boom"))])) :=
    ⟨_, rfl, Unit, emptyStores, (), rfl⟩
  have hrefusing : nestingEngine.IsRun {} (filteredNode "refusing", .withMetadata .ids)
      (Filter.attributedTrace "refusing" [] (.error (.filter "no"))) :=
    ⟨_, rfl, Unit, emptyStores, (), rfl⟩
  obtain ⟨t, hrun, hfailures⟩ := hdown
  obtain ⟨told, htold, -⟩ := exists_passedUp_twice hrun
  obtain ⟨raised, hpassed, hwhole⟩ := exists_passedUp_twice hraising
  obtain ⟨refused, hpassed', -⟩ := exists_passedUp_twice hrefusing
  obtain ⟨files, hanswer⟩ : ∃ files,
      nestingEngine.files {} (Node.sieved twice (filteredNode "raising")) = .ok files := ⟨_, rfl⟩
  exact ⟨⟨t, told, htold, hfailures, hwithin _ _ _ _ htold⟩,
    ⟨sieves_twice, raised, hwhole, hsieved _ _ _ _ sieves_twice hwhole⟩,
    ⟨raised, hpassed, hraised _ _ _ _ _ _ _ hpassed⟩,
    ⟨refused, hpassed', hrefused _ _ _ _ _ _ _ hpassed'⟩,
    files, hanswer, hfiles _ _ files hanswer Unit emptyStores ()⟩

end CatalogQuery
