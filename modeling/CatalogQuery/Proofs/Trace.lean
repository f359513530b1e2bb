/-
What happens when programs are run.  The stores have a state, and what they answer depends on
it: the same statement may be answered in another way each time.  The trace of a run has all
that is said between the program and the stores, and each item at its place.  What holds of
the items and of the result whatever is answered holds in every run.
-/
import CatalogQuery.Proofs.Flow

namespace CatalogQuery

/-- Stores with a state that each statement may change. -/
structure Stores (σ : Type) where
  execute : σ → Store → Sql.Statement → Except Failure Answer × σ
  openCursor : σ → Sql.Statement → Except Failure Cursor × σ

def emptyStores : Stores Unit where
  execute _ _ _ := (.ok {}, ())
  openCursor _ _ := (.ok ⟨0, []⟩, ())

/-- What a program asks of a store, with the answer. -/
inductive Exchange
  | executed (store : Store) (statement : Sql.Statement) (answer : Except Failure Answer)
  | opened (statement : Sql.Statement) (answer : Except Failure Cursor)
  /-- A row was taken from a cursor. -/
  | advanced (cursor : Nat)

/-- What happens in a run, in order: exchanges with the stores and items. -/
abbrev Trace (α : Type) := List (Exchange ⊕ α)

namespace Trace

variable {α : Type}

def items (t : Trace α) : List α := t.filterMap Sum.getRight?

def exchanges (t : Trace α) : List Exchange := t.filterMap Sum.getLeft?

@[simp] theorem items_nil : items ([] : Trace α) = [] := rfl

@[simp] theorem items_exchange (x : Exchange) (t : Trace α) : items (.inl x :: t) = items t := rfl

@[simp] theorem items_item (item : α) (t : Trace α) :
    items (.inr item :: t) = item :: items t := rfl

theorem items_append (t more : Trace α) : items (t ++ more) = items t ++ items more :=
  List.filterMap_append

theorem items_snoc (t : Trace α) (x : Exchange) : items (t ++ [.inl x]) = items t := by
  rw [items_append]
  exact List.append_nil _

theorem mem_items_iff {t : Trace α} {item : α} :
    item ∈ items t ↔ ∃ before after, t = before ++ .inr item :: after := by
  rw [items, List.mem_filterMap]
  constructor
  · rintro ⟨entry, hentry, hitem⟩
    rw [Sum.getRight?_eq_some_iff] at hitem
    obtain ⟨before, after, rfl⟩ := List.append_of_mem hentry
    exact ⟨before, after, by rw [hitem]⟩
  · rintro ⟨before, after, rfl⟩
    exact ⟨.inr item, by simp, rfl⟩

end Trace

/-- What comes of a run. -/
structure Played (σ α ρ : Type) where
  trace : Trace α
  result : ρ
  state : σ

namespace Flow

variable {α β ρ σ τ υ : Type}

/-- Runs a program with stores in some state. -/
def play (stores : Stores σ) (state : σ) : Flow α ρ → Played σ α ρ
  | .finish result => ⟨[], result, state⟩
  | .yield item rest =>
    let played := rest.play stores state
    { played with trace := .inr item :: played.trace }
  | .execute store statement next =>
    let (answer, state) := stores.execute state store statement
    let played := (next answer).play stores state
    { played with trace := .inl (.executed store statement answer) :: played.trace }
  | .openCursor statement next =>
    let (answer, state) := stores.openCursor state statement
    let played := (next answer).play stores state
    { played with trace := .inl (.opened statement answer) :: played.trace }
  | .advance cursor rest =>
    let played := rest.play stores state
    { played with trace := .inl (.advanced cursor) :: played.trace }

/-- In some run the item comes after these exchanges. -/
def MayYield (flow : Flow α ρ) (log : List Exchange) (item : α) : Prop :=
  ∃ (σ : Type) (stores : Stores σ) (state : σ) (before after : Trace α),
    (flow.play stores state).trace = before ++ .inr item :: after ∧ before.exchanges = log

/-- In some run these are the exchanges and this is the result. -/
def MayReturn (flow : Flow α ρ) (log : List Exchange) (result : ρ) : Prop :=
  ∃ (σ : Type) (stores : Stores σ) (state : σ),
    (flow.play stores state).trace.exchanges = log ∧ (flow.play stores state).result = result

theorem play_bind (stores : Stores σ) (state : σ) (flow : Flow α ρ) (f : ρ → Flow α τ) :
    (flow.bind f).play stores state =
      let first := flow.play stores state
      let second := (f first.result).play stores first.state
      ⟨first.trace ++ second.trace, second.result, second.state⟩ := by
  induction flow generalizing state with
  | finish result => rfl
  | yield item rest ih =>
      simp only [bind, play, ih]
      rfl
  | execute store statement next ih =>
      simp only [bind, play, ih]
      rfl
  | openCursor statement next ih =>
      simp only [bind, play, ih]
      rfl
  | advance cursor rest ih =>
      simp only [bind, play, ih]
      rfl

/-- Stores that answer a statement in the same way whenever it comes. -/
def unchanging (store : Responses) : Stores Unit where
  execute _ own statement := (store.execute own statement, ())
  openCursor _ statement := (store.openCursor statement, ())

/-- With such stores it does not matter what came before, and a run is what a program yields and
its result. -/
theorem run_eq_play (store : Responses) (flow : Flow α ρ) :
    flow.run store =
      ((flow.play (unchanging store) ()).trace.items,
        (flow.play (unchanging store) ()).result) := by
  induction flow with
  | finish result => rfl
  | yield item rest ih =>
      rw [run, ih]
      rfl
  | execute own statement next ih => exact ih _
  | openCursor statement next ih => exact ih _
  | advance cursor rest ih => exact ih

/-- A test of items for the entries of a trace; each exchange passes. -/
def onEntries (keep : τ → α → Bool × τ) (state : τ) :
    Exchange ⊕ α → Bool × τ
  | .inl _ => (true, state)
  | .inr item => keep state item

theorem trace_filterItems (stores : Stores σ) (state : σ)
    (keep : τ → α → Bool × τ) (start : τ) (flow : Flow α ρ) :
    ((flow.filterItems keep start).play stores state).trace =
      keepItems (onEntries keep) start (flow.play stores state).trace := by
  induction flow generalizing state start with
  | finish result => rfl
  | yield item rest ih =>
      by_cases hkept : (keep start item).1 = true
      · have hentry : (onEntries keep start (.inr item)).1 = true := hkept
        simp only [filterItems, play, keepItems, hkept, hentry, ↓reduceIte]
        exact congrArg (List.cons _) (ih _ _)
      · have hentry : ¬(onEntries keep start (.inr item)).1 = true := hkept
        simp only [filterItems, play, keepItems, hkept, hentry, Bool.false_eq_true, ↓reduceIte]
        exact ih _ _
  | execute store statement next ih => exact congrArg (List.cons _) (ih _ _ _)
  | openCursor statement next ih => exact congrArg (List.cons _) (ih _ _ _)
  | advance cursor rest ih => exact congrArg (List.cons _) (ih _ _)

theorem items_keepItems (keep : τ → α → Bool × τ) (start : τ) (t : Trace α) :
    Trace.items (keepItems (onEntries keep) start t) = keepItems keep start t.items := by
  induction t generalizing start with
  | nil => rfl
  | cons entry rest ih =>
      rcases entry with x | item
      · exact ih start
      · cases hkept : (keep start item).1 with
        | true => simp only [keepItems, onEntries, hkept, ↓reduceIte, Trace.items_item, ih]
        | false =>
            simp only [keepItems, onEntries, hkept, Bool.false_eq_true, ↓reduceIte,
              Trace.items_item, ih]

/-- A test with a state keeps the same items of a run as of the list of its items. -/
theorem items_filterItems (stores : Stores σ) (state : σ) (keep : τ → α → Bool × τ) (start : τ)
    (flow : Flow α ρ) :
    ((flow.filterItems keep start).play stores state).trace.items =
      keepItems keep start (flow.play stores state).trace.items := by
  rw [trace_filterItems, items_keepItems]

/-- Whatever the stores answer, each item and the result have a property, which may speak of
the exchanges until then; `log` has those before the program. -/
def Always (p : List Exchange → α → Prop) (q : List Exchange → ρ → Prop) (log : List Exchange) :
    Flow α ρ → Prop
  | .finish result => q log result
  | .yield item rest => p log item ∧ rest.Always p q log
  | .execute store statement next =>
    ∀ answer, (next answer).Always p q (log ++ [.executed store statement answer])
  | .openCursor statement next =>
    ∀ answer, (next answer).Always p q (log ++ [.opened statement answer])
  | .advance cursor rest => rest.Always p q (log ++ [.advanced cursor])

section Always

variable {p p' : List Exchange → α → Prop} {q q' : List Exchange → ρ → Prop}
  {log : List Exchange} {flow : Flow α ρ}

/-- The properties hold of the items of a trace, each at its place, and of the result. -/
def HoldOf (p : List Exchange → α → Prop) (q : List Exchange → ρ → Prop) (log : List Exchange)
    (trace : Trace α) (result : ρ) : Prop :=
  (∀ before item after, trace = before ++ .inr item :: after →
    p (log ++ Trace.exchanges before) item) ∧ q (log ++ trace.exchanges) result

/-- An exchange may be counted with what was before the program. -/
theorem HoldOf.exchange {x : Exchange} {trace : Trace α} {result : ρ}
    (h : HoldOf p q (log ++ [x]) trace result) : HoldOf p q log (.inl x :: trace) result := by
  obtain ⟨hitems, hresult⟩ := h
  rw [List.append_assoc] at hresult
  refine ⟨fun before item after hsplit => ?_, hresult⟩
  rcases List.cons_eq_append_iff.mp hsplit with ⟨rfl, hhead⟩ | ⟨tail, rfl, htail⟩
  · cases (List.cons.inj hhead).1
  · have hitem := hitems tail item after htail
    rwa [List.append_assoc] at hitem

/-- What always holds holds at each place of a run. -/
theorem Always.holdOf (h : flow.Always p q log) (stores : Stores σ) (state : σ) :
    HoldOf p q log (flow.play stores state).trace (flow.play stores state).result := by
  induction flow generalizing log state with
  | finish result =>
      refine ⟨fun before item after hsplit => ?_, ?_⟩
      · simp [play] at hsplit
      · rw [play, Trace.exchanges, List.filterMap_nil, List.append_nil]
        exact h
  | yield item rest ih =>
      obtain ⟨hitem, hrest⟩ := h
      obtain ⟨hitems, hresult⟩ := ih hrest state
      refine ⟨fun before other after hsplit => ?_, hresult⟩
      rcases List.cons_eq_append_iff.mp hsplit with ⟨rfl, hhead⟩ | ⟨tail, rfl, htail⟩
      · obtain rfl : other = item := Sum.inr.inj (List.cons.inj hhead).1
        rwa [Trace.exchanges, List.filterMap_nil, List.append_nil]
      · exact hitems tail other after htail
  | execute store statement next ih =>
      exact (ih _ (h _) (stores.execute state store statement).2).exchange
  | openCursor statement next ih =>
      exact (ih _ (h _) (stores.openCursor state statement).2).exchange
  | advance cursor rest ih => exact (ih h state).exchange

theorem Always.of_mayYield (h : flow.Always p q log) {more : List Exchange} {item : α}
    (hitem : flow.MayYield more item) : p (log ++ more) item := by
  obtain ⟨σ, stores, state, before, after, htrace, rfl⟩ := hitem
  exact (h.holdOf stores state).1 before item after htrace

theorem Always.of_mayReturn (h : flow.Always p q log) {more : List Exchange} {result : ρ}
    (hresult : flow.MayReturn more result) : q (log ++ more) result := by
  obtain ⟨σ, stores, state, rfl, rfl⟩ := hresult
  exact (h.holdOf stores state).2

theorem always_of_forall (hp : ∀ log item, p log item) (hq : ∀ log result, q log result)
    (flow : Flow α ρ) : flow.Always p q log := by
  induction flow generalizing log with
  | finish result => exact hq log result
  | yield item rest ih => exact ⟨hp log item, ih⟩
  | execute store statement next ih => exact fun answer => ih answer
  | openCursor statement next ih => exact fun answer => ih answer
  | advance cursor rest ih => exact ih

theorem Always.mono (h : flow.Always p q log) (hp : ∀ log item, p log item → p' log item)
    (hq : ∀ log result, q log result → q' log result) : flow.Always p' q' log := by
  induction flow generalizing log with
  | finish result => exact hq log result h
  | yield item rest ih => exact ⟨hp log item h.1, ih h.2⟩
  | execute store statement next ih => exact fun answer => ih answer (h answer)
  | openCursor statement next ih => exact fun answer => ih answer (h answer)
  | advance cursor rest ih => exact ih h

/-- A property stays when more is exchanged. -/
def Lasting (p : List Exchange → α → Prop) : Prop :=
  ∀ (log more : List Exchange) (a : α), log ⊆ more → p log a → p more a

theorem Always.later (hp : Lasting p) (hq : Lasting q) {more : List Exchange}
    (h : flow.Always p q log) (hmore : log ⊆ more) : flow.Always p q more := by
  have hstep (x : Exchange) {log more : List Exchange} (h : log ⊆ more) :
      log ++ [x] ⊆ more ++ [x] :=
    List.append_subset.mpr
      ⟨List.subset_append_of_subset_left [x] h, List.subset_append_right more [x]⟩
  induction flow generalizing log more with
  | finish result => exact hq log more result hmore h
  | yield item rest ih => exact ⟨hp log more item hmore h.1, ih h.2 hmore⟩
  | execute store statement next ih => exact fun answer => ih answer (h answer) (hstep _ hmore)
  | openCursor statement next ih => exact fun answer => ih answer (h answer) (hstep _ hmore)
  | advance cursor rest ih => exact ih h (hstep _ hmore)

/-- The result comes after the exchanges that were before the program. -/
theorem Always.since {start : List Exchange} (h : flow.Always p q log) (hstart : start ⊆ log) :
    flow.Always p (fun more result => start ⊆ more ∧ q more result) log := by
  induction flow generalizing log with
  | finish result => exact ⟨hstart, h⟩
  | yield item rest ih => exact ⟨h.1, ih h.2 hstart⟩
  | execute store statement next ih =>
      exact fun answer => ih answer (h answer) (List.subset_append_of_subset_left _ hstart)
  | openCursor statement next ih =>
      exact fun answer => ih answer (h answer) (List.subset_append_of_subset_left _ hstart)
  | advance cursor rest ih => exact ih h (List.subset_append_of_subset_left _ hstart)

/-- What comes after a program is judged where its result is. -/
theorem always_bind_iff {q' : List Exchange → τ → Prop} {f : ρ → Flow α τ} :
    (flow.bind f).Always p q' log ↔
      flow.Always p (fun more result => (f result).Always p q' more) log := by
  induction flow generalizing log with
  | finish result => exact Iff.rfl
  | yield item rest ih => exact and_congr_right fun _ => ih
  | execute store statement next ih => exact forall_congr' fun answer => ih answer
  | openCursor statement next ih => exact forall_congr' fun answer => ih answer
  | advance cursor rest ih => exact ih

theorem always_bind {q' : List Exchange → τ → Prop} {f : ρ → Flow α τ}
    (h : flow.Always p q log)
    (hf : ∀ more result, log ⊆ more → q more result → (f result).Always p q' more) :
    (flow.bind f).Always p q' log := by
  rw [always_bind_iff]
  refine (h.since (List.Subset.refl log)).mono (fun _ _ => id) ?_
  exact fun more result hresult => hf more result hresult.1 hresult.2

theorem always_ofAction_iff {action : Action ρ} {r : List Exchange → Empty → Prop} :
    (ofAction action).Always p q log ↔ action.Always r q log := by
  induction action generalizing log with
  | finish result => exact Iff.rfl
  | yield item rest ih => exact item.elim
  | execute store statement next ih => exact forall_congr' fun answer => ih answer
  | openCursor statement next ih => exact forall_congr' fun answer => ih answer
  | advance cursor rest ih => exact ih

theorem always_ofList {q : List Exchange → Unit → Prop} {items : List α}
    (h : ∀ item ∈ items, p log item) (hq : q log ()) : (ofList items).Always p q log := by
  induction items with
  | nil => exact hq
  | cons item rest ih =>
      obtain ⟨hitem, hrest⟩ := List.forall_mem_cons.mp h
      exact ⟨hitem, ih hrest⟩

theorem always_mapItems {r : List Exchange → β → Prop} {f : α → β} (h : flow.Always p q log)
    (hf : ∀ log item, p log item → r log (f item)) : (flow.mapItems f).Always r q log := by
  induction flow generalizing log with
  | finish result => exact h
  | yield item rest ih => exact ⟨hf log item h.1, ih h.2⟩
  | execute store statement next ih => exact fun answer => ih answer (h answer)
  | openCursor statement next ih => exact fun answer => ih answer (h answer)
  | advance cursor rest ih => exact ih h

theorem always_filterItems (keep : σ → α → Bool × σ) (state : σ) (h : flow.Always p q log) :
    (flow.filterItems keep state).Always p q log := by
  induction flow generalizing log state with
  | finish result => exact h
  | yield item rest ih =>
      simp only [filterItems]
      split
      · exact ⟨h.1, ih _ h.2⟩
      · exact ih _ h.2
  | execute store statement next ih => exact fun answer => ih answer state (h answer)
  | openCursor statement next ih => exact fun answer => ih answer state (h answer)
  | advance cursor rest ih => exact ih state h

theorem always_take {q : List Exchange → Unit → Prop} (hq : ∀ log, q log ()) (n : Nat)
    {flow : Flow α Unit} (h : flow.Always p q log) : (take n flow).Always p q log := by
  induction flow generalizing log n with
  | finish result => cases n <;> exact hq log
  | yield item rest ih =>
      rcases n with _ | n
      · exact hq log
      · exact ⟨h.1, ih n h.2⟩
  | execute store statement next ih =>
      rcases n with _ | n
      · exact hq log
      · exact fun answer => ih answer (n + 1) (h answer)
  | openCursor statement next ih =>
      rcases n with _ | n
      · exact hq log
      · exact fun answer => ih answer (n + 1) (h answer)
  | advance cursor rest ih =>
      rcases n with _ | n
      · exact hq log
      · exact ih (n + 1) h

theorem always_drop (n : Nat) (h : flow.Always p q log) : (drop n flow).Always p q log := by
  induction flow generalizing log n with
  | finish result => cases n <;> exact h
  | yield item rest ih =>
      rcases n with _ | n
      · exact h
      · exact ih n h.2
  | execute store statement next ih =>
      rcases n with _ | n
      · exact h
      · exact fun answer => ih answer (n + 1) (h answer)
  | openCursor statement next ih =>
      rcases n with _ | n
      · exact h
      · exact fun answer => ih answer (n + 1) (h answer)
  | advance cursor rest ih =>
      rcases n with _ | n
      · exact h
      · exact ih (n + 1) h

/-- A consumer keeps to a rule if each of its steps does, and so does what it does at the end. -/
theorem always_consume {r : List Exchange → β → Prop} {q' : List Exchange → τ → Prop}
    {step : σ → α → Flow β (Verdict σ τ)} {done : σ → ρ → Flow β τ} (hp : Lasting p)
    (hq : Lasting q) (h : flow.Always p q log)
    (hstep : ∀ log state item, p log item → (step state item).Always r
      (fun log verdict => ∀ result, verdict = .stop result → q' log result) log)
    (hdone : ∀ log state result, q log result → (done state result).Always r q' log)
    (state : σ) : (consume step done state flow).Always r q' log := by
  induction flow generalizing log state with
  | finish result => exact hdone log state result h
  | yield item rest ih =>
      apply always_bind (hstep log state item h.1)
      intro more verdict hmore hverdict
      rcases verdict with next | result
      · exact ih (h.2.later hp hq hmore) next
      · exact hverdict result rfl
  | execute store statement next ih => exact fun answer => ih answer (h answer) state
  | openCursor statement next ih => exact fun answer => ih answer (h answer) state
  | advance cursor rest ih => exact ih h state

/-- A program that yields nothing has no items in its runs. -/
theorem Always.items_eq_nil (h : flow.Always (fun _ _ => False) q log) (stores : Stores σ)
    (state : σ) : (flow.play stores state).trace.items = [] := by
  rw [List.eq_nil_iff_forall_not_mem]
  intro item hitem
  obtain ⟨before, after, htrace⟩ := Trace.mem_items_iff.mp hitem
  exact (h.holdOf stores state).1 before item after htrace

end Always

section MayYield

variable {p : List Exchange → α → Prop} {log : List Exchange} {item other : α} {flow : Flow α ρ}

theorem mayYield_head (item : α) (rest : Flow α ρ) : (yield item rest).MayYield [] item :=
  ⟨Unit, emptyStores, (), [], _, rfl, rfl⟩

theorem MayYield.yield (h : flow.MayYield log item) (other : α) :
    (Flow.yield other flow).MayYield log item := by
  obtain ⟨σ, stores, state, before, after, htrace, rfl⟩ := h
  exact ⟨σ, stores, state, .inr other :: before, after, congrArg (List.cons _) htrace, rfl⟩

theorem MayYield.advance (h : flow.MayYield log item) (cursor : Nat) :
    (Flow.advance cursor flow).MayYield (.advanced cursor :: log) item := by
  obtain ⟨σ, stores, state, before, after, htrace, rfl⟩ := h
  exact ⟨σ, stores, state, .inl (.advanced cursor) :: before, after,
    congrArg (List.cons _) htrace, rfl⟩

/-- Stores that answer the first statement as they are told and the others as given stores do. -/
def answeringFirst (stores : Stores σ) (start : σ) (answer : Except Failure Answer)
    (cursor : Except Failure Cursor) : Stores (Option σ) where
  execute
    | none, _, _ => (answer, some start)
    | some state, store, statement =>
      let (answer, state) := stores.execute state store statement
      (answer, some state)
  openCursor
    | none, _ => (cursor, some start)
    | some state, statement =>
      let (answer, state) := stores.openCursor state statement
      (answer, some state)

section AnsweringFirst

variable (stores : Stores σ) (start : σ) (answer : Except Failure Answer)
  (cursor : Except Failure Cursor)

theorem execute_answeringFirst (state : σ) (store : Store) (statement : Sql.Statement) :
    (answeringFirst stores start answer cursor).execute (some state) store statement =
      ((stores.execute state store statement).1,
        some (stores.execute state store statement).2) := rfl

theorem openCursor_answeringFirst (state : σ) (statement : Sql.Statement) :
    (answeringFirst stores start answer cursor).openCursor (some state) statement =
      ((stores.openCursor state statement).1, some (stores.openCursor state statement).2) := rfl

theorem play_answeringFirst (flow : Flow α ρ) (state : σ) :
    flow.play (answeringFirst stores start answer cursor) (some state) =
      let played := flow.play stores state
      ⟨played.trace, played.result, some played.state⟩ := by
  induction flow generalizing state with
  | finish result => rfl
  | yield item rest ih => simp only [play, ih]
  | execute store statement next ih => simp only [play, execute_answeringFirst, ih]
  | openCursor statement next ih => simp only [play, openCursor_answeringFirst, ih]
  | advance cursor rest ih => simp only [play, ih]

end AnsweringFirst

theorem MayYield.execute {next : Except Failure Answer → Flow α ρ} {answer : Except Failure Answer}
    (h : (next answer).MayYield log item) (store : Store) (statement : Sql.Statement) :
    (Flow.execute store statement next).MayYield
      (.executed store statement answer :: log) item := by
  obtain ⟨σ, stores, state, before, after, htrace, rfl⟩ := h
  refine ⟨Option σ, answeringFirst stores state answer (.ok ⟨0, []⟩), none,
    .inl (.executed store statement answer) :: before, after, congrArg (List.cons _) ?_, rfl⟩
  exact (congrArg Played.trace (play_answeringFirst stores state _ _ _ state)).trans htrace

theorem MayYield.openCursor {next : Except Failure Cursor → Flow α ρ}
    {answer : Except Failure Cursor} (h : (next answer).MayYield log item)
    (statement : Sql.Statement) :
    (Flow.openCursor statement next).MayYield (.opened statement answer :: log) item := by
  obtain ⟨σ, stores, state, before, after, htrace, rfl⟩ := h
  refine ⟨Option σ, answeringFirst stores state (.ok {}) answer, none,
    .inl (.opened statement answer) :: before, after, congrArg (List.cons _) ?_, rfl⟩
  exact (congrArg Played.trace (play_answeringFirst stores state _ _ _ state)).trans htrace

/-- What holds of each item that some stores let a program yield always holds of its items. -/
theorem always_of_forall_mayYield
    (h : ∀ more item, flow.MayYield more item → p (log ++ more) item) :
    flow.Always p (fun _ _ => True) log := by
  induction flow generalizing log with
  | finish result => trivial
  | yield item rest ih =>
      have hitem := h [] item (mayYield_head item rest)
      rw [List.append_nil] at hitem
      exact ⟨hitem, ih fun more other hother => h more other (hother.yield item)⟩
  | execute store statement next ih =>
      intro answer
      apply ih answer
      intro more item hitem
      rw [List.append_assoc]
      exact h _ item (hitem.execute store statement)
  | openCursor statement next ih =>
      intro answer
      apply ih answer
      intro more item hitem
      rw [List.append_assoc]
      exact h _ item (hitem.openCursor statement)
  | advance cursor rest ih =>
      apply ih
      intro more item hitem
      rw [List.append_assoc]
      exact h _ item (hitem.advance cursor)

end MayYield

end Flow

end CatalogQuery
