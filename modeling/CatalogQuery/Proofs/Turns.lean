/-
Programs that take turns.  They are run one after another, each with the stores as the one in
front left them.  A mark before each item shows which program the item was pulled from, also
where the item itself does not come out.
-/
import CatalogQuery.FileSet.Basic
import CatalogQuery.Proofs.Trace

namespace CatalogQuery

namespace Trace

variable {α : Type}

@[simp] theorem exchanges_nil : exchanges ([] : Trace α) = [] := rfl

@[simp] theorem exchanges_exchange (x : Exchange) (t : Trace α) :
    exchanges (.inl x :: t) = x :: exchanges t := rfl

@[simp] theorem exchanges_item (item : α) (t : Trace α) :
    exchanges (.inr item :: t) = exchanges t := rfl

theorem exchanges_append (t more : Trace α) :
    exchanges (t ++ more) = exchanges t ++ exchanges more :=
  List.filterMap_append

@[simp] theorem exchanges_map_inl (log : List Exchange) :
    exchanges (log.map Sum.inl : Trace α) = log := by
  induction log with
  | nil => rfl
  | cons x rest ih => rw [List.map_cons, exchanges_exchange, ih]

@[simp] theorem items_map_inl (log : List Exchange) :
    items (log.map Sum.inl : Trace α) = [] := by
  induction log with
  | nil => rfl
  | cons x rest ih => rw [List.map_cons, items_exchange, ih]

@[simp] theorem items_map_inr (items : List α) :
    Trace.items (items.map Sum.inr : Trace α) = items := by
  induction items with
  | nil => rfl
  | cons item rest ih => rw [List.map_cons, items_item, ih]

@[simp] theorem exchanges_map_inr (items : List α) :
    exchanges (items.map Sum.inr : Trace α) = [] := by
  induction items with
  | nil => rfl
  | cons item rest ih => rw [List.map_cons, exchanges_item, ih]

end Trace

theorem Flow.bind_bind {α ρ τ υ : Type} (flow : Flow α ρ) (f : ρ → Flow α τ) (g : τ → Flow α υ) :
    (flow.bind f).bind g = flow.bind fun result => (f result).bind g := by
  induction flow with
  | finish result => rfl
  | yield item rest ih => exact congrArg (Flow.yield item) ih
  | execute store statement next ih => exact congrArg (Flow.execute store statement) (funext ih)
  | openCursor statement next ih => exact congrArg (Flow.openCursor statement) (funext ih)
  | advance cursor rest ih => exact congrArg (Flow.advance cursor) ih

theorem Flow.play_bind_of_result {α ρ σ τ : Type} {stores : Stores σ} {state : σ}
    {flow : Flow α ρ} {result : ρ} (h : (flow.play stores state).result = result)
    (f : ρ → Flow α τ) :
    (flow.bind f).play stores state =
      let rest := (f result).play stores (flow.play stores state).state
      ⟨(flow.play stores state).trace ++ rest.trace, rest.result, rest.state⟩ := by
  subst h
  exact play_bind stores state flow f

theorem Flow.play_ofList {α σ : Type} (stores : Stores σ) (state : σ) (items : List α) :
    (ofList items).play stores state = ⟨items.map .inr, (), state⟩ := by
  induction items with
  | nil => rfl
  | cons item rest ih =>
      rw [ofList, play, ih]
      rfl

theorem Flow.take_zero {α : Type} (flow : Flow α Unit) : take 0 flow = .finish () := by
  cases flow <;> rfl

theorem Flow.exchanges_keepItems {α τ : Type} (keep : τ → α → Bool × τ) (start : τ)
    (t : Trace α) : Trace.exchanges (keepItems (onEntries keep) start t) = t.exchanges := by
  induction t generalizing start with
  | nil => rfl
  | cons entry rest ih =>
      rcases entry with x | item
      · exact congrArg (List.cons x) (ih start)
      · cases hkept : (keep start item).1 with
        | true =>
            simp only [keepItems, onEntries, hkept, ↓reduceIte, Trace.exchanges_item, ih]
        | false =>
            simp only [keepItems, onEntries, hkept, Bool.false_eq_true, ↓reduceIte,
              Trace.exchanges_item, ih]

theorem Flow.exchanges_filterItems {α ρ σ τ : Type} (stores : Stores σ) (state : σ)
    (keep : τ → α → Bool × τ) (start : τ) (flow : Flow α ρ) :
    ((flow.filterItems keep start).play stores state).trace.exchanges =
      (flow.play stores state).trace.exchanges := by
  rw [trace_filterItems, exchanges_keepItems]

section RunsInTurn

variable {α σ : Type} (stores : Stores σ) (state : σ)

/-- The runs of some programs one after another. -/
def runsInTurn (state : σ) : List (Flow α Unit) → List (Played σ α Unit)
  | [] => []
  | flow :: rest =>
    let run := flow.play stores state
    run :: runsInTurn run.state rest

/-- How some runs leave the stores. -/
def stateAfter (state : σ) (runs : List (Played σ α Unit)) : σ :=
  runs.foldl (fun _ run => run.state) state

theorem length_runsInTurn (flows : List (Flow α Unit)) :
    (runsInTurn stores state flows).length = flows.length := by
  induction flows generalizing state with
  | nil => rfl
  | cons flow rest ih => rw [runsInTurn, List.length_cons, ih, List.length_cons]

theorem RecordStream.play_concat (streams : List RecordStream) :
    (RecordStream.concat streams).play stores state =
      ⟨(runsInTurn stores state streams).flatMap Played.trace, (),
        stateAfter state (runsInTurn stores state streams)⟩ := by
  induction streams generalizing state with
  | nil => rfl
  | cons s rest ih =>
      simp only [concat, Flow.play_bind, ih]
      rfl

end RunsInTurn

/-- The program with a mark before each item: a row is taken from the cursor with the number of
its place.  Its own cursors come after those of all places. -/
def Flow.marked {α ρ : Type} (places place : Nat) : Flow α ρ → Flow α ρ
  | .finish result => .finish result
  | .yield item rest => .advance place (.yield item (rest.marked places place))
  | .execute store statement next =>
    .execute store statement fun answer => (next answer).marked places place
  | .openCursor statement next =>
    .openCursor statement fun answer => (next answer).marked places place
  | .advance cursor rest => .advance (places + cursor) (rest.marked places place)

/-- The place that a mark stands for. -/
def Exchange.place? (places : Nat) : Exchange → Option Nat
  | .advanced cursor => if cursor < places then some cursor else none
  | _ => none

namespace Trace

variable {α : Type}

def markedEntry (places place : Nat) : Exchange ⊕ α → Trace α
  | .inr item => [.inl (.advanced place), .inr item]
  | .inl (.advanced cursor) => [.inl (.advanced (places + cursor))]
  | .inl x => [.inl x]

def marked (places place : Nat) (t : Trace α) : Trace α :=
  t.flatMap (markedEntry places place)

/-- The places that items were pulled from, in order. -/
def turns (places : Nat) (t : Trace α) : List Nat :=
  t.exchanges.filterMap (Exchange.place? places)

theorem turns_append (places : Nat) (t more : Trace α) :
    turns places (t ++ more) = turns places t ++ turns places more := by
  rw [turns, exchanges_append, List.filterMap_append]
  rfl

/-- The places show in the exchanges. -/
theorem turns_congr {t more : Trace α} (h : t.exchanges = more.exchanges) (places : Nat) :
    turns places t = turns places more := by
  rw [turns, h, turns]

theorem marked_append (places place : Nat) (t more : Trace α) :
    marked places place (t ++ more) = marked places place t ++ marked places place more :=
  List.flatMap_append

theorem items_marked (places place : Nat) (t : Trace α) :
    items (marked places place t) = items t := by
  induction t with
  | nil => rfl
  | cons entry rest ih =>
      rw [marked, List.flatMap_cons, items_append, ← marked, ih]
      rcases entry with (_ | _ | _) | item <;> rfl

/-- There is one mark for each item. -/
theorem turns_marked {places place : Nat} (h : place < places) (t : Trace α) :
    turns places (marked places place t) = List.replicate (items t).length place := by
  induction t with
  | nil => rfl
  | cons entry rest ih =>
      rw [marked, List.flatMap_cons, turns_append, ← marked, ih]
      rcases entry with (_ | _ | cursor) | item
      · rfl
      · rfl
      · simp [markedEntry, turns, Exchange.place?]
      · simp [markedEntry, turns, Exchange.place?, h, List.replicate_succ]

end Trace

theorem Flow.play_marked {α ρ σ : Type} (stores : Stores σ) (state : σ) (places place : Nat)
    (flow : Flow α ρ) :
    (flow.marked places place).play stores state =
      let run := flow.play stores state
      ⟨run.trace.marked places place, run.result, run.state⟩ := by
  induction flow generalizing state with
  | finish result => rfl
  | yield item rest ih =>
      simp only [marked, play, ih]
      rfl
  | execute store statement next ih =>
      simp only [marked, play, ih]
      rfl
  | openCursor statement next ih =>
      simp only [marked, play, ih]
      rfl
  | advance cursor rest ih =>
      simp only [marked, play, ih]
      rfl

section MarkEach

variable {α σ : Type} (stores : Stores σ)

/-- The programs with marks, their places counted from one of them on. -/
def markEach (places place : Nat) : List (Flow α Unit) → List (Flow α Unit)
  | [] => []
  | flow :: rest => flow.marked places place :: markEach places (place + 1) rest

def markRuns (places place : Nat) : List (Played σ α Unit) → List (Played σ α Unit)
  | [] => []
  | run :: rest =>
    { run with trace := run.trace.marked places place } :: markRuns places (place + 1) rest

/-- The places of some runs, each as often as the run has items. -/
def turnsOf (place : Nat) : List (Played σ α Unit) → List Nat
  | [] => []
  | run :: rest => List.replicate run.trace.items.length place ++ turnsOf (place + 1) rest

theorem runsInTurn_markEach (state : σ) (places place : Nat) (flows : List (Flow α Unit)) :
    runsInTurn stores state (markEach places place flows) =
      markRuns places place (runsInTurn stores state flows) := by
  induction flows generalizing state place with
  | nil => rfl
  | cons flow rest ih =>
      simp only [markEach, runsInTurn, Flow.play_marked, ih]
      rfl

theorem markRuns_append (places place : Nat) (runs more : List (Played σ α Unit)) :
    markRuns places place (runs ++ more) =
      markRuns places place runs ++ markRuns places (place + runs.length) more := by
  induction runs generalizing place with
  | nil => rfl
  | cons run rest ih =>
      rw [List.cons_append, markRuns, ih, markRuns, List.cons_append, List.length_cons,
        Nat.add_assoc, Nat.add_comm 1]

theorem items_markRuns (places place : Nat) (runs : List (Played σ α Unit)) :
    Trace.items ((markRuns places place runs).flatMap Played.trace) =
      Trace.items (runs.flatMap Played.trace) := by
  induction runs generalizing place with
  | nil => rfl
  | cons run rest ih =>
      rw [markRuns, List.flatMap_cons, Trace.items_append, Trace.items_marked, ih,
        List.flatMap_cons, Trace.items_append]

theorem stateAfter_markRuns (state : σ) (places place : Nat) (runs : List (Played σ α Unit)) :
    stateAfter state (markRuns places place runs) = stateAfter state runs := by
  induction runs generalizing state place with
  | nil => rfl
  | cons run rest ih => exact ih run.state (place + 1)

/-- Programs in turn are pulled from one after another. -/
theorem turns_markRuns {places place : Nat} {runs : List (Played σ α Unit)}
    (h : place + runs.length ≤ places) :
    Trace.turns places ((markRuns places place runs).flatMap Played.trace) =
      turnsOf place runs := by
  induction runs generalizing place with
  | nil => rfl
  | cons run rest ih =>
      rw [List.length_cons] at h
      rw [markRuns, List.flatMap_cons, Trace.turns_append, Trace.turns_marked (by omega),
        ih (by omega), turnsOf]

end MarkEach

def FileSet.marked (places place : Nat) (s : FileSet) : FileSet :=
  { s with source := .stream (s.stream.marked places place) }

end CatalogQuery
