/-
Running programs.  Stores that answer every statement turn a program into the list of what
it yields and its result.  What a consumer makes of a program depends on these two only.
-/
import CatalogQuery.Store.Flow

namespace CatalogQuery

/-- What stores answer statements with. -/
structure Responses where
  execute : Store → Sql.Statement → Except Failure Answer
  openCursor : Sql.Statement → Except Failure Cursor

namespace Flow

variable {α β ρ σ τ υ : Type} {store : Responses}

/-- The items that a program yields and its result. -/
def run (store : Responses) : Flow α ρ → List α × ρ
  | .finish result => ([], result)
  | .yield item rest =>
    let (items, result) := rest.run store
    (item :: items, result)
  | .execute s statement next => (next (store.execute s statement)).run store
  | .openCursor statement next => (next (store.openCursor statement)).run store
  | .advance _ rest => rest.run store

theorem run_bind (flow : Flow α ρ) (f : ρ → Flow α σ) :
    (flow.bind f).run store =
      ((flow.run store).1 ++ ((f (flow.run store).2).run store).1,
        ((f (flow.run store).2).run store).2) := by
  induction flow with
  | finish result => rfl
  | yield item rest ih =>
      simp only [bind, run, ih]
      rfl
  | execute s statement next ih => exact ih _
  | openCursor statement next ih => exact ih _
  | advance cursor rest ih => exact ih

theorem run_ofList (items : List α) : (ofList items).run store = (items, ()) := by
  induction items with
  | nil => rfl
  | cons item rest ih => simp only [ofList, run, ih]

theorem run_mapItems (f : α → β) (flow : Flow α ρ) :
    (flow.mapItems f).run store = ((flow.run store).1.map f, (flow.run store).2) := by
  induction flow with
  | finish result => rfl
  | yield item rest ih => simp only [mapItems, run, ih, List.map_cons]
  | execute s statement next ih => exact ih _
  | openCursor statement next ih => exact ih _
  | advance cursor rest ih => exact ih

/-- The items of a list that a test with a state accepts. -/
def keepItems (keep : σ → α → Bool × σ) (state : σ) : List α → List α
  | [] => []
  | item :: rest =>
    let (kept, state) := keep state item
    if kept then item :: keepItems keep state rest else keepItems keep state rest

theorem run_filterItems (keep : σ → α → Bool × σ) (state : σ) (flow : Flow α ρ) :
    (flow.filterItems keep state).run store =
      (keepItems keep state (flow.run store).1, (flow.run store).2) := by
  induction flow generalizing state with
  | finish result => rfl
  | yield item rest ih =>
      simp only [filterItems, run, keepItems]
      split
      · simp only [run, ih]
      · exact ih _
  | execute s statement next ih => exact ih _ _
  | openCursor statement next ih => exact ih _ _
  | advance cursor rest ih => exact ih _

/-- The program that yields the items of a list and has a result. -/
def ofItems (items : List α) (result : ρ) : Flow α ρ :=
  items.foldr .yield (.finish result)

/-- A consumer takes the items and the result, however the program came by them. -/
theorem run_consume (step : σ → α → Flow β (Verdict σ τ)) (done : σ → ρ → Flow β τ) (state : σ)
    (flow : Flow α ρ) :
    (consume step done state flow).run store =
      (consume step done state (ofItems (flow.run store).1 (flow.run store).2)).run store := by
  induction flow generalizing state with
  | finish result => rfl
  | yield item rest ih =>
      simp only [consume, run, ofItems, List.foldr_cons, run_bind]
      cases ((step state item).run store).2 with
      | next after =>
          have hrest := ih after
          simp only [ofItems] at hrest
          simp only [hrest]
      | stop result => rfl
  | execute s statement next ih => exact ih _ _
  | openCursor statement next ih => exact ih _ _
  | advance cursor rest ih => exact ih _

theorem run_consume_congr {flow other : Flow α ρ} (h : flow.run store = other.run store)
    (step : σ → α → Flow β (Verdict σ τ)) (done : σ → ρ → Flow β τ) (state : σ) :
    (consume step done state flow).run store = (consume step done state other).run store := by
  rw [run_consume, h, ← run_consume]

end Flow

end CatalogQuery
