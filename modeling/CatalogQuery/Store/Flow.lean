/-
Programs that talk to stores.  A `Flow` is the tree of everything such a program may do:
it yields items one after another, asks stores in between and goes on according to
their answers, and ends with a result.  Nothing happens before someone walks down the
tree, and whoever stops walking leaves the rest undone.
-/
import CatalogQuery.Failure
import CatalogQuery.Sql.Basic

namespace CatalogQuery

/-- The stores that programs talk to. -/
inductive Store
  /-- The catalog of files and datasets. -/
  | catalog
  /-- The history of runs. -/
  | history
deriving DecidableEq, Inhabited

/-- A row of cells. -/
abbrev Row := List Cell

/-- The rows that a statement is answered with, all at once. -/
structure Answer where
  columns : List String := []
  rows : List Row := []
deriving Inhabited

/-- The rows that a statement is answered with, to be taken one by one.  A row may fail
and be followed by others. -/
structure Cursor where
  number : Nat
  rows : List (Except Failure Row)
deriving Inhabited

/-- A program that yields items of one type and ends with a result of another. -/
inductive Flow (α ρ : Type)
  | finish (result : ρ)
  | yield (item : α) (rest : Flow α ρ)
  /-- Asks a store for all rows of a statement. -/
  | execute (store : Store) (statement : Sql.Statement)
      (next : Except Failure Answer → Flow α ρ)
  /-- Asks the catalog for the rows of a statement one by one. -/
  | openCursor (statement : Sql.Statement) (next : Except Failure Cursor → Flow α ρ)
  /-- Takes a row from a cursor. -/
  | advance (cursor : Nat) (rest : Flow α ρ)

/-- A program that yields nothing. -/
abbrev Action (ρ : Type) := Flow Empty ρ

/-- What a consumer does after an item. -/
inductive Verdict (σ ρ : Type)
  /-- Goes on with the next item. -/
  | next (state : σ)
  /-- Leaves the other items alone. -/
  | stop (result : ρ)

namespace Flow

variable {α β ρ σ τ : Type}

/-- Goes on with the result. -/
def bind (flow : Flow α ρ) (f : ρ → Flow α σ) : Flow α σ :=
  match flow with
  | .finish result => f result
  | .yield item rest => .yield item (rest.bind f)
  | .execute store statement next => .execute store statement fun answer => (next answer).bind f
  | .openCursor statement next => .openCursor statement fun answer => (next answer).bind f
  | .advance cursor rest => .advance cursor (rest.bind f)

instance : Monad (Flow α) where
  pure := .finish
  bind := bind

/-- A program that yields nothing as one that might. -/
def ofAction : Action ρ → Flow α ρ
  | .finish result => .finish result
  | .yield item _ => item.elim
  | .execute store statement next => .execute store statement fun answer => ofAction (next answer)
  | .openCursor statement next => .openCursor statement fun answer => ofAction (next answer)
  | .advance cursor rest => .advance cursor (ofAction rest)

/-- The program that yields the items of a list. -/
def ofList : List α → Flow α Unit
  | [] => .finish ()
  | item :: rest => .yield item (ofList rest)

/-- Runs a step for every item, which may itself yield items and ask stores, and another
one at the end. -/
def consume (step : σ → α → Flow β (Verdict σ τ)) (done : σ → ρ → Flow β τ) (state : σ) :
    Flow α ρ → Flow β τ
  | .finish result => done state result
  | .yield item rest =>
    (step state item).bind fun verdict =>
      match verdict with
      | .next state => consume step done state rest
      | .stop result => .finish result
  | .execute store statement next =>
    .execute store statement fun answer => consume step done state (next answer)
  | .openCursor statement next =>
    .openCursor statement fun answer => consume step done state (next answer)
  | .advance cursor rest => .advance cursor (consume step done state rest)

def mapItems (f : α → β) : Flow α ρ → Flow β ρ
  | .finish result => .finish result
  | .yield item rest => .yield (f item) (mapItems f rest)
  | .execute store statement next =>
    .execute store statement fun answer => mapItems f (next answer)
  | .openCursor statement next => .openCursor statement fun answer => mapItems f (next answer)
  | .advance cursor rest => .advance cursor (mapItems f rest)

/-- Keeps the items that a test accepts; the test has a state that each item changes. -/
def filterItems (keep : σ → α → Bool × σ) (state : σ) : Flow α ρ → Flow α ρ
  | .finish result => .finish result
  | .yield item rest =>
    let (kept, state) := keep state item
    if kept then .yield item (filterItems keep state rest) else filterItems keep state rest
  | .execute store statement next =>
    .execute store statement fun answer => filterItems keep state (next answer)
  | .openCursor statement next =>
    .openCursor statement fun answer => filterItems keep state (next answer)
  | .advance cursor rest => .advance cursor (filterItems keep state rest)

/-- The first items; nothing is done after the last one of them. -/
def take : Nat → Flow α Unit → Flow α Unit
  | 0, _ => .finish ()
  | _ + 1, .finish result => .finish result
  | n + 1, .yield item rest => .yield item (take n rest)
  | n + 1, .execute store statement next =>
    .execute store statement fun answer => take (n + 1) (next answer)
  | n + 1, .openCursor statement next =>
    .openCursor statement fun answer => take (n + 1) (next answer)
  | n + 1, .advance cursor rest => .advance cursor (take (n + 1) rest)

/-- All items but the first ones. -/
def drop : Nat → Flow α ρ → Flow α ρ
  | 0, flow => flow
  | _ + 1, .finish result => .finish result
  | n + 1, .yield _ rest => drop n rest
  | n + 1, .execute store statement next =>
    .execute store statement fun answer => drop (n + 1) (next answer)
  | n + 1, .openCursor statement next =>
    .openCursor statement fun answer => drop (n + 1) (next answer)
  | n + 1, .advance cursor rest => .advance cursor (drop (n + 1) rest)

/-- Batches of the items, each of the given size except for the last one, which may be
smaller.  The first failure ends them and takes the unfinished batch with it. -/
def chunks {ε : Type} (size : Nat) (flow : Flow (Except ε α) Unit) :
    Flow (Except ε (List α)) Unit :=
  consume
    (fun batch item =>
      match item with
      | .error e => .yield (.error e) (.finish (.stop ()))
      | .ok a =>
        let batch := a :: batch
        if size ≤ batch.length then .yield (.ok batch.reverse) (.finish (.next []))
        else .finish (.next batch))
    (fun batch _ => if batch.isEmpty then .finish () else .yield (.ok batch.reverse) (.finish ()))
    [] flow

end Flow

end CatalogQuery
