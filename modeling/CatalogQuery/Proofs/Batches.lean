/-
Batches of a list and of a stream.  As soon as a batch is full it is passed on; what is left at
the end makes a smaller one.
-/
import CatalogQuery.Store.Flow

namespace CatalogQuery

/-- All batches are full but for the last one, which may be smaller. -/
inductive Batching {α : Type} (size : Nat) : List (List α) → Prop
  | nil : Batching size []
  | last {batch : List α} (hne : batch ≠ []) (h : batch.length < size) : Batching size [batch]
  | cons {batch : List α} {rest : List (List α)} (h : batch.length = size)
    (hrest : Batching size rest) : Batching size (batch :: rest)

namespace Batching

variable {α : Type} {size : Nat} {batches : List (List α)}

theorem append {full : List (List α)} (hfull : ∀ batch ∈ full, batch.length = size)
    (h : Batching size batches) : Batching size (full ++ batches) := by
  induction full with
  | nil => exact h
  | cons batch rest ih =>
      obtain ⟨hbatch, hrest⟩ := List.forall_mem_cons.mp hfull
      exact .cons hbatch (ih hrest)

theorem ne_nil (h : Batching size batches) (hsize : 0 < size) :
    ∀ batch ∈ batches, batch ≠ [] := by
  induction h with
  | nil => exact fun _ hbatch => (List.not_mem_nil hbatch).elim
  | last hne _ => exact List.forall_mem_singleton.mpr hne
  | cons hlength _ ih =>
      refine List.forall_mem_cons.mpr ⟨?_, ih⟩
      rintro rfl
      exact absurd hlength (Nat.ne_of_lt hsize)

/-- Each batch has the elements at its positions. -/
theorem getElem_eq (h : Batching size batches) (k : Nat) (hk : k < batches.length) :
    batches[k] = (batches.flatten.drop (size * k)).take size := by
  induction h generalizing k with
  | nil => exact absurd hk (Nat.not_lt_zero k)
  | last _ hlength =>
      obtain rfl : k = 0 := Nat.lt_one_iff.mp hk
      simp [List.take_of_length_le (Nat.le_of_lt hlength)]
  | @cons batch rest hlength _ ih =>
      cases k with
      | zero => simp [← hlength]
      | succ k =>
          have hskip : size * (k + 1) = batch.length + size * k := by
            rw [hlength, Nat.mul_succ, Nat.add_comm]
          rw [List.getElem_cons_succ, List.flatten_cons, hskip, List.drop_length_add_append]
          exact ih k (Nat.lt_of_succ_lt_succ hk)

/-- There are as few batches as possible. -/
theorem length_eq (h : Batching size batches) (hsize : 0 < size) :
    batches.length = (batches.flatten.length + (size - 1)) / size := by
  induction h with
  | nil => simp [Nat.div_eq_of_lt (Nat.sub_lt hsize Nat.one_pos)]
  | @last batch hne hlength =>
      have hpos : 0 < batch.length := List.length_pos_iff.mpr hne
      rw [List.flatten_singleton, List.length_singleton]
      exact (Nat.div_eq_of_lt_le (by omega) (by omega)).symm
  | cons hlength _ ih =>
      rw [List.length_cons, ih, List.flatten_cons, List.length_append, hlength, Nat.add_assoc,
        Nat.add_div_left _ hsize]

end Batching

section BatchesFrom

variable {α : Type} {size : Nat}

/-- The batches of a list and an unfinished one before it, latest element first. -/
def batchesFrom (size : Nat) (pending : List α) : List α → List (List α)
  | [] => if pending.isEmpty then [] else [pending.reverse]
  | a :: rest =>
    if size ≤ (a :: pending).length then (a :: pending).reverse :: batchesFrom size [] rest
    else batchesFrom size (a :: pending) rest

theorem flatten_batchesFrom (size : Nat) (pending items : List α) :
    (batchesFrom size pending items).flatten = pending.reverse ++ items := by
  induction items generalizing pending with
  | nil => cases pending <;> simp [batchesFrom]
  | cons a rest ih =>
      rw [batchesFrom]
      split
      · simp [ih]
      · simp [ih]

theorem batching_batchesFrom {pending : List α} (h : pending.length < size) (items : List α) :
    Batching size (batchesFrom size pending items) := by
  induction items generalizing pending with
  | nil =>
      rw [batchesFrom]
      cases pending with
      | nil => exact .nil
      | cons a pending => exact .last (by simp) (by rwa [List.length_reverse])
  | cons a rest ih =>
      rw [batchesFrom]
      split
      · rename_i hfull
        refine .cons ?_ (ih (Nat.zero_lt_of_lt h))
        rw [List.length_reverse]
        exact Nat.le_antisymm h hfull
      · rename_i hsmall
        exact ih (Nat.lt_of_not_le hsmall)

end BatchesFrom

namespace Flow

variable {α ε : Type}

/-- Batches with an unfinished one, latest item first. -/
def chunksFrom (size : Nat) (pending : List α) (flow : Flow (Except ε α) Unit) :
    Flow (Except ε (List α)) Unit :=
  consume
    (fun batch item =>
      match item with
      | .error e => .yield (.error e) (.finish (.stop ()))
      | .ok a =>
        let batch := a :: batch
        if size ≤ batch.length then .yield (.ok batch.reverse) (.finish (.next []))
        else .finish (.next batch))
    (fun batch _ => if batch.isEmpty then .finish () else .yield (.ok batch.reverse) (.finish ()))
    pending flow

theorem chunksFrom_full {size : Nat} {pending : List α} {a : α}
    (hfull : size ≤ (a :: pending).length) (rest : Flow (Except ε α) Unit) :
    chunksFrom size pending (.yield (.ok a) rest) =
      .yield (.ok (a :: pending).reverse) (chunksFrom size [] rest) := by
  simp only [chunksFrom, consume, hfull, if_true, bind]

theorem chunksFrom_small {size : Nat} {pending : List α} {a : α}
    (hsmall : ¬size ≤ (a :: pending).length) (rest : Flow (Except ε α) Unit) :
    chunksFrom size pending (.yield (.ok a) rest) = chunksFrom size (a :: pending) rest := by
  simp only [chunksFrom, consume, hsmall, if_false, bind]

section ConsumeChunks

variable {β ρ σ : Type} {size : Nat} {pending : List α}
  (step : σ → Except ε (List α) → Flow β (Verdict σ ρ)) (done : σ → Unit → Flow β ρ) (state : σ)

theorem consume_chunksFrom_finish (hne : pending ≠ []) :
    consume step done state (chunksFrom size pending (.finish ())) =
      (step state (.ok pending.reverse)).bind fun verdict =>
        match verdict with
        | .next state => done state ()
        | .stop result => .finish result := by
  cases pending with
  | nil => exact absurd rfl hne
  | cons a rest =>
      apply congrArg (bind _)
      funext verdict
      cases verdict <;> rfl

theorem consume_chunksFrom_full {a : α} (hfull : size ≤ (a :: pending).length)
    (rest : Flow (Except ε α) Unit) :
    consume step done state (chunksFrom size pending (.yield (.ok a) rest)) =
      (step state (.ok (a :: pending).reverse)).bind fun verdict =>
        match verdict with
        | .next state => consume step done state (chunksFrom size [] rest)
        | .stop result => .finish result := by
  rw [chunksFrom_full hfull, consume]
  apply congrArg (bind _)
  funext verdict
  cases verdict <;> rfl

end ConsumeChunks

end Flow

end CatalogQuery
