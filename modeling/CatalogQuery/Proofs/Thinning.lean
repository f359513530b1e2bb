/-
One of every so many records.  The filter that keeps the records at a distance counts records
only: a failure takes no number and stays where it is.  So the filters of one distance with all
their offsets share the records of a stream out among them, each record to one of them.
-/
import CatalogQuery.Filter.Sampling
import CatalogQuery.Proofs.SetOperators
import Mathlib.Data.Int.ModEq
import Mathlib.Data.List.Nodup

namespace CatalogQuery

namespace Trace

/-- The entries of a trace, each with the number of records before it, counted from some number
on. -/
def numbered (first : Nat) (t : Trace StreamItem) : List (Nat × (Exchange ⊕ StreamItem)) :=
  t.mapIdx fun k entry => (first + (recordsOf (items (t.take k))).length, entry)

theorem numbered_cons (first : Nat) (entry : Exchange ⊕ StreamItem) (t : Trace StreamItem) :
    numbered first (entry :: t) =
      (first, entry) :: numbered (first + (recordsOf (items [entry])).length) t := by
  have hcount (k : Nat) : (recordsOf (items ((entry :: t).take (k + 1)))).length =
      (recordsOf (items [entry])).length + (recordsOf (items (t.take k))).length := by
    rw [List.take_succ_cons, ← List.singleton_append, items_append, recordsOf, recordsOf,
      recordsOf, List.filterMap_append, List.length_append]
  rw [numbered, List.mapIdx_cons, numbered]
  simp only [hcount, Nat.add_assoc]
  rfl

/-- The entry is no record, or its number is an offset up to multiples of a distance. -/
def isAt (n i : Nat) : Nat × (Exchange ⊕ StreamItem) → Bool
  | (place, .inr (.ok _)) => place ≡ i [MOD n]
  | _ => true

/-- The trace without the records at other numbers. -/
def thinned (n i : Nat) (t : Trace StreamItem) : Trace StreamItem :=
  ((t.numbered 0).filter (isAt n i)).map Prod.snd

end Trace

namespace Filter

/-- The test of records at a distance; its state is the number of the next record. -/
def distanceTest (n i place : Nat) : StreamItem → Bool × Nat
  | .ok _ => (place % n == i, place + 1)
  | .error _ => (true, place)

theorem atDistance_eq (n i : Nat) (records : RecordStream) :
    atDistance n i records = records.filterItems (distanceTest n i) 0 := rfl

/-- The test keeps the records with the right numbers, counted from where it starts. -/
theorem keepItems_distanceTest {n i : Nat} (h : i < n) (place : Nat) (t : Trace StreamItem) :
    Flow.keepItems (Flow.onEntries (distanceTest n i)) place t =
      ((t.numbered place).filter (Trace.isAt n i)).map Prod.snd := by
  induction t generalizing place with
  | nil => rfl
  | cons entry rest ih =>
      rw [Trace.numbered_cons]
      rcases entry with x | f | record
      · exact congrArg (List.cons _) (ih place)
      · exact congrArg (List.cons _) (ih place)
      · have htest : Trace.isAt n i (place, .inr (.ok record)) = (place % n == i) := by
          simp only [Trace.isAt, Nat.ModEq, Nat.mod_eq_of_lt h]
          rfl
        rw [List.filter_cons, htest, Flow.keepItems]
        simp only [Flow.onEntries, distanceTest, ih]
        split <;> rfl

theorem trace_atDistance {n i : Nat} (h : i < n) (records : RecordStream) {σ : Type}
    (stores : Stores σ) (state : σ) :
    ((atDistance n i records).play stores state).trace =
      (records.play stores state).trace.thinned n i := by
  rw [atDistance_eq, Flow.trace_filterItems, keepItems_distanceTest h, Trace.thinned]

/-- An element at one of several places comes once. -/
theorem perm_flatMap_range {α : Type} {n j : Nat} (h : j < n) (a : α) (share : Nat → List α) :
    ((List.range n).flatMap fun i => if j = i then a :: share i else share i).Perm
      (a :: (List.range n).flatMap share) := by
  obtain ⟨before, after, hrange⟩ := List.append_of_mem (List.mem_range.mpr h)
  have hnodup := List.nodup_range (n := n)
  rw [hrange, List.nodup_middle, List.nodup_cons, List.mem_append, not_or] at hnodup
  obtain ⟨⟨hbefore, hafter⟩, -⟩ := hnodup
  have hothers {others : List Nat} (hj : j ∉ others) :
      (others.flatMap fun i => if j = i then a :: share i else share i) =
        others.flatMap share := by
    apply List.flatMap_congr
    intro i hi
    rw [if_neg]
    rintro rfl
    exact hj hi
  rw [hrange, List.flatMap_append, List.flatMap_append, List.flatMap_cons, List.flatMap_cons,
    if_pos rfl, hothers hbefore, hothers hafter, List.cons_append]
  exact List.perm_middle

/-- Each record has the right number for one offset. -/
theorem perm_flatMap_distanceTest {n : Nat} (h : 0 < n) (place : Nat) (items : List StreamItem) :
    ((List.range n).flatMap fun i =>
        recordsOf (Flow.keepItems (distanceTest n i) place items)).Perm (recordsOf items) := by
  induction items generalizing place with
  | nil =>
      have hnone : ((List.range n).flatMap fun i =>
          recordsOf (Flow.keepItems (distanceTest n i) place [])) = [] :=
        List.flatMap_eq_nil_iff.mpr fun _ _ => rfl
      rw [hnone]
      exact .nil
  | cons item rest ih =>
      rcases item with f | record
      · exact ih place
      · have hshare (i : Nat) :
            recordsOf (Flow.keepItems (distanceTest n i) place (.ok record :: rest)) =
              if place % n = i
              then record :: recordsOf (Flow.keepItems (distanceTest n i) (place + 1) rest)
              else recordsOf (Flow.keepItems (distanceTest n i) (place + 1) rest) := by
          simp only [Flow.keepItems, distanceTest, beq_iff_eq]
          split <;> rfl
        simp only [hshare]
        exact (perm_flatMap_range (Nat.mod_lt place h) record _).trans
          ((ih (place + 1)).cons record)

end Filter

/-- A test that accepts everything changes nothing. -/
theorem Flow.filterItems_eq_self {α ρ τ : Type} {keep : τ → α → Bool × τ}
    (h : ∀ state item, (keep state item).1 = true) (state : τ) (flow : Flow α ρ) :
    flow.filterItems keep state = flow := by
  induction flow generalizing state with
  | finish result => rfl
  | yield item rest ih =>
      rw [filterItems]
      simp only [h, ↓reduceIte, ih]
  | execute store statement next ih =>
      exact congrArg (Flow.execute store statement) (funext fun answer => ih answer state)
  | openCursor statement next ih =>
      exact congrArg (Flow.openCursor statement) (funext fun answer => ih answer state)
  | advance cursor rest ih => exact congrArg (Flow.advance cursor) (ih state)

theorem Filter.atDistance_one (records : RecordStream) : atDistance 1 0 records = records := by
  rw [atDistance_eq]
  apply Flow.filterItems_eq_self
  intro place item
  rcases item with f | record
  · rfl
  · simp [distanceTest, Nat.mod_one]

namespace Arguments

variable {args : Arguments}

/-- The arguments ask for one record of every `n`, from the one at an offset on.  An offset that
is no integer counts as none. -/
structure Thins (args : Arguments) (n i : Nat) : Prop where
  distance : (args.int? 0 "n").map Int64.toInt = some (n : Int)
  offset : ((args.int? 1 "i").map Int64.toInt).getD 0 = (i : Int)
  lt : i < n

/-- There is no positive distance, or an integer offset is not below it. -/
inductive OutOfRange (args : Arguments) : Prop
  | noDistance (h : args.int? 0 "n" = none)
  | distance {n : Int64} (h : args.int? 0 "n" = some n) (hn : n.toInt ≤ 0)
  | offset {n i : Int64} (h : args.int? 0 "n" = some n) (hi : args.int? 1 "i" = some i)
      (hout : i.toInt < 0 ∨ n.toInt ≤ i.toInt)

theorem Thins.everyNth {n i : Nat} (h : args.Thins n i) (input : FileSet) :
    Filter.everyNth [input] args = .finish (.ok (Filter.atDistance n i input.stream)) := by
  have hlt := h.lt
  simp only [Filter.everyNth, Filter.singleInput, bind, Except.bind, h.distance, h.offset,
    Option.getD_some]
  rw [if_neg (by omega), if_pos ⟨by omega, by omega⟩]
  rfl

theorem OutOfRange.everyNth (h : args.OutOfRange) (inputs : List FileSet) :
    ∃ f, Filter.everyNth inputs args = .finish (.error f) := by
  unfold Filter.everyNth
  cases hinput : Filter.singleInput "every_nth" inputs with
  | error f => exact ⟨f, rfl⟩
  | ok input =>
      cases h with
      | noDistance h =>
          simp only [bind, Except.bind, h]
          exact ⟨_, rfl⟩
      | distance h hn =>
          simp only [bind, Except.bind, h, Option.map_some, Option.getD_some, if_pos hn]
          exact ⟨_, rfl⟩
      | offset h hi hout =>
          simp only [bind, Except.bind, h, hi, Option.map_some, Option.getD_some]
          split
          · exact ⟨_, rfl⟩
          · rw [if_neg (by omega)]
            exact ⟨_, rfl⟩

end Arguments

/-- With a positive distance and an offset below it the filter yields exactly the records whose
numbers among the records are the offset up to multiples of the distance, and each failure at its
place, with the same exchanges before each of them.  So of one distance each record is kept with
one offset, and the distance one changes nothing.  Any other distance, or an offset that is not
below it, is a failure before anything is pulled. -/
theorem everyNth_shares_out :
    (∀ (args : Arguments) n i (input : FileSet), args.Thins n i →
        ∃ kept, Filter.everyNth [input] args = .finish (.ok kept) ∧
          ∀ (σ : Type) (stores : Stores σ) (state : σ), (kept.play stores state).trace =
            (input.stream.play stores state).trace.thinned n i) ∧
      (∀ (args : Nat → Arguments) n (input : FileSet), 0 < n → (∀ i < n, (args i).Thins n i) →
        ∃ kept : Nat → RecordStream,
          (∀ i < n, Filter.everyNth [input] (args i) = .finish (.ok (kept i))) ∧
          ∀ (σ : Type) (stores : Stores σ) (state : σ),
            ((List.range n).flatMap fun i =>
              recordsOf ((kept i).play stores state).trace.items).Perm
                (recordsOf (input.stream.play stores state).trace.items)) ∧
      (∀ (args : Arguments) (input : FileSet), args.Thins 1 0 →
        Filter.everyNth [input] args = .finish (.ok input.stream)) ∧
      ∀ (args : Arguments) (inputs : List FileSet), args.OutOfRange →
        ∃ f, Filter.everyNth inputs args = .finish (.error f) := by
  refine ⟨fun args n i input h => ⟨_, h.everyNth input, fun σ stores state => ?_⟩,
    fun args n input hpos h => ⟨fun i => Filter.atDistance n i input.stream,
      fun i hi => (h i hi).everyNth input, fun σ stores state => ?_⟩,
    fun args input h => ?_, fun args inputs h => h.everyNth inputs⟩
  · exact Filter.trace_atDistance h.lt input.stream stores state
  · simp only [Filter.atDistance_eq, Flow.items_filterItems]
    exact Filter.perm_flatMap_distanceTest hpos 0 _
  · rw [h.everyNth input, Filter.atDistance_one]

/-- One record of every so many, from an offset on. -/
def oneOf (n i : Int64) : Arguments := { positional := [.int n, .int i] }

theorem everyNth_shares_out_interrupted :
    ((oneOf 2 1).Thins 2 1 ∧
        ∃ kept, Filter.everyNth [interruptedRecords] (oneOf 2 1) = .finish (.ok kept) ∧
          (kept.play emptyStores ()).trace =
            [.inr (.error (.store "boom")),
              .inr (.ok { id := "b", space := "test", name := "b" })]) ∧
      ((∀ i < 2, (oneOf 2 (Int64.ofNat i)).Thins 2 i) ∧
        ∃ kept : Nat → RecordStream,
          (∀ i < 2, Filter.everyNth [interruptedRecords] (oneOf 2 (Int64.ofNat i)) =
            .finish (.ok (kept i))) ∧
          ((List.range 2).flatMap fun i =>
            recordsOf ((kept i).play emptyStores ()).trace.items).Perm
              (recordsOf (interruptedRecords.stream.play emptyStores ()).trace.items)) ∧
      ((oneOf 1 0).Thins 1 0 ∧
        Filter.everyNth [interruptedRecords] (oneOf 1 0) =
          .finish (.ok interruptedRecords.stream)) ∧
      (oneOf 2 2).OutOfRange ∧
        ∃ f, Filter.everyNth [interruptedRecords] (oneOf 2 2) = .finish (.error f) := by
  obtain ⟨hthins, hshares, hone, hout⟩ := everyNth_shares_out
  have hsecond : (oneOf 2 1).Thins 2 1 := ⟨by decide, by decide, by decide⟩
  have hoffsets : ∀ i < 2, (oneOf 2 (Int64.ofNat i)).Thins 2 i := by
    intro i hi
    obtain rfl | rfl : i = 0 ∨ i = 1 := by omega
    · exact ⟨by decide, by decide, by decide⟩
    · exact hsecond
  have hall : (oneOf 1 0).Thins 1 0 := ⟨by decide, by decide, by decide⟩
  have hnone : (oneOf 2 2).OutOfRange := .offset rfl rfl (Or.inr (by decide))
  obtain ⟨kept, hkept, htrace⟩ := hthins _ _ _ interruptedRecords hsecond
  obtain ⟨shares, hfinish, hperm⟩ := hshares _ 2 interruptedRecords (by decide) hoffsets
  exact ⟨⟨hsecond, kept, hkept, htrace Unit emptyStores ()⟩,
    ⟨hoffsets, shares, hfinish, hperm Unit emptyStores ()⟩, ⟨hall, hone _ _ hall⟩,
    hnone, hout _ _ hnone⟩

end CatalogQuery
