/-
Windows on a stream.  Limits and skips may be put on a set in any number and order; together
they take the items of the stream up to some item and pass over the first ones of these.  So a
failure that is taken comes out unless it is passed over: the skips count failures like records
and pass over them as well, and a limit passes over nothing.
-/
import CatalogQuery.Proofs.Items

namespace CatalogQuery

namespace Trace

variable {α : Type}

/-- The trace up to the last of some items; what comes after it is not done. -/
def takeItems : Nat → Trace α → Trace α
  | 0, _ => []
  | _ + 1, [] => []
  | n + 1, .inr item :: rest => .inr item :: takeItems n rest
  | n + 1, .inl x :: rest => .inl x :: takeItems (n + 1) rest

/-- The trace without the first items; what is done for them is still done. -/
def dropItems : Nat → Trace α → Trace α
  | 0, t => t
  | _ + 1, [] => []
  | n + 1, .inr _ :: rest => dropItems n rest
  | n + 1, .inl x :: rest => .inl x :: dropItems (n + 1) rest

section Steps

variable (n : Nat) (x : Exchange) (item : α) (t : Trace α)

@[simp] theorem takeItems_zero : takeItems 0 t = [] := by
  cases t <;> rfl

@[simp] theorem takeItems_nil : takeItems n ([] : Trace α) = [] := by
  cases n <;> rfl

@[simp] theorem takeItems_exchange :
    takeItems (n + 1) (.inl x :: t) = .inl x :: takeItems (n + 1) t := rfl

@[simp] theorem takeItems_item :
    takeItems (n + 1) (.inr item :: t) = .inr item :: takeItems n t := rfl

@[simp] theorem dropItems_zero : dropItems 0 t = t := by
  cases t <;> rfl

@[simp] theorem dropItems_nil : dropItems n ([] : Trace α) = [] := by
  cases n <;> rfl

@[simp] theorem dropItems_exchange : dropItems n (.inl x :: t) = .inl x :: dropItems n t := by
  cases n with
  | zero => simp
  | succ n => rfl

@[simp] theorem dropItems_item : dropItems (n + 1) (.inr item :: t) = dropItems n t := rfl

end Steps

theorem items_takeItems (n : Nat) (t : Trace α) : items (takeItems n t) = (items t).take n := by
  induction t generalizing n with
  | nil => simp
  | cons entry rest ih =>
      rcases n with _ | n
      · simp
      · rcases entry with x | item <;> simp [ih]

theorem items_dropItems (n : Nat) (t : Trace α) : items (dropItems n t) = (items t).drop n := by
  induction t generalizing n with
  | nil => simp
  | cons entry rest ih =>
      rcases entry with x | item
      · simp [ih]
      · rcases n with _ | n <;> simp [ih]

theorem exchanges_dropItems (n : Nat) (t : Trace α) :
    exchanges (dropItems n t) = exchanges t := by
  induction t generalizing n with
  | nil => simp
  | cons entry rest ih =>
      rcases entry with x | item
      · rw [dropItems_exchange]
        exact congrArg (List.cons x) (ih n)
      · rcases n with _ | n
        · rw [dropItems_zero]
        · exact ih n

theorem takeItems_of_length_lt {n : Nat} {t : Trace α} (h : (items t).length < n) :
    takeItems n t = t := by
  induction t generalizing n with
  | nil => simp
  | cons entry rest ih =>
      rcases n with _ | n
      · omega
      · rcases entry with x | item
        · rw [takeItems_exchange, ih h]
        · rw [items_item, List.length_cons] at h
          rw [takeItems_item, ih (by omega)]

theorem takeItems_takeItems (m n : Nat) (t : Trace α) :
    takeItems m (takeItems n t) = takeItems (min m n) t := by
  induction t generalizing m n with
  | nil => simp
  | cons entry rest ih =>
      rcases m with _ | m
      · simp
      · rcases n with _ | n
        · simp
        · rw [Nat.succ_min_succ]
          rcases entry with x | item
          · simp [ih, Nat.succ_min_succ]
          · simp [ih]

theorem dropItems_dropItems (m n : Nat) (t : Trace α) :
    dropItems m (dropItems n t) = dropItems (n + m) t := by
  induction t generalizing n with
  | nil => simp
  | cons entry rest ih =>
      rcases entry with x | item
      · simp [ih]
      · rcases n with _ | n
        · simp
        · simp [ih, Nat.add_right_comm]

/-- To take items after others were passed over is to take all of these before. -/
theorem takeItems_dropItems (m n : Nat) (t : Trace α) :
    takeItems (m + 1) (dropItems n t) = dropItems n (takeItems (n + m + 1) t) := by
  induction t generalizing n with
  | nil => simp
  | cons entry rest ih =>
      rcases entry with x | item
      · simp [ih]
      · rcases n with _ | n
        · simp
        · rw [Nat.add_right_comm n 1 m]
          simp [ih]

/-- All exchanges in front of an item are made to take it. -/
theorem takeItems_map_inl (n : Nat) (log : List Exchange) (t : Trace α) :
    takeItems (n + 1) (log.map .inl ++ t) = log.map .inl ++ takeItems (n + 1) t := by
  induction log with
  | nil => rfl
  | cons x rest ih => exact congrArg (List.cons _) ih

theorem takeItems_marked (places place n : Nat) (t : Trace α) :
    takeItems n (marked places place t) = marked places place (takeItems n t) := by
  induction t generalizing n with
  | nil => cases n <;> rfl
  | cons entry rest ih =>
      rcases n with _ | n
      · rw [takeItems_zero, takeItems_zero, marked, List.flatMap_nil]
      · rcases entry with (_ | _ | _) | item
        · exact congrArg (List.cons _) (ih (n + 1))
        · exact congrArg (List.cons _) (ih (n + 1))
        · exact congrArg (List.cons _) (ih (n + 1))
        · exact congrArg (fun more => .inl (.advanced place) :: .inr item :: more) (ih n)

/-- How many items were taken of a program whose items have the marks of a single place. -/
def pulls (t : Trace α) : Nat := (turns 1 t).length

/-- As many items are taken as there are until the last one that is wanted. -/
theorem pulls_takeItems_marked (n : Nat) (t : Trace α) :
    pulls (takeItems n (marked 1 0 t)) = (items (takeItems n t)).length := by
  rw [takeItems_marked, pulls, turns_marked Nat.one_pos, List.length_replicate]

theorem pulls_dropItems (n : Nat) (t : Trace α) : pulls (dropItems n t) = pulls t := by
  rw [pulls, turns_congr (exchanges_dropItems n t), pulls]

end Trace

namespace Flow

variable {α ρ σ : Type}

theorem trace_take (stores : Stores σ) (state : σ) (n : Nat) (flow : Flow α Unit) :
    ((take n flow).play stores state).trace =
      Trace.takeItems n (flow.play stores state).trace := by
  induction flow generalizing state n with
  | finish result => cases n <;> rfl
  | yield item rest ih =>
      rcases n with _ | n
      · rfl
      · exact congrArg (List.cons _) (ih state n)
  | execute store statement next ih =>
      rcases n with _ | n
      · rfl
      · exact congrArg (List.cons _) (ih _ _ (n + 1))
  | openCursor statement next ih =>
      rcases n with _ | n
      · rfl
      · exact congrArg (List.cons _) (ih _ _ (n + 1))
  | advance cursor rest ih =>
      rcases n with _ | n
      · rfl
      · exact congrArg (List.cons _) (ih state (n + 1))

theorem trace_drop (stores : Stores σ) (state : σ) (n : Nat) (flow : Flow α ρ) :
    ((drop n flow).play stores state).trace =
      Trace.dropItems n (flow.play stores state).trace := by
  induction flow generalizing state n with
  | finish result => cases n <;> rfl
  | yield item rest ih =>
      rcases n with _ | n
      · rfl
      · exact ih state n
  | execute store statement next ih =>
      rcases n with _ | n
      · rfl
      · exact congrArg (List.cons _) (ih _ _ (n + 1))
  | openCursor statement next ih =>
      rcases n with _ | n
      · rfl
      · exact congrArg (List.cons _) (ih _ _ (n + 1))
  | advance cursor rest ih =>
      rcases n with _ | n
      · rfl
      · exact congrArg (List.cons _) (ih state (n + 1))

end Flow

/-- A step that puts a window on a set. -/
inductive Window
  | limit (count : UInt64)
  | skip (count : UInt64)

namespace Window

def apply : Window → FileSet → FileSet
  | .limit count => FileSet.limit count
  | .skip count => FileSet.skip count

/-- How many items the window passes over. -/
def skipped : Window → Nat
  | .limit _ => 0
  | .skip count => count.toNat

def onList {α : Type} : Window → List α → List α
  | .limit count => List.take count.toNat
  | .skip count => List.drop count.toNat

/-- How many items some windows pass over. -/
def allSkipped : List Window → Nat
  | [] => 0
  | window :: rest => window.skipped + allSkipped rest

end Window

/-- A part of a list: where it begins, and how long it may be if that is bounded. -/
structure Slice where
  offset : Nat := 0
  length : Option Nat := none

namespace Slice

def after (s : Slice) : Window → Slice
  | .limit count => { s with length := some (s.length.elim count.toNat (min · count.toNat)) }
  | .skip count => ⟨s.offset + count.toNat, s.length.map (· - count.toNat)⟩

/-- The slice that windows leave of a whole list, the first one innermost. -/
def ofWindows (windows : List Window) : Slice := windows.foldl after {}

/-- The beginning of a slice is moved by what is passed over. -/
theorem offset_foldl_after (s : Slice) (windows : List Window) :
    (windows.foldl after s).offset = s.offset + Window.allSkipped windows := by
  induction windows generalizing s with
  | nil => rfl
  | cons window rest ih =>
      rw [List.foldl_cons, ih, Window.allSkipped, ← Nat.add_assoc]
      cases window <;> rfl

end Slice

namespace Trace

variable {α : Type} {s : Slice} {whole t : Trace α}

/-- A trace is that of a slice: the slice's beginning is passed over, and the whole trace is
followed no further than the slice's end. -/
def IsSliced (s : Slice) (whole t : Trace α) : Prop :=
  ∃ taken, t = dropItems s.offset (takeItems taken whole) ∧
    ∀ n ∈ s.length, taken ≤ s.offset + n

theorem isSliced_whole (t : Trace α) : IsSliced {} t t := by
  refine ⟨(items t).length + 1, ?_, nofun⟩
  rw [takeItems_of_length_lt (Nat.lt_succ_self _), dropItems_zero]

/-- A limit moves the end.  Nothing is taken for a limit of zero. -/
theorem IsSliced.limit (h : IsSliced s whole t) (count : UInt64) :
    IsSliced (s.after (.limit count)) whole (takeItems count.toNat t) := by
  obtain ⟨taken, rfl, hbound⟩ := h
  cases hcount : count.toNat with
  | zero => exact ⟨0, by simp, fun n _ => Nat.zero_le _⟩
  | succ k =>
      refine ⟨min (s.offset + k + 1) taken, ?_, fun n hn => ?_⟩
      · rw [takeItems_dropItems, takeItems_takeItems]
        rfl
      · obtain rfl := Option.some.inj hn
        cases hlength : s.length with
        | none =>
            simp only [Slice.after, Option.elim_none]
            omega
        | some length =>
            have htaken := hbound length hlength
            simp only [Slice.after, Option.elim_some]
            omega

/-- A skip moves the beginning. -/
theorem IsSliced.skip (h : IsSliced s whole t) (count : UInt64) :
    IsSliced (s.after (.skip count)) whole (dropItems count.toNat t) := by
  obtain ⟨taken, rfl, hbound⟩ := h
  refine ⟨taken, dropItems_dropItems count.toNat _ _, fun n hn => ?_⟩
  obtain ⟨length, hlength, rfl⟩ := Option.map_eq_some_iff.mp hn
  have htaken := hbound length hlength
  simp only [Slice.after]
  omega

/-- A slice has the items that were taken but for those passed over. -/
theorem IsSliced.items_eq (h : IsSliced s (marked 1 0 whole) t) :
    items t = ((items whole).take (pulls t)).drop s.offset := by
  obtain ⟨taken, rfl, -⟩ := h
  rw [pulls_dropItems, pulls_takeItems_marked, items_dropItems, items_takeItems, items_takeItems,
    items_marked, List.length_take, ← List.take_eq_take_min]

end Trace

namespace FileSet

variable {σ : Type}

/-- The set with windows on it, the first one innermost. -/
def windowed (s : FileSet) (windows : List Window) : FileSet :=
  windows.foldl (fun s window => window.apply s) s

/-- How many items are taken of a set of records in a run of the set with windows on it. -/
def pulls (windows : List Window) (stores : Stores σ) (state : σ) (s : FileSet) : Nat :=
  (((s.marked 1 0).windowed windows).stream.play stores state).trace.pulls

/-- The items of a set of records that are taken of it in a run of the set with windows on it. -/
def pulled (s : FileSet) (windows : List Window) (stores : Stores σ) (state : σ) :
    List StreamItem :=
  (s.stream.play stores state).trace.items.take (s.pulls windows stores state)

/-- The items that come out of the set in a run. -/
def delivered (s : FileSet) (stores : Stores σ) (state : σ) : List StreamItem :=
  (s.stream.play stores state).trace.items

section Windowed

variable (dialect : Sql.Dialect) (debug : Bool) (windows : List Window) (stores : Stores σ)
  (state : σ)

/-- Each further window leaves a slice of the slice. -/
theorem isSliced_windowed {records : RecordStream} {s : Slice} {whole : Trace StreamItem}
    (h : Trace.IsSliced s whole (records.play stores state).trace) :
    Trace.IsSliced (windows.foldl Slice.after s) whole
      ((windowed ⟨dialect, debug, .stream records⟩ windows).stream.play stores state).trace := by
  induction windows generalizing records s with
  | nil => exact h
  | cons window rest ih =>
      rcases window with count | count
      · apply ih
        rw [Flow.trace_take]
        exact h.limit count
      · apply ih
        rw [Flow.trace_drop]
        exact h.skip count

/-- The marks of a set of records do not change the slice. -/
theorem isSliced_marked (records : RecordStream) :
    Trace.IsSliced (Slice.ofWindows windows) (Trace.marked 1 0 (records.play stores state).trace)
      ((windowed (marked 1 0 ⟨dialect, debug, .stream records⟩) windows).stream.play stores
        state).trace := by
  have hwhole := isSliced_windowed dialect debug windows stores state
    (Trace.isSliced_whole ((records.marked 1 0).play stores state).trace)
  rwa [Flow.play_marked] at hwhole

/-- What comes out through windows are the windows of what comes out without them. -/
theorem delivered_windowed (records : RecordStream) :
    (windowed ⟨dialect, debug, .stream records⟩ windows).delivered stores state =
      windows.foldl (fun items window => window.onList items)
        (records.play stores state).trace.items := by
  induction windows generalizing records with
  | nil => rfl
  | cons window rest ih =>
      rcases window with count | count
      · refine (ih (Flow.take count.toNat records)).trans ?_
        rw [Flow.trace_take, Trace.items_takeItems]
        rfl
      · refine (ih (Flow.drop count.toNat records)).trans ?_
        rw [Flow.trace_drop, Trace.items_dropItems]
        rfl

/-- Of the items that are taken all come out but the first ones, as many as are skipped. -/
theorem delivered_eq_drop_pulled {s : FileSet} {records : RecordStream}
    (hs : s.source = .stream records) :
    (s.windowed windows).delivered stores state =
      (s.pulled windows stores state).drop (Window.allSkipped windows) := by
  obtain ⟨dialect, debug, source⟩ := s
  obtain rfl : source = .stream records := hs
  have hoffset : (Slice.ofWindows windows).offset = Window.allSkipped windows := by
    rw [Slice.ofWindows, Slice.offset_foldl_after, Nat.zero_add]
  -- The marks tell how many items are taken and change none of those that come out.
  calc
    _ = windows.foldl (fun items window => window.onList items)
        (records.play stores state).trace.items :=
      delivered_windowed dialect debug windows stores state records
    _ = windows.foldl (fun items window => window.onList items)
        ((records.marked 1 0).play stores state).trace.items := by
      rw [Flow.play_marked, Trace.items_marked]
    _ = (windowed ⟨dialect, debug, .stream (records.marked 1 0)⟩ windows).delivered stores state :=
      (delivered_windowed dialect debug windows stores state (records.marked 1 0)).symm
    _ = _ := (isSliced_marked dialect debug windows stores state records).items_eq
    _ = _ := by
      rw [hoffset]
      rfl

/-- The failures that are taken of a set of records through limits and skips all come out and
in the same order, unless a skip passes over one of them. -/
theorem failuresOf_delivered {s : FileSet} {records : RecordStream}
    (hs : s.source = .stream records)
    (hskipped : failuresOf ((s.pulled windows stores state).take (Window.allSkipped windows)) =
      []) :
    failuresOf ((s.windowed windows).delivered stores state) =
      failuresOf (s.pulled windows stores state) := by
  rw [delivered_eq_drop_pulled windows stores state hs]
  calc
    _ = failuresOf ((s.pulled windows stores state).take (Window.allSkipped windows)) ++
        failuresOf ((s.pulled windows stores state).drop (Window.allSkipped windows)) := by
      rw [hskipped, List.nil_append]
    _ = _ := by rw [← failuresOf_append, List.take_append_drop]

end Windowed

end FileSet

/-- A record, a failure and another record. -/
def interruptedRecords : FileSet where
  dialect := .sqlite
  debug := false
  source := .stream (.ofList
    [.ok { id := "a", space := "test", name := "a" }, .error (.store "boom"),
      .ok { id := "b", space := "test", name := "b" }])

theorem failuresOf_delivered_interrupted :
    failuresOf ((interruptedRecords.pulled [.limit 2, .skip 1] emptyStores ()).take 1) = [] ∧
      failuresOf ((interruptedRecords.windowed [.limit 2, .skip 1]).delivered emptyStores ()) =
        [.store "boom"] := by
  have hskipped : failuresOf
      ((interruptedRecords.pulled [.limit 2, .skip 1] emptyStores ()).take 1) = [] := rfl
  exact ⟨hskipped, FileSet.failuresOf_delivered [.limit 2, .skip 1] emptyStores () rfl hskipped⟩

/-- A failure alone. -/
def failingRecords : FileSet where
  dialect := .sqlite
  debug := false
  source := .stream (.fail (.store "boom"))

/-- A failure that is taken and skipped does not come out. -/
theorem failuresOf_delivered_skipped :
    failuresOf (failingRecords.pulled [.skip 1] emptyStores ()) = [.store "boom"] ∧
      (failingRecords.windowed [.skip 1]).delivered emptyStores () = [] :=
  ⟨rfl, rfl⟩

end CatalogQuery
