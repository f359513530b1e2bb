/-
What limits and skips amount to.  Any number of them in any order is one slice of the stream, which
begins at some offset and may be bounded in length: a skip moves its beginning and leaves its end
where it is, and a limit moves its end.  With a bound the stream is followed to the end of the
slice at most.  No item behind it is taken, and the stores are asked for nothing that only such an
item would need.
-/
import CatalogQuery.Engine.Compile
import CatalogQuery.Proofs.Windows

namespace CatalogQuery

namespace Slice

variable {α : Type}

def onList (s : Slice) (items : List α) : List α :=
  match s.length with
  | none => items.drop s.offset
  | some n => (items.drop s.offset).take n

theorem onList_after (s : Slice) (window : Window) (items : List α) :
    (s.after window).onList items = window.onList (s.onList items) := by
  obtain ⟨offset, length⟩ := s
  rcases window with count | count
  · cases length with
    | none => rfl
    | some n =>
        simp only [after, onList, Window.onList, Option.elim_some, List.take_take, Nat.min_comm]
  · cases length with
    | none => simp only [after, onList, Window.onList, Option.map_none, List.drop_drop]
    | some n =>
        simp only [after, onList, Window.onList, Option.map_some, List.drop_take, List.drop_drop]

theorem onList_foldl_after (s : Slice) (windows : List Window) (items : List α) :
    (windows.foldl after s).onList items =
      windows.foldl (fun items window => window.onList items) (s.onList items) := by
  induction windows generalizing s with
  | nil => rfl
  | cons window rest ih => rw [List.foldl_cons, List.foldl_cons, ih, onList_after]

theorem onList_ofWindows (windows : List Window) (items : List α) :
    (ofWindows windows).onList items =
      windows.foldl (fun items window => window.onList items) items :=
  onList_foldl_after {} windows items

end Slice

namespace Trace

variable {α : Type} {m n : Nat} {s : Slice} {whole t : Trace α}

theorem takeItems_isPrefix (n : Nat) (t : Trace α) : takeItems n t <+: t := by
  induction t generalizing n with
  | nil => simp
  | cons entry rest ih =>
      rcases n with _ | n
      · simp
      · rcases entry with x | item
        · exact List.cons_prefix_cons.mpr ⟨rfl, ih (n + 1)⟩
        · exact List.cons_prefix_cons.mpr ⟨rfl, ih n⟩

theorem takeItems_prefix_of_le (h : m ≤ n) (t : Trace α) : takeItems m t <+: takeItems n t := by
  have hsame := takeItems_takeItems m n t
  rw [Nat.min_eq_left h] at hsame
  rw [← hsame]
  exact takeItems_isPrefix m _

/-- The exchanges are among those up to the last item of the slice. -/
theorem IsSliced.exchanges_within (h : IsSliced s whole t) (hn : s.length = some n) :
    exchanges t <+: exchanges (takeItems (s.offset + n) whole) := by
  obtain ⟨taken, rfl, hbound⟩ := h
  rw [exchanges_dropItems]
  exact (takeItems_prefix_of_le (hbound n hn) whole).filterMap _

/-- No item is taken behind the end of the slice. -/
theorem IsSliced.pulls_le (h : IsSliced s (marked 1 0 whole) t) (hn : s.length = some n) :
    pulls t ≤ s.offset + n := by
  obtain ⟨taken, rfl, hbound⟩ := h
  rw [pulls_dropItems, pulls_takeItems_marked, items_takeItems]
  calc _ ≤ taken := List.length_take_le _ _
    _ ≤ s.offset + n := hbound n hn

end Trace

namespace FileSet

variable {σ : Type} (dialect : Sql.Dialect) (debug : Bool) (windows : List Window)
  (stores : Stores σ) (state : σ)

theorem windowed_append (s : FileSet) (windows more : List Window) :
    s.windowed (windows ++ more) = (s.windowed windows).windowed more :=
  List.foldl_append

theorem exists_windowed (records : RecordStream) :
    ∃ out, windowed ⟨dialect, debug, .stream records⟩ windows = ⟨dialect, debug, .stream out⟩ := by
  induction windows generalizing records with
  | nil => exact ⟨records, rfl⟩
  | cons window rest ih => cases window <;> exact ih _

/-- A limit of zero leaves a stream that ends at once. -/
theorem stream_windowed_limit_zero (records : RecordStream) :
    (windowed ⟨dialect, debug, .stream records⟩ (windows ++ [.limit 0])).stream = .finish () := by
  obtain ⟨out, hout⟩ := exists_windowed dialect debug windows records
  rw [windowed_append, hout]
  cases out <;> rfl

end FileSet

/-- The query with windows on it, the first one innermost. -/
def Node.windowed (node : Node) (windows : List Window) : Node :=
  windows.foldl
    (fun node window =>
      match window with
      | .limit count => .limit node count
      | .skip count => .skip node count) node

theorem compileFiles_windowed {e : Engine} {o : Options} {node : Node} {needs : Sql.ColumnSet}
    {dialect : Sql.Dialect} {debug : Bool} {records : RecordStream}
    (h : e.compileFiles o node needs = .ok (.records ⟨dialect, debug, .stream records⟩))
    (windows : List Window) :
    e.compileFiles o (node.windowed windows) needs =
      .ok (.records (FileSet.windowed ⟨dialect, debug, .stream records⟩ windows)) := by
  induction windows generalizing node records with
  | nil => exact h
  | cons window rest ih =>
      rcases window with count | count
      · apply ih
        unfold Engine.compileFiles at h ⊢
        rw [Engine.compileNode, h]
        rfl
      · apply ih
        unfold Engine.compileFiles at h ⊢
        rw [Engine.compileNode, h]
        rfl

/-- Windows on a stream amount to the slice that is folded from them: what comes out is that slice
of what would come out without them; if it is bounded, no item behind its end is taken and no
exchange with the stores goes beyond those up to its last item; and nothing is done at all for a
limit of zero.  Limits and skips in a query are windows on what the query yields. -/
theorem delivered_windowed_eq_slice (e : Engine) (o : Options) (dialect : Sql.Dialect)
    (debug : Bool) (records : RecordStream) (windows : List Window) :
    (∀ (σ : Type) (stores : Stores σ) (state : σ),
      (FileSet.windowed ⟨dialect, debug, .stream records⟩ windows).delivered stores state =
          (Slice.ofWindows windows).onList (records.play stores state).trace.items ∧
        ∀ n ∈ (Slice.ofWindows windows).length,
          FileSet.pulls windows stores state ⟨dialect, debug, .stream records⟩ ≤
              (Slice.ofWindows windows).offset + n ∧
            ((FileSet.windowed ⟨dialect, debug, .stream records⟩ windows).stream.play stores
                state).trace.exchanges <+:
              (Trace.takeItems ((Slice.ofWindows windows).offset + n)
                (records.play stores state).trace).exchanges) ∧
      (FileSet.windowed ⟨dialect, debug, .stream records⟩ (windows ++ [.limit 0])).stream =
        .finish () ∧
      ∀ node needs,
        e.compileFiles o node needs = .ok (.records ⟨dialect, debug, .stream records⟩) →
          e.compileFiles o (node.windowed windows) needs =
            .ok (.records (FileSet.windowed ⟨dialect, debug, .stream records⟩ windows)) := by
  refine ⟨fun σ stores state => ⟨?_, fun n hn => ⟨?_, ?_⟩⟩,
    FileSet.stream_windowed_limit_zero dialect debug windows records,
    fun node needs h => compileFiles_windowed h windows⟩
  · rw [FileSet.delivered_windowed, Slice.onList_ofWindows]
  · exact (FileSet.isSliced_marked dialect debug windows stores state records).pulls_le hn
  · exact (FileSet.isSliced_windowed dialect debug windows stores state
      (Trace.isSliced_whole (records.play stores state).trace)).exchanges_within hn

/-- An engine with a filter that yields the records of four files. -/
def fourEngine : Engine where
  dialect := .sqlite
  filters := .ofList [("four", fun _ _ => .finish (.ok (.ofList
    (["a", "b", "c", "d"].map fun id => .ok { id := id, space := "test", name := id }))))]
  queries := .empty

/-- Two skips and two limits leave one record of four, and the last record is never taken. -/
theorem delivered_windowed_eq_slice_four :
    ∃ records : RecordStream,
      let whole : FileSet := ⟨.sqlite, false, .stream records⟩
      let windows : List Window := [.skip 1, .limit 2, .skip 1, .limit 0xffffffffffffffff]
      fourEngine.compileFiles {} (.filter { name := "four" } []) .ids = .ok (.records whole) ∧
        fourEngine.compileFiles {}
            (.limit (.skip (.limit (.skip (.filter { name := "four" } []) 1) 2) 1)
              0xffffffffffffffff) .ids = .ok (.records (whole.windowed windows)) ∧
        (whole.windowed windows).delivered emptyStores () =
          [.ok { id := "c", space := "test", name := "c" }] ∧
        FileSet.pulls windows emptyStores () whole ≤ 3 ∧
        (whole.windowed (windows ++ [.limit 0])).stream = .finish () := by
  refine ⟨_, rfl, ?_⟩
  obtain ⟨hruns, hnothing, hcompile⟩ :=
    delivered_windowed_eq_slice fourEngine {} .sqlite false _
      [.skip 1, .limit 2, .skip 1, .limit 0xffffffffffffffff]
  obtain ⟨hdelivered, hbound⟩ := hruns Unit emptyStores ()
  exact ⟨hcompile (.filter { name := "four" } []) .ids rfl, hdelivered.trans rfl,
    (hbound 1 rfl).1, hnothing⟩

end CatalogQuery
