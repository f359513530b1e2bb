/-
Set operators on streams as operators on lists.  A union is the concatenation of its operands,
an intersection or a difference is the first operand restricted to some files; of each file the
first record stays, and so does each failure.  Whatever the stores answer, the operands of a
union take their turns one after another.
-/
import CatalogQuery.Proofs.RightOperands

namespace CatalogQuery

/-- The failures and the records of accepted files. -/
def ofFiles (accept : String → Bool) (items : List StreamItem) : List StreamItem :=
  items.filter fun item => (fileOf item).all accept

theorem ofFiles_cons_ok (accept : String → Bool) (record : Record) (items : List StreamItem) :
    ofFiles accept (.ok record :: items) =
      if accept record.id then .ok record :: ofFiles accept items else ofFiles accept items :=
  List.filter_cons

theorem failuresOf_ofFiles (accept : String → Bool) (items : List StreamItem) :
    failuresOf (ofFiles accept items) = failuresOf items := by
  induction items with
  | nil => rfl
  | cons item rest ih =>
      rcases item with f | record
      · exact congrArg (List.cons f) ih
      · rw [ofFiles_cons_ok]
        split
        · exact ih
        · exact ih

theorem recordsOf_ofFiles (accept : String → Bool) (items : List StreamItem) :
    recordsOf (ofFiles accept items) =
      (recordsOf items).filter fun record => accept record.id := by
  induction items with
  | nil => rfl
  | cons item rest ih =>
      rcases item with f | record
      · exact ih
      · have hrecords : recordsOf (.ok record :: rest) = record :: recordsOf rest := rfl
        rw [ofFiles_cons_ok, hrecords, List.filter_cons, ← ih]
        split <;> rfl

theorem mem_filesOf_ofFiles {accept : String → Bool} {items : List StreamItem} {id : String} :
    id ∈ filesOf (ofFiles accept items) ↔ id ∈ filesOf items ∧ accept id = true := by
  rw [mem_filesOf, mem_filesOf]
  constructor
  · rintro ⟨item, hitem, hid⟩
    obtain ⟨hmem, haccept⟩ := List.mem_filter.mp hitem
    rw [hid] at haccept
    exact ⟨⟨item, hmem, hid⟩, haccept⟩
  · rintro ⟨⟨item, hmem, hid⟩, haccept⟩
    refine ⟨item, List.mem_filter.mpr ⟨hmem, ?_⟩, hid⟩
    rw [hid]
    exact haccept

theorem distinct_ofFiles (accept : String → Bool) (items : List StreamItem) :
    distinct (ofFiles accept items) = ofFiles accept (distinct items) := by
  apply eraseDupsBy_filter
  intro a b hsame
  cases hb : fileOf b with
  | none => simp [sameFile, hb] at hsame
  | some id =>
      simp only [sameFile, hb, Option.isSome_some, Bool.true_and, beq_iff_eq] at hsame
      simp only [← hsame]

theorem Trace.items_flatMap {σ : Type} (runs : List (Played σ StreamItem Unit)) :
    Trace.items (runs.flatMap Played.trace) = runs.flatMap fun run => run.trace.items := by
  induction runs with
  | nil => rfl
  | cons run rest ih => rw [List.flatMap_cons, Trace.items_append, ih, List.flatMap_cons]

namespace RecordStream

variable {σ : Type} (stores : Stores σ) (state : σ)

theorem dedupe_eq_filterItems (s : RecordStream) :
    s.dedupe = s.filterItems (firstTest fileOf) ∅ := by
  rw [dedupe]
  congr 1
  funext seen item
  rcases item with f | record <;> rfl

theorem trace_dedupe (s : RecordStream) :
    (s.dedupe.play stores state).trace = (s.play stores state).trace.distinct := by
  rw [dedupe_eq_filterItems, Flow.trace_filterItems, onEntries_firstTest,
    keepItems_firstTest_empty, Trace.distinct]

theorem items_filterIds (accept : String → Bool) (s : RecordStream) :
    ((s.filterIds accept).play stores state).trace.items =
      ofFiles accept (s.play stores state).trace.items := by
  rw [ofFiles, ← keepItems_const, filterIds, Flow.items_filterItems]
  congr 1
  funext _ item
  rcases item with f | record <;> rfl

/-- What comes of a restriction are the items of the restricted stream, of each allowed file the
first record. -/
theorem Reads.items_restricted {streams : List RecordStream} {accept : String → Prop}
    {read : Flow StreamItem (Except Failure IdSet)}
    (hread : Reads stores state streams accept read)
    (hclean : ∀ run ∈ runsInTurn stores state streams, failuresOf run.trace.items = [])
    {allows : IdSet → String → Bool} {allowed : String → Bool}
    (hallows : ∀ ids : IdSet, (∀ id, ids.contains id = true ↔ accept id) → allows ids = allowed)
    (left : RecordStream) :
    ((restricted left read allows).play stores state).trace.items =
      distinct (ofFiles allowed (left.play stores
        (stateAfter state (runsInTurn stores state streams))).trace.items) := by
  obtain ⟨ids, hids, htrace⟩ := hread.play_restricted_ok hclean left allows
  rw [htrace, Trace.items_append, Trace.items_map_inl, List.nil_append, trace_dedupe,
    items_distinct, items_filterIds, hallows ids hids]

/-- The first failure of what is read is all that comes out. -/
theorem Reads.items_restricted_error {streams : List RecordStream} {accept : String → Prop}
    {read : Flow StreamItem (Except Failure IdSet)}
    (hread : Reads stores state streams accept read) {f : Failure} {more : List Failure}
    (hf : failuresOf ((runsInTurn stores state streams).flatMap fun run => run.trace.items) =
      f :: more)
    (left : RecordStream) (allows : IdSet → String → Bool) :
    ((restricted left read allows).play stores state).trace.items = [.error f] := by
  have hfirst : (Trace.untilFailure
      ((runsInTurn stores state streams).flatMap Played.trace)).2 = some f := by
    rw [Trace.untilFailure_snd, Trace.items_flatMap, hf, List.head?_cons]
  rw [hread.trace_restricted_error (Prod.ext rfl hfirst) left allows, Trace.items_append,
    Trace.items_map_inl]
  rfl

end RecordStream

/-- The third list is made up of the first two, each in its order. -/
inductive Interleave {α : Type} : List α → List α → List α → Prop
  | nil : Interleave [] [] []
  | left {a : α} {xs ys zs : List α} : Interleave xs ys zs → Interleave (a :: xs) ys (a :: zs)
  | right {a : α} {xs ys zs : List α} : Interleave xs ys zs → Interleave xs (a :: ys) (a :: zs)

/-- What a test rejects and what it accepts make up the whole. -/
theorem interleave_filter {α : Type} (accept reject : α → Bool) {items : List α}
    (h : ∀ a ∈ items, reject a = !accept a) :
    Interleave (items.filter reject) (items.filter accept) items := by
  induction items with
  | nil => exact .nil
  | cons a rest ih =>
      obtain ⟨ha, hrest⟩ := List.forall_mem_cons.mp h
      cases haccept : accept a with
      | true =>
          rw [List.filter_cons_of_neg (by simp [ha, haccept]), List.filter_cons_of_pos haccept]
          exact (ih hrest).right
      | false =>
          rw [List.filter_cons_of_pos (by simp [ha, haccept]),
            List.filter_cons_of_neg (by simp [haccept])]
          exact (ih hrest).left

namespace RecordStream

variable {σ : Type} (stores : Stores σ) (state : σ)

/-- A union has the items of its operands, and of each file the first record.  The operands are
pulled from one after another. -/
theorem trace_union (operands : List RecordStream) :
    ((union operands).play stores state).trace =
      Trace.distinct ((runsInTurn stores state operands).flatMap Played.trace) := by
  rw [union, trace_dedupe, play_concat]

theorem items_union (operands : List RecordStream) :
    ((union operands).play stores state).trace.items =
      distinct ((runsInTurn stores state operands).flatMap fun run => run.trace.items) := by
  rw [trace_union, items_distinct, Trace.items_flatMap]

theorem turns_union (operands : List RecordStream) :
    ((union (markEach operands.length 0 operands)).play stores state).trace.turns
        operands.length =
      turnsOf 0 (runsInTurn stores state operands) := by
  have hlength : 0 + (runsInTurn stores state operands).length ≤ operands.length := by
    rw [length_runsInTurn, Nat.zero_add]
  rw [← turns_markRuns hlength, ← runsInTurn_markEach]
  apply Trace.turns_congr
  rw [union, dedupe, Flow.exchanges_filterItems, play_concat]

theorem items_intersect {left first : RecordStream} {rest : List RecordStream}
    (hclean : ∀ run ∈ runsInTurn stores state (first :: rest),
      failuresOf run.trace.items = []) :
    ((intersect left first rest).play stores state).trace.items =
      distinct (ofFiles
        (fun id => (runsInTurn stores state (first :: rest)).all fun run =>
          (filesOf run.trace.items).contains id)
        (left.play stores
          (stateAfter state (runsInTurn stores state (first :: rest)))).trace.items) := by
  rw [intersect_eq_restricted]
  apply (reads_collectAll stores state first rest).items_restricted stores state hclean
  intro ids hids
  funext id
  rw [Bool.eq_iff_iff, hids, List.all_eq_true]
  simp only [InEach, List.contains_iff_mem]

theorem items_difference {left right : RecordStream}
    (hclean : failuresOf (right.play stores state).trace.items = []) :
    ((difference left right).play stores state).trace.items =
      distinct (ofFiles
        (fun id => !(filesOf (right.play stores state).trace.items).contains id)
        (left.play stores (right.play stores state).state).trace.items) := by
  rw [difference_eq_restricted]
  apply (reads_collectIds stores state right).items_restricted stores state
    (List.forall_mem_singleton.mpr hclean)
  intro ids hids
  funext id
  rw [Bool.not_inj_iff, Bool.eq_iff_iff, hids, List.contains_iff_mem]

theorem items_intersect_error {left first : RecordStream} {rest : List RecordStream}
    {f : Failure} {more : List Failure}
    (hf : failuresOf ((runsInTurn stores state (first :: rest)).flatMap
      fun run => run.trace.items) = f :: more) :
    ((intersect left first rest).play stores state).trace.items = [.error f] := by
  rw [intersect_eq_restricted]
  exact (reads_collectAll stores state first rest).items_restricted_error stores state hf left _

theorem items_difference_error {left right : RecordStream} {f : Failure} {more : List Failure}
    (hf : failuresOf (right.play stores state).trace.items = f :: more) :
    ((difference left right).play stores state).trace.items = [.error f] := by
  have hruns : (runsInTurn stores state [right]).flatMap (fun run => run.trace.items) =
      (right.play stores state).trace.items := List.append_nil _
  rw [difference_eq_restricted]
  exact (reads_collectIds stores state right).items_restricted_error stores state
    ((congrArg failuresOf hruns).trans hf) left _

/-- The set operators are operators on lists, failures included.  A difference and an
intersection of the same streams share no file and together make up the first stream. -/
theorem play_setOperators :
    (∀ operands : List RecordStream,
      ((union operands).play stores state).trace =
        Trace.distinct ((runsInTurn stores state operands).flatMap Played.trace) ∧
      ((union operands).play stores state).trace.items =
        distinct ((runsInTurn stores state operands).flatMap fun run => run.trace.items) ∧
      ((union (markEach operands.length 0 operands)).play stores state).trace.turns
          operands.length =
        turnsOf 0 (runsInTurn stores state operands)) ∧
    (∀ (left first : RecordStream) (rest : List RecordStream),
      ((∀ run ∈ runsInTurn stores state (first :: rest), failuresOf run.trace.items = []) →
        ((intersect left first rest).play stores state).trace.items =
          distinct (ofFiles
            (fun id => (runsInTurn stores state (first :: rest)).all fun run =>
              (filesOf run.trace.items).contains id)
            (left.play stores
              (stateAfter state (runsInTurn stores state (first :: rest)))).trace.items)) ∧
      ∀ f more, failuresOf ((runsInTurn stores state (first :: rest)).flatMap
          fun run => run.trace.items) = f :: more →
        ((intersect left first rest).play stores state).trace.items = [.error f]) ∧
    (∀ left right : RecordStream,
      (failuresOf (right.play stores state).trace.items = [] →
        ((difference left right).play stores state).trace.items =
          distinct (ofFiles
            (fun id => !(filesOf (right.play stores state).trace.items).contains id)
            (left.play stores (right.play stores state).state).trace.items)) ∧
      ∀ f more, failuresOf (right.play stores state).trace.items = f :: more →
        ((difference left right).play stores state).trace.items = [.error f]) ∧
    (∀ left right : RecordStream, failuresOf (right.play stores state).trace.items = [] →
      failuresOf (left.play stores (right.play stores state).state).trace.items = [] →
      (∀ id ∈ filesOf ((difference left right).play stores state).trace.items,
        id ∉ filesOf ((intersect left right []).play stores state).trace.items) ∧
      Interleave ((difference left right).play stores state).trace.items
        ((intersect left right []).play stores state).trace.items
        (distinct (left.play stores (right.play stores state).state).trace.items)) := by
  refine ⟨fun operands => ⟨trace_union stores state operands, items_union stores state operands,
    turns_union stores state operands⟩,
    fun left first rest => ⟨items_intersect stores state,
      fun f more => items_intersect_error stores state⟩,
    fun left right => ⟨items_difference stores state,
      fun f more => items_difference_error stores state⟩,
    fun left right hright hleft => ?_⟩
  have hruns : ∀ run ∈ runsInTurn stores state [right], failuresOf run.trace.items = [] :=
    List.forall_mem_singleton.mpr hright
  rw [items_difference stores state hright, items_intersect stores state hruns,
    distinct_ofFiles, distinct_ofFiles]
  constructor
  · intro id hremoved hkept
    have hout := (mem_filesOf_ofFiles.mp hremoved).2
    have hin := (mem_filesOf_ofFiles.mp hkept).2
    simp [runsInTurn] at hout hin
    exact hout hin
  · apply interleave_filter
    intro item hitem
    have hrecord := failuresOf_eq_nil_iff.mp hleft item (mem_of_mem_eraseDupsBy hitem)
    obtain ⟨id, hid⟩ := Option.isSome_iff_exists.mp hrecord
    simp [hid, runsInTurn]

end RecordStream

def plainRecord (id : String) : Record := { id := id, space := "test", name := id }

/-- Such a record as an item. -/
def letter (id : String) : StreamItem := .ok (plainRecord id)

/-- Records that come twice, around a failure. -/
def brokenLetters : RecordStream :=
  .ofList [letter "b", .error (.store "boom"), letter "a", letter "b", letter "c"]

/-- Records without a failure among them. -/
def wholeLetters : RecordStream := .ofList [letter "c", letter "a", letter "c", letter "d"]

theorem play_setOperators_letters :
    ((RecordStream.union [brokenLetters, wholeLetters]).play emptyStores ()).trace.items =
        [letter "b", .error (.store "boom"), letter "a", letter "c", letter "d"] ∧
      ((RecordStream.intersect brokenLetters wholeLetters []).play emptyStores ()).trace.items =
        [.error (.store "boom"), letter "a", letter "c"] ∧
      ((RecordStream.difference brokenLetters wholeLetters).play emptyStores ()).trace.items =
        [letter "b", .error (.store "boom")] ∧
      ((RecordStream.difference wholeLetters brokenLetters).play emptyStores ()).trace.items =
        [.error (.store "boom")] ∧
      Interleave
        ((RecordStream.difference wholeLetters (.ofList [letter "a"])).play emptyStores
          ()).trace.items
        ((RecordStream.intersect wholeLetters (.ofList [letter "a"]) []).play emptyStores
          ()).trace.items
        [letter "c", letter "a", letter "d"] := by
  obtain ⟨hunion, hintersect, hdifference, hparts⟩ :=
    RecordStream.play_setOperators emptyStores ()
  have hwhole : failuresOf (wholeLetters.play emptyStores ()).trace.items = [] := rfl
  refine ⟨(hunion [brokenLetters, wholeLetters]).2.1.trans rfl,
    ((hintersect brokenLetters wholeLetters []).1
      (List.forall_mem_singleton.mpr hwhole)).trans rfl,
    ((hdifference brokenLetters wholeLetters).1 hwhole).trans rfl,
    (hdifference wholeLetters brokenLetters).2 _ [] rfl, ?_⟩
  exact (hparts wholeLetters (.ofList [letter "a"]) rfl hwhole).2

end CatalogQuery
