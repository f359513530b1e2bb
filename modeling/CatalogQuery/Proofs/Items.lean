/-
The items of streams.  An item is of the file of its record, and a failure is of no file.  Who
passes on the first item of each file passes on every failure.
-/
import CatalogQuery.Proofs.Stream
import CatalogQuery.Proofs.Turns

namespace CatalogQuery

def recordsOf (items : List StreamItem) : List Record :=
  items.filterMap Except.toOption

def failuresOf (items : List StreamItem) : List Failure :=
  items.filterMap fun
    | .error f => some f
    | .ok _ => none

/-- The identifiers of the records among some items. -/
def filesOf (items : List StreamItem) : List String :=
  idsOf (recordsOf items)

def fileOf : StreamItem → Option String
  | .ok record => some record.id
  | .error _ => none

theorem failuresOf_append (items more : List StreamItem) :
    failuresOf (items ++ more) = failuresOf items ++ failuresOf more :=
  List.filterMap_append

theorem failuresOf_eq_nil_iff {items : List StreamItem} :
    failuresOf items = [] ↔ ∀ item ∈ items, (fileOf item).isSome := by
  induction items with
  | nil => exact ⟨fun _ _ hitem => (List.not_mem_nil hitem).elim, fun _ => rfl⟩
  | cons item rest ih =>
      rw [List.forall_mem_cons, ← ih]
      rcases item with f | record
      · exact ⟨nofun, fun h => nomatch h.1⟩
      · exact ⟨fun h => ⟨rfl, h⟩, fun h => h.2⟩

theorem failuresOf_map_ok (records : List Record) : failuresOf (records.map .ok) = [] := by
  rw [failuresOf_eq_nil_iff]
  simp [fileOf]

theorem filesOf_append (items more : List StreamItem) :
    filesOf (items ++ more) = filesOf items ++ filesOf more := by
  simp only [filesOf, recordsOf, idsOf, List.filterMap_append, List.map_append]

theorem filesOf_map_ok (records : List Record) : filesOf (records.map .ok) = idsOf records := by
  induction records with
  | nil => rfl
  | cons record rest ih => exact congrArg (List.cons record.id) ih

theorem filesOf_flatMap {α : Type} (as : List α) (f : α → List StreamItem) :
    filesOf (as.flatMap f) = as.flatMap fun a => filesOf (f a) := by
  simp only [filesOf, recordsOf, idsOf, List.filterMap_flatMap, List.map_flatMap]

theorem map_recordsOf {items : List StreamItem} (h : failuresOf items = []) :
    (recordsOf items).map .ok = items := by
  induction items with
  | nil => rfl
  | cons item rest ih =>
      rcases item with f | record
      · cases h
      · exact congrArg (List.cons _) (ih h)

theorem mem_filesOf {items : List StreamItem} {id : String} :
    id ∈ filesOf items ↔ ∃ item ∈ items, fileOf item = some id := by
  induction items with
  | nil => simp [filesOf, recordsOf, idsOf]
  | cons item rest ih =>
      rw [List.exists_mem_cons_iff, ← ih]
      rcases item with f | record
      · exact ⟨Or.inr, fun h => h.resolve_left fun hid => Option.some_ne_none id hid.symm⟩
      · rw [fileOf, Option.some_inj, eq_comm, ← List.mem_cons]
        rfl

theorem eq_nil_of_filesOf {items : List StreamItem} (hfiles : filesOf items = [])
    (hclean : failuresOf items = []) : items = [] := by
  cases items with
  | nil => rfl
  | cons item rest =>
      rcases item with f | record
      · cases hclean
      · cases hfiles

section Firsts

variable {α : Type} {file? : α → Option String}

/-- Two entries are of the same file. -/
def sameFile (file? : α → Option String) (a b : α) : Bool :=
  (file? a).isSome && file? a == file? b

/-- A test that accepts the first entry of each file, and what is of no file. -/
def firstTest (file? : α → Option String) (seen : IdSet) (a : α) : Bool × IdSet :=
  match file? a with
  | some id => (!seen.contains id, seen.insert id)
  | none => (true, seen)

/-- The entry is of no file that was seen. -/
def isFresh (file? : α → Option String) (seen : IdSet) (a : α) : Bool :=
  (file? a).all fun id => !seen.contains id

theorem isFresh_insert (seen : IdSet) {a : α} {id : String} (ha : file? a = some id) (b : α) :
    isFresh file? (seen.insert id) b = (!sameFile file? b a && isFresh file? seen b) := by
  cases hb : file? b with
  | none => simp [isFresh, sameFile, hb]
  | some other =>
      simp only [isFresh, sameFile, hb, ha, Option.all_some, Option.isSome_some, Bool.true_and,
        contains_insert, Bool.not_or]
      congr 1
      by_cases hid : id = other
      · simp [hid]
      · simp [hid, Ne.symm hid]

/-- The test keeps the first entries of the files that were not seen before. -/
theorem keepItems_firstTest (seen : IdSet) (entries : List α) :
    Flow.keepItems (firstTest file?) seen entries =
      (entries.filter (isFresh file? seen)).eraseDupsBy (sameFile file?) := by
  induction entries generalizing seen with
  | nil => rfl
  | cons a rest ih =>
      cases ha : file? a with
      | none =>
          have hfresh : isFresh file? seen a = true := by simp [isFresh, ha]
          have hother (b : α) : sameFile file? b a = false := by
            cases hb : file? b <;> simp [sameFile, ha, hb]
          rw [List.filter_cons_of_pos hfresh, List.eraseDupsBy_cons]
          simp [Flow.keepItems, firstTest, ha, ih, hother]
      | some id =>
          have hrest : isFresh file? (seen.insert id) =
              fun b => !sameFile file? b a && isFresh file? seen b :=
            funext (isFresh_insert seen ha)
          cases hseen : seen.contains id with
          | true =>
              -- The file counts as seen already, so that inserting it changes nothing.
              have hinsert : isFresh file? (seen.insert id) = isFresh file? seen := by
                funext b
                simp only [isFresh]
                congr 1
                funext other
                rw [contains_insert]
                by_cases hid : id = other
                · simp [← hid, hseen]
                · simp [hid]
              have hstale : ¬isFresh file? seen a = true := by simp [isFresh, ha, hseen]
              rw [List.filter_cons_of_neg hstale, ← hinsert, ← ih]
              simp [Flow.keepItems, firstTest, ha, hseen]
          | false =>
              have hfresh : isFresh file? seen a = true := by simp [isFresh, ha, hseen]
              rw [List.filter_cons_of_pos hfresh, List.eraseDupsBy_cons, List.filter_filter]
              simp [Flow.keepItems, firstTest, ha, hseen, ih, hrest]

theorem keepItems_firstTest_empty (entries : List α) :
    Flow.keepItems (firstTest file?) ∅ entries = entries.eraseDupsBy (sameFile file?) := by
  rw [keepItems_firstTest, List.filter_eq_self.mpr]
  intro a _
  cases ha : file? a <;> simp [isFresh, ha]

theorem keepItems_const (accept : α → Bool) (entries : List α) :
    Flow.keepItems (fun (_ : Unit) a => (accept a, ())) () entries = entries.filter accept := by
  induction entries with
  | nil => rfl
  | cons a rest ih => simp only [Flow.keepItems, List.filter_cons, ih]

theorem mem_of_mem_eraseDupsBy {entries : List α} {a : α}
    (h : a ∈ entries.eraseDupsBy (sameFile file?)) : a ∈ entries := by
  induction hlength : entries.length using Nat.strongRecOn generalizing entries with
  | ind n ih =>
      cases entries with
      | nil => exact h
      | cons b rest =>
          rw [List.eraseDupsBy_cons, List.mem_cons] at h
          rcases h with rfl | h
          · exact List.mem_cons_self
          · have hshorter : (rest.filter fun c => sameFile file? c b = false).length < n := by
              rw [← hlength]
              exact Nat.lt_succ_of_le (List.length_filter_le _ _)
            exact List.mem_cons_of_mem b (List.mem_filter.mp (ih _ hshorter h rfl)).1

/-- Whether the files of entries are accepted may be asked before or after. -/
theorem eraseDupsBy_filter {accept : α → Bool}
    (h : ∀ a b, sameFile file? b a = true → accept b = accept a) (entries : List α) :
    (entries.filter accept).eraseDupsBy (sameFile file?) =
      (entries.eraseDupsBy (sameFile file?)).filter accept := by
  induction hlength : entries.length using Nat.strongRecOn generalizing entries with
  | ind n ih =>
      cases entries with
      | nil => rfl
      | cons a rest =>
          have hshorter : (rest.filter fun b => sameFile file? b a = false).length < n := by
            rw [← hlength]
            exact Nat.lt_succ_of_le (List.length_filter_le _ _)
          rw [List.eraseDupsBy_cons]
          cases ha : accept a with
          | true =>
              rw [List.filter_cons_of_pos ha, List.filter_cons_of_pos ha, List.eraseDupsBy_cons,
                ← ih _ hshorter _ rfl, List.filter_filter, List.filter_filter]
              simp only [Bool.and_comm]
          | false =>
              have hcut : (rest.filter fun b => sameFile file? b a = false).filter accept =
                  rest.filter accept := by
                rw [List.filter_filter]
                apply List.filter_congr
                intro b _
                cases hsame : sameFile file? b a with
                | true => rw [h a b hsame, ha]; rfl
                | false => simp
              rw [List.filter_cons_of_neg (by simp [ha]), List.filter_cons_of_neg (by simp [ha]),
                ← ih _ hshorter _ rfl, hcut]

end Firsts

def fileOfEntry : Exchange ⊕ StreamItem → Option String
  | .inl _ => none
  | .inr item => fileOf item

/-- The items without the records of files that came before. -/
def distinct (items : List StreamItem) : List StreamItem :=
  items.eraseDupsBy (sameFile fileOf)

/-- The trace without the records of files that came before. -/
def Trace.distinct (t : Trace StreamItem) : Trace StreamItem :=
  t.eraseDupsBy (sameFile fileOfEntry)

theorem onEntries_firstTest : Flow.onEntries (firstTest fileOf) = firstTest fileOfEntry := by
  funext seen entry
  rcases entry with x | item <;> rfl

theorem items_distinct (t : Trace StreamItem) : t.distinct.items = distinct t.items := by
  rw [Trace.distinct, ← keepItems_firstTest_empty, ← onEntries_firstTest, Flow.items_keepItems,
    keepItems_firstTest_empty, distinct]

/-- A test that accepts each failure, and a record if its identifier was not seen before, keeps
the first record of each identifier. -/
theorem recordsOf_keepItems {keep : IdSet → StreamItem → Bool × IdSet}
    (hok : ∀ seen record, keep seen (.ok record) =
      (!seen.contains record.id, seen.insert record.id))
    (herror : ∀ seen f, keep seen (.error f) = (true, seen)) (seen : IdSet)
    (items : List StreamItem) :
    recordsOf (Flow.keepItems keep seen items) = firstOfEach seen (recordsOf items) := by
  induction items generalizing seen with
  | nil => rfl
  | cons item rest ih =>
      rcases item with f | record
      · simp only [Flow.keepItems, herror]
        exact ih seen
      · have hrest := ih (seen.insert record.id)
        simp only [recordsOf] at hrest ⊢
        simp only [Flow.keepItems, hok, List.filterMap_cons, Except.toOption, firstOfEach]
        by_cases hseen : seen.contains record.id = true
        · simp [hseen, hrest]
        · simp [hseen, hrest, Except.toOption]

theorem failuresOf_distinct {items : List StreamItem} (h : failuresOf items = []) :
    failuresOf (distinct items) = [] := by
  rw [failuresOf_eq_nil_iff] at h ⊢
  exact fun item hitem => h item (mem_of_mem_eraseDupsBy hitem)

/-- Each file comes out once. -/
theorem filesOf_distinct (items : List StreamItem) :
    (filesOf (distinct items)).Nodup ∧
      ∀ id, id ∈ filesOf (distinct items) ↔ id ∈ filesOf items := by
  rw [distinct, ← keepItems_firstTest_empty, filesOf,
    recordsOf_keepItems (fun _ _ => rfl) (fun _ _ => rfl)]
  refine ⟨nodup_firstOfEach ∅ _, fun id => ?_⟩
  rw [mem_idsOf_firstOfEach]
  simp [filesOf]

namespace RecordStream

/-- What a stream yields if every statement has the same answer whenever it comes. -/
def itemsFrom (s : RecordStream) (store : Responses) : List StreamItem :=
  (s.play (Flow.unchanging store) ()).trace.items

theorem denotes_iff {s : RecordStream} {store : Responses} {files : Set String} :
    s.Denotes store files ↔ failuresOf (s.itemsFrom store) = [] ∧
      (filesOf (s.itemsFrom store)).Nodup ∧
      ∀ id, id ∈ filesOf (s.itemsFrom store) ↔ id ∈ files := by
  constructor
  · rintro ⟨records, hyields, hnodup, hfiles⟩
    rw [Yields, Flow.run_eq_play] at hyields
    have hitems : s.itemsFrom store = records.map .ok := congrArg Prod.fst hyields
    rw [hitems, filesOf_map_ok]
    exact ⟨failuresOf_map_ok records, hnodup, hfiles⟩
  · rintro ⟨hclean, hnodup, hfiles⟩
    refine ⟨_, ?_, hnodup, hfiles⟩
    rw [Yields, Flow.run_eq_play, map_recordsOf hclean]
    rfl

end RecordStream

section Supplies

variable {σ : Type} {stores : Stores σ} {follows : σ → σ → Prop}

/-- The stream gives these records and no failure, also if someone else has changed the stores
after some of them. -/
inductive RecordStream.Supplies (follows : σ → σ → Prop) (stores : Stores σ) :
    σ → RecordStream → List Record → Prop
  | finish (state : σ) : Supplies follows stores state (.finish ()) []
  | yield {state : σ} (record : Record) {rest : RecordStream} {records : List Record}
    (hrest : ∀ after, follows state after → Supplies follows stores after rest records) :
    Supplies follows stores state (.yield (.ok record) rest) (record :: records)
  | execute {state : σ} (store : Store) (statement : Sql.Statement)
    {next : Except Failure Answer → RecordStream} {records : List Record}
    (hnext : Supplies follows stores (stores.execute state store statement).2
      (next (stores.execute state store statement).1) records) :
    Supplies follows stores state (.execute store statement next) records
  | openCursor {state : σ} (statement : Sql.Statement)
    {next : Except Failure Cursor → RecordStream} {records : List Record}
    (hnext : Supplies follows stores (stores.openCursor state statement).2
      (next (stores.openCursor state statement).1) records) :
    Supplies follows stores state (.openCursor statement next) records
  | advance {state : σ} (cursor : Nat) {rest : RecordStream} {records : List Record}
    (hrest : Supplies follows stores state rest records) :
    Supplies follows stores state (.advance cursor rest) records

/-- Records that are there need no store. -/
theorem RecordStream.supplies_ofList (state : σ) (records : List Record) :
    Supplies follows stores state (.ofList (records.map .ok)) records := by
  induction records generalizing state with
  | nil => exact .finish state
  | cons record rest ih => exact .yield record fun after _ => ih after

/-- If nobody else changes the stores, the stream gives the records that it yields. -/
theorem RecordStream.supplies_of_items
    (hfollows : ∀ state after, follows state after → after = state) {s : RecordStream} {state : σ}
    {records : List Record} (hitems : (s.play stores state).trace.items = records.map .ok) :
    s.Supplies follows stores state records := by
  induction s generalizing state records with
  | finish result =>
      have hnone : records = [] := List.map_eq_nil_iff.mp hitems.symm
      subst hnone
      exact .finish state
  | yield item rest ih =>
      rw [Flow.play, Trace.items_item] at hitems
      cases records with
      | nil => cases hitems
      | cons record records =>
          obtain ⟨rfl, hrest⟩ := List.cons.inj hitems
          exact .yield record fun after hafter => ih ((hfollows state after hafter).symm ▸ hrest)
  | execute store statement next ih => exact .execute store statement (ih _ hitems)
  | openCursor statement next ih => exact .openCursor statement (ih _ hitems)
  | advance cursor rest ih => exact .advance cursor (ih hitems)

end Supplies

end CatalogQuery
