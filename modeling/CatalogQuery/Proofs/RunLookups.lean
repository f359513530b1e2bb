/-
Runs looked up in a fixed table.  Each record gets the cells of the first row with its run, as
if the whole table were at hand: which batch a record is in, which rows came with it and what
earlier records had asked for makes no difference.
-/
import CatalogQuery.Filter.RunHistory
import CatalogQuery.Proofs.Batches
import CatalogQuery.Proofs.Items
import CatalogQuery.Proofs.StoredQueries

namespace CatalogQuery

theorem Assoc.get?_insert_of_ne {κ α : Type} [Ord κ] [Std.LawfulEqOrd κ] {key other : κ}
    (h : other ≠ key) (value : α) (entries : List (κ × α)) :
    get? other (insert key value entries) = get? other entries := by
  have hne : compare other key ≠ .eq := fun heq => h (Std.LawfulEqOrd.eq_of_compare heq)
  induction entries with
  | nil => simp [insert, get?, hne]
  | cons e rest ih =>
    obtain ⟨k, v⟩ := e
    cases hk : compare key k with
    | lt => simp [insert, get?, hk, hne]
    | eq =>
        obtain rfl : key = k := Std.LawfulEqOrd.eq_of_compare hk
        simp [insert, get?, hne]
    | gt => simp [insert, get?, hk, ih]

theorem Dict.get?_insert {κ α : Type} [Ord κ] [Std.TransOrd κ] [Std.LawfulEqOrd κ]
    [DecidableEq κ] (d : Dict κ α) (key other : κ) (value : α) :
    (d.insert key value).get? other = if other = key then some value else d.get? other := by
  split
  · rename_i h
    subst h
    exact Assoc.get?_insert_self other value d.entries
  · rename_i h
    exact Assoc.get?_insert_of_ne h value d.entries

/-- A table with one column for runs. -/
structure RunTable (runColumn : String) where
  columns : List String
  rows : List Row
  columns_nodup : columns.Nodup
  mem_columns : runColumn ∈ columns
  length_row : ∀ row ∈ rows, row.length = columns.length
  /-- The run of a row is an integer or not known. -/
  run_cell : ∀ row ∈ rows, row[columns.idxOf runColumn]? = some .null ∨
    ∃ n, row[columns.idxOf runColumn]? = some (.integer n)

namespace RunTable

variable {runColumn : String} (t : RunTable runColumn)

def run? (row : Row) : Option Int :=
  match row[t.columns.idxOf runColumn]? with
  | some (.integer n) => some n.toInt
  | _ => none

def firstRow? (run : Int) : Option Row :=
  t.rows.find? fun row => t.run? row == some run

def between (low high : Int64) : Answer where
  columns := t.columns
  rows := t.rows.filter fun row => (t.run? row).any fun run => low.toInt ≤ run && run ≤ high.toInt

def otherCells (row : Row) : List (String × Cell) :=
  (t.columns.zip row).filter fun entry => entry.1 ≠ runColumn

end RunTable

namespace RunHistory

variable (h : RunHistory) (t : RunTable h.runColumn)

/-- The metadata with each other cell of a row under the name of its column. -/
def describe (row : Row) (metadata : Metadata) : Metadata :=
  (t.otherCells row).foldl
    (fun m (column, cell) => Assoc.insert (h.space ++ "." ++ column) cell.toJson m) metadata

/-- The record with the first row of its run in a table, if there is one. -/
def withRun (record : Record) : Record :=
  match (runNumber? record.metadata).bind t.firstRow? with
  | none => record
  | some row => { record with metadata := h.describe t row record.metadata }

theorem eraseIdx_zip_idxOf (columns : List String) (row : Row) (column : String)
    (hnodup : columns.Nodup) :
    (columns.zip row).eraseIdx (columns.idxOf column) =
      (columns.zip row).filter fun entry => entry.1 ≠ column := by
  induction columns generalizing row with
  | nil => rfl
  | cons first rest ih =>
      obtain ⟨hfirst, hrest⟩ := List.nodup_cons.mp hnodup
      cases row with
      | nil => rfl
      | cons cell cells =>
          rw [List.zip_cons_cons]
          by_cases hcolumn : first = column
          · subst hcolumn
            have hall : ∀ entry ∈ rest.zip cells, decide (entry.1 ≠ first) = true := by
              intro entry hentry
              rw [decide_eq_true_eq]
              rintro rfl
              exact hfirst (List.of_mem_zip hentry).1
            rw [List.idxOf_cons_self, List.eraseIdx_cons_zero, List.filter_cons_of_neg (by simp),
              List.filter_eq_self.mpr hall]
          · have hidx : (first :: rest).idxOf column = rest.idxOf column + 1 := by
              have hne : (first == column) = false := by simpa using hcolumn
              rw [List.idxOf_cons, hne, cond_false]
            rw [hidx, List.eraseIdx_cons_succ, ih cells hrest,
              List.filter_cons_of_pos (by simpa using hcolumn)]

def tableFields (row : Row) : RunFields :=
  (t.otherCells row).map fun (column, cell) => (h.space ++ "." ++ column, cell.toJson)

theorem fieldsOf_eq (row : Row) :
    h.fieldsOf t.columns (t.columns.idxOf h.runColumn) row = h.tableFields t row := by
  rw [fieldsOf, eraseIdx_zip_idxOf _ _ _ t.columns_nodup]
  rfl

theorem foldl_tableFields (row : Row) (metadata : Metadata) :
    (h.tableFields t row).foldl (fun m (key, value) => Assoc.insert key value m) metadata =
      h.describe t row metadata := by
  rw [tableFields, List.foldl_map]
  rfl

variable {h t}

def Agrees (h : RunHistory) (t : RunTable h.runColumn) (known : KnownRuns) : Prop :=
  ∀ run fields, known.get? run = some fields →
    (t.firstRow? run).map (h.tableFields t) = some fields

theorem agrees_empty : Agrees h t .empty := nofun

/-- What is found when some runs are wanted: it agrees with the table and has all of them, and
what was known before is still there. -/
structure Learned (h : RunHistory) (t : RunTable h.runColumn) (known : KnownRuns)
    (wanted : Int → Prop) (found : KnownRuns) : Prop where
  agrees : Agrees h t found
  kept : ∀ run fields, known.get? run = some fields → found.get? run = some fields
  found : ∀ run, wanted run → found.get? run = (t.firstRow? run).map (h.tableFields t)

theorem asInteger?_run {row : Row} (hrow : row ∈ t.rows) :
    (row[t.columns.idxOf h.runColumn]?.bind Cell.asInteger?).map Int64.toInt = t.run? row := by
  rcases t.run_cell row hrow with hcell | ⟨n, hcell⟩
  · rw [RunTable.run?, hcell]
    rfl
  · rw [RunTable.run?, hcell]
    rfl

/-- A row is remembered under its run, unless that is known already. -/
theorem get?_addRow {row : Row} (hrow : row ∈ t.rows) (known : KnownRuns) (run : Int) :
    (h.addRow t.columns (t.columns.idxOf h.runColumn) known row).get? run =
      (known.get? run).or (if t.run? row = some run then some (h.tableFields t row) else none) := by
  have hrun := asInteger?_run hrow
  rw [addRow]
  cases hcell : row[t.columns.idxOf h.runColumn]?.bind Cell.asInteger? with
  | none =>
      rw [hcell] at hrun
      simp [← hrun]
  | some n =>
      rw [hcell] at hrun
      simp only [← hrun, Option.map_some, Option.some_inj]
      by_cases hsame : n.toInt = run
      · subst hsame
        cases hknown : known.get? n.toInt with
        | none => simp [Dict.get?_insert, fieldsOf_eq]
        | some fields => simp [hknown]
      · have hother : ¬run = n.toInt := fun heq => hsame heq.symm
        rw [if_neg hsame, Option.or_none]
        split
        · rfl
        · rw [Dict.get?_insert, if_neg hother]

/-- Of the rows with a run that is not known yet the first one counts. -/
theorem get?_foldl_addRow {rows : List Row} (hrows : ∀ row ∈ rows, row ∈ t.rows)
    (known : KnownRuns) (run : Int) :
    (rows.foldl (h.addRow t.columns (t.columns.idxOf h.runColumn)) known).get? run =
      (known.get? run).or
        ((rows.find? fun row => t.run? row == some run).map (h.tableFields t)) := by
  induction rows generalizing known with
  | nil => simp
  | cons row rest ih =>
      obtain ⟨hrow, hrest⟩ := List.forall_mem_cons.mp hrows
      rw [List.foldl_cons, ih hrest, get?_addRow hrow, Option.or_assoc]
      congr 1
      by_cases hrun : t.run? row = some run
      · simp [hrun]
      · simp [hrun]

/-- Within the bounds of an answer its first rows are those of the table. -/
theorem find?_between (low high : Int64) (run : Int) :
    ((t.between low high).rows.find? fun row => t.run? row == some run) =
      if low.toInt ≤ run ∧ run ≤ high.toInt then t.firstRow? run else none := by
  have htest (row : Row) :
      decide (((t.run? row).any fun other => low.toInt ≤ other && other ≤ high.toInt) = true ∧
        (t.run? row == some run) = true) =
      (decide (low.toInt ≤ run ∧ run ≤ high.toInt) && t.run? row == some run) := by
    by_cases hrun : t.run? row = some run
    · simp [hrun]
    · have hne : (t.run? row == some run) = false := by simpa using hrun
      simp [hne]
  rw [RunTable.between, List.find?_filter, RunTable.firstRow?]
  simp only [htest]
  split
  · rename_i hbounds
    simp [hbounds]
  · rename_i hbounds
    simp [hbounds]

/-- An answer adds the runs between its bounds and takes away none. -/
theorem addAnswer_between {known : KnownRuns} (hknown : Agrees h t known) (low high : Int64) :
    ∃ found, h.addAnswer known (t.between low high) = .ok found ∧
      Learned h t known (fun run => low.toInt ≤ run ∧ run ≤ high.toInt) found := by
  let found := (t.between low high).rows.foldl
    (h.addRow t.columns (t.columns.idxOf h.runColumn)) known
  have hkey : t.columns.findIdx? (· == h.runColumn) = some (t.columns.idxOf h.runColumn) :=
    List.findIdx?_eq_some_of_exists ⟨_, t.mem_columns, beq_self_eq_true _⟩
  have hanswer : h.addAnswer known (t.between low high) = .ok found := by
    rw [addAnswer, show (t.between low high).columns = t.columns from rfl, hkey]
  have hfound (run : Int) : found.get? run = (known.get? run).or
      ((if low.toInt ≤ run ∧ run ≤ high.toInt then t.firstRow? run else none).map
        (h.tableFields t)) := by
    rw [← find?_between]
    exact get?_foldl_addRow (fun row hrow => (List.mem_filter.mp hrow).1) known run
  refine ⟨found, hanswer, fun run fields hfields => ?_, fun run fields hfields => ?_,
    fun run hbounds => ?_⟩
  · rw [hfound] at hfields
    cases hrun : known.get? run with
    | some others =>
        rw [hrun, Option.some_or] at hfields
        rw [← hfields]
        exact hknown run others hrun
    | none =>
        rw [hrun, Option.none_or] at hfields
        split at hfields
        · exact hfields
        · cases hfields
  · rw [hfound, hfields, Option.some_or]
  · rw [hfound, if_pos hbounds]
    cases hrun : known.get? run with
    | some fields => rw [hknown run fields hrun, Option.some_or]
    | none => rw [Option.none_or]

variable {σ : Type} {stores : Stores σ}

def rangeStatement (h : RunHistory) (low high : Int64) : Sql.Statement :=
  .rowsBetween h.table h.runColumn low high

/-- The history is a fixed table: whatever was said before, each range of runs is answered from
it. -/
def AnswersFrom (h : RunHistory) (t : RunTable h.runColumn) (stores : Stores σ) : Prop :=
  ∀ state low high,
    (stores.execute state .history (h.rangeStatement low high)).1 = .ok (t.between low high)

/-- One state may be followed by the other when runs are looked up. -/
def MayFollow (h : RunHistory) (stores : Stores σ) (state after : σ) : Prop :=
  after = state ∨
    ∃ low high, after = (stores.execute state .history (h.rangeStatement low high)).2

theorem toInt_ofInt_of_fits {n : Int} (hn : fitsInt64 n = true) : (Int64.ofInt n).toInt = n := by
  rw [fitsInt64_iff, minInt64, maxInt64] at hn
  exact Int64.toInt_ofInt_of_le (by omega) (by omega)

theorem fits_of_runNumber? {metadata : Metadata} {run : Int}
    (h : runNumber? metadata = some run) : fitsInt64 run = true := by
  rw [runNumber?] at h
  split at h
  · split at h
    · rename_i hfits
      rw [← Option.some_inj.mp h]
      exact hfits
    · cases h
  · cases h

/-- A look-up finds what the table has of some runs, and what was known stays known. -/
theorem play_lookUp_runs (hanswers : AnswersFrom h t stores) {known : KnownRuns}
    (hknown : Agrees h t known) {runs : List Int} (hruns : ∀ run ∈ runs, fitsInt64 run = true)
    (state : σ) :
    ∃ found, Learned h t known (· ∈ runs) found ∧
      ((h.lookUp known runs).play stores state).trace.items = [] ∧
      ((h.lookUp known runs).play stores state).result = .ok found ∧
      h.MayFollow stores state ((h.lookUp known runs).play stores state).state := by
  rw [lookUp]
  cases hlow : runs.min? with
  | none =>
      have hnone : runs = [] := List.min?_eq_none_iff.mp hlow
      subst hnone
      exact ⟨known, ⟨hknown, fun _ _ => id, fun _ hrun => (List.not_mem_nil hrun).elim⟩, rfl, rfl,
        .inl rfl⟩
  | some low =>
      cases hhigh : runs.max? with
      | none =>
          have hnone : runs = [] := List.max?_eq_none_iff.mp hhigh
          subst hnone
          cases hlow
      | some high =>
          obtain ⟨hlowMem, hleast⟩ := List.min?_eq_some_iff.mp hlow
          obtain ⟨hhighMem, hgreatest⟩ := List.max?_eq_some_iff.mp hhigh
          obtain ⟨found, hanswer, hlearned⟩ :=
            addAnswer_between hknown (.ofInt low) (.ofInt high)
          rw [toInt_ofInt_of_fits (hruns low hlowMem),
            toInt_ofInt_of_fits (hruns high hhighMem)] at hlearned
          have hexecute := hanswers state (.ofInt low) (.ofInt high)
          rw [rangeStatement] at hexecute
          refine ⟨found, ⟨hlearned.agrees, hlearned.kept, fun run hrun =>
            hlearned.found run ⟨hleast run hrun, hgreatest run hrun⟩⟩, rfl, ?_,
            .inr ⟨.ofInt low, .ofInt high, rfl⟩⟩
          simp only [Flow.play, hexecute]
          exact hanswer

/-- What is known of the run of a record is all that counts for it. -/
theorem annotate_eq {known : KnownRuns} {record : Record}
    (hknown : ∀ run, runNumber? record.metadata = some run →
      known.get? run = (t.firstRow? run).map (h.tableFields t)) :
    annotate known record = h.withRun t record := by
  rw [annotate, withRun]
  cases hrun : runNumber? record.metadata with
  | none => rfl
  | some run =>
      rw [Option.bind_some, Option.bind_some, hknown run hrun]
      cases hrow : t.firstRow? run with
      | none => rfl
      | some row =>
          rw [Option.map_some]
          simp only [foldl_tableFields]

/-- Annotates the records of a batch with what is known and what it asks for. -/
def annotateBatch (h : RunHistory) (known : KnownRuns) (batch : List Record) :
    Flow StreamItem (Verdict KnownRuns Unit) :=
  let missing := (batch.filterMap fun record => runNumber? record.metadata).filter
    fun run => (known.get? run).isNone
  (h.lookUp known missing).bind fun found =>
    match found with
    | .error f => .yield (.error f) (.finish (.stop ()))
    | .ok known =>
      (Flow.ofList (batch.map fun record => .ok (annotate known record))).bind fun _ =>
        .finish (.next known)

theorem play_annotateBatch (hanswers : AnswersFrom h t stores) {known : KnownRuns}
    (hknown : Agrees h t known) (batch : List Record) (state : σ) :
    ∃ after, Agrees h t after ∧
      ((h.annotateBatch known batch).play stores state).trace.items =
        (batch.map (h.withRun t)).map .ok ∧
      ((h.annotateBatch known batch).play stores state).result = .next after ∧
      h.MayFollow stores state ((h.annotateBatch known batch).play stores state).state := by
  let missing := (batch.filterMap fun record => runNumber? record.metadata).filter
    fun run => (known.get? run).isNone
  have hmissing : ∀ run ∈ missing, fitsInt64 run = true := by
    intro run hrun
    obtain ⟨record, -, hrecord⟩ := List.mem_filterMap.mp (List.mem_filter.mp hrun).1
    exact fits_of_runNumber? hrecord
  obtain ⟨found, hlearned, hitems, hresult, hstate⟩ :=
    play_lookUp_runs hanswers hknown hmissing state
  have hannotate : ∀ record ∈ batch, annotate found record = h.withRun t record := by
    intro record hrecord
    apply annotate_eq
    intro run hrun
    cases hbefore : known.get? run with
    | some fields => rw [hlearned.kept run fields hbefore, hknown run fields hbefore]
    | none =>
        apply hlearned.found
        refine List.mem_filter.mpr ⟨List.mem_filterMap.mpr ⟨record, hrecord, hrun⟩, ?_⟩
        rw [hbefore, Option.isNone_none]
  refine ⟨found, hlearned.agrees, ?_⟩
  rw [annotateBatch, Flow.play_bind_of_result hresult]
  simp only [Flow.play_bind, Flow.play_ofList, Flow.play, Trace.items_append, hitems,
    Trace.items_map_inr, List.append_nil, List.nil_append]
  refine ⟨?_, trivial, hstate⟩
  rw [List.map_map]
  apply List.map_congr_left
  exact fun record hrecord => congrArg Except.ok (hannotate record hrecord)

/-- Annotates the records of a stream that come after those of an unfinished batch, latest
first. -/
def annotateFrom (h : RunHistory) (known : KnownRuns) (pending : List Record)
    (s : RecordStream) : RecordStream :=
  (Flow.chunksFrom lookupSize pending s).consume
    (fun known batch =>
      match batch with
      | .error f => .yield (.error f) (.finish (.stop ()))
      | .ok batch => h.annotateBatch known batch)
    (fun _ _ => .finish ())
    known

theorem annotateFrom_small (known : KnownRuns) {pending : List Record} {record : Record}
    (hsmall : ¬lookupSize ≤ (record :: pending).length) (rest : RecordStream) :
    h.annotateFrom known pending (.yield (.ok record) rest) =
      h.annotateFrom known (record :: pending) rest := by
  rw [annotateFrom, Flow.chunksFrom_small hsmall]
  rfl

/-- Neither what is known nor the batches make a difference. -/
theorem items_annotateFrom (hanswers : AnswersFrom h t stores) {state : σ} {s : RecordStream}
    {records : List Record} (hs : s.Supplies (h.MayFollow stores) stores state records)
    {known : KnownRuns} (hknown : Agrees h t known) (pending : List Record) :
    ((h.annotateFrom known pending s).play stores state).trace.items =
      ((pending.reverse ++ records).map (h.withRun t)).map .ok := by
  induction hs generalizing known pending with
  | finish state =>
      cases pending with
      | nil => rfl
      | cons record pending =>
          obtain ⟨after, -, hitems, hresult, -⟩ :=
            play_annotateBatch hanswers hknown (record :: pending).reverse state
          rw [annotateFrom, Flow.consume_chunksFrom_finish _ _ _ (List.cons_ne_nil _ _),
            Flow.play_bind_of_result hresult]
          simp only [Flow.play, List.append_nil, hitems]
  | @yield state record rest records hrest ih =>
      by_cases hfull : lookupSize ≤ (record :: pending).length
      · obtain ⟨after, hafter, hitems, hresult, hstate⟩ :=
          play_annotateBatch hanswers hknown (record :: pending).reverse state
        have hothers := ih _ hstate hafter []
        rw [annotateFrom] at hothers
        rw [annotateFrom, Flow.consume_chunksFrom_full _ _ _ hfull,
          Flow.play_bind_of_result hresult]
        simp only [Trace.items_append, hitems, hothers]
        simp
      · rw [annotateFrom_small known hfull, ih state (.inl rfl) hknown]
        simp
  | execute store statement _ ih => exact ih hknown pending
  | openCursor statement _ ih => exact ih hknown pending
  | advance cursor _ ih => exact ih hknown pending

/-- Values that are written under different keys are all there, and nothing else has changed. -/
theorem get?_foldl_insert {entries : List (String × Json)} (hkeys : (entries.map Prod.fst).Nodup)
    (metadata : Metadata) :
    (∀ entry ∈ entries, Assoc.get? entry.1
      (entries.foldl (fun m (key, value) => Assoc.insert key value m) metadata) = some entry.2) ∧
    ∀ key, key ∉ entries.map Prod.fst → Assoc.get? key
      (entries.foldl (fun m (key, value) => Assoc.insert key value m) metadata) =
        Assoc.get? key metadata := by
  induction entries generalizing metadata with
  | nil => exact ⟨nofun, fun _ _ => rfl⟩
  | cons first rest ih =>
      obtain ⟨hfirst, hrest⟩ := List.nodup_cons.mp hkeys
      obtain ⟨hwritten, hkept⟩ := ih hrest (Assoc.insert first.1 first.2 metadata)
      refine ⟨List.forall_mem_cons.mpr ⟨?_, hwritten⟩, fun key hkey => ?_⟩
      · exact (hkept first.1 hfirst).trans (Assoc.get?_insert_self _ _ _)
      · rw [List.map_cons, List.mem_cons, not_or] at hkey
        exact (hkept key hkey.2).trans (Assoc.get?_insert_of_ne hkey.1 _ _)

theorem fieldName_inj {space column other : String}
    (heq : space ++ "." ++ column = space ++ "." ++ other) : column = other := by
  have hlists := congrArg String.toList heq
  simp only [String.toList_append] at hlists
  exact String.toList_inj.mp (List.append_cancel_left hlists)

/-- Each column of a row has a field of its own. -/
theorem nodup_keys_tableFields {row : Row} (hrow : row ∈ t.rows) :
    ((h.tableFields t row).map Prod.fst).Nodup := by
  have hcolumns : ((t.otherCells row).map Prod.fst).Nodup := by
    refine List.Nodup.sublist (List.Sublist.map _ List.filter_sublist) ?_
    rw [List.map_fst_zip (Nat.le_of_eq (t.length_row row hrow).symm)]
    exact t.columns_nodup
  have hkeys : (h.tableFields t row).map Prod.fst =
      ((t.otherCells row).map Prod.fst).map fun column => h.space ++ "." ++ column := by
    rw [tableFields, List.map_map, List.map_map]
    rfl
  rw [hkeys]
  exact List.Pairwise.map _ (fun _ _ hne heq => hne (fieldName_inj heq)) hcolumns

/-- Each cell of a row but the run is found under the name of its column, and the other fields
are as before. -/
structure Written (h : RunHistory) (t : RunTable h.runColumn) (row : Row)
    (before after : Metadata) : Prop where
  written : ∀ column ∈ t.columns, column ≠ h.runColumn →
    ∃ cell, row[t.columns.idxOf column]? = some cell ∧
      Assoc.get? (h.space ++ "." ++ column) after = some cell.toJson
  kept : ∀ key, (∀ column ∈ t.columns, column ≠ h.runColumn → key ≠ h.space ++ "." ++ column) →
    Assoc.get? key after = Assoc.get? key before

theorem written_describe {row : Row} (hrow : row ∈ t.rows) (metadata : Metadata) :
    h.Written t row metadata (h.describe t row metadata) := by
  obtain ⟨hwritten, hkept⟩ := get?_foldl_insert (nodup_keys_tableFields hrow) metadata
  rw [foldl_tableFields] at hwritten hkept
  refine ⟨fun column hcolumn hne => ?_, fun key hkey => hkept key fun hmem => ?_⟩
  · have hidx := List.idxOf_lt_length_of_mem hcolumn
    have hidx' : t.columns.idxOf column < row.length := by rwa [t.length_row row hrow]
    have hzip : (column, row[t.columns.idxOf column]) ∈ t.columns.zip row := by
      refine List.mem_iff_getElem.mpr ⟨t.columns.idxOf column, ?_, ?_⟩
      · rw [List.length_zip]
        exact Nat.lt_min.mpr ⟨hidx, hidx'⟩
      · rw [List.getElem_zip, List.getElem_idxOf]
    refine ⟨_, List.getElem?_eq_getElem hidx', ?_⟩
    refine hwritten (_, _) (List.mem_map.mpr ⟨_, List.mem_filter.mpr ⟨hzip, ?_⟩, rfl⟩)
    simpa using hne
  · obtain ⟨_, hfield, rfl⟩ := List.mem_map.mp hmem
    obtain ⟨⟨column, cell⟩, hcell, rfl⟩ := List.mem_map.mp hfield
    obtain ⟨hzip, hne⟩ := List.mem_filter.mp hcell
    exact hkey column (List.of_mem_zip hzip).1 (by simpa using hne) rfl

/-- The filter passes on its input in order, each record with the first row of its run. -/
theorem items_filter (hanswers : AnswersFrom h t stores) {input : FileSet} {state : σ}
    {records : List Record}
    (hinput : input.stream.Supplies (h.MayFollow stores) stores state records) (args : Arguments) :
    ∃ s : RecordStream, h.filter [input] args = .finish (.ok s) ∧
      (s.play stores state).trace.items = (records.map (h.withRun t)).map .ok ∧
      ∀ row ∈ t.rows, ∀ metadata, h.Written t row metadata (h.describe t row metadata) :=
  ⟨_, rfl, items_annotateFrom hanswers hinput agrees_empty [],
    fun _ hrow metadata => written_describe hrow metadata⟩

end RunHistory

/-- A table in which one run has two rows and one row has no run. -/
def beamTable : RunTable "run" where
  columns := ["run", "beam"]
  rows := [[.integer 8, .text "on"], [.null, .text "off"], [.integer 7, .null],
    [.integer 8, .text "off"]]
  columns_nodup := by decide
  mem_columns := by decide
  length_row := by decide
  run_cell := by
    intro row hrow
    simp only [List.mem_cons, List.not_mem_nil, or_false] at hrow
    rcases hrow with rfl | rfl | rfl | rfl
    · exact .inr ⟨8, rfl⟩
    · exact .inl rfl
    · exact .inr ⟨7, rfl⟩
    · exact .inr ⟨8, rfl⟩

/-- Stores that answer from the table and count how often they have done so. -/
def beamStores : Stores Nat where
  execute count _ statement :=
    match statement with
    | .rowsBetween _ _ low high => (.ok (beamTable.between low high), count + 1)
    | _ => (.ok {}, count)
  openCursor count _ := (.ok ⟨0, []⟩, count)

def beamHistory : RunHistory := ⟨"run_history", "run", "beams"⟩

def runRecord (id : String) (run : Int) : Record :=
  { id, space := "test", name := id,
    metadata := [("core.runs", .array [.int run, .int 9])] }

def beamRecords : List Record :=
  [runRecord "a" 8, { id := "b", space := "test", name := "b" }, runRecord "c" 7,
    runRecord "d" 8, runRecord "e" 9]

theorem items_filter_beams :
    beamHistory.AnswersFrom beamTable beamStores ∧
      (FileSet.ofRecords .sqlite beamRecords).stream.Supplies
        (beamHistory.MayFollow beamStores) beamStores 0 beamRecords ∧
      ∃ s : RecordStream,
        beamHistory.filter [.ofRecords .sqlite beamRecords] {} = .finish (.ok s) ∧
        (s.play beamStores 0).trace.items.map (Except.map Record.metadata) =
          [.ok [("beams.beam", .string "on"), ("core.runs", .array [.int 8, .int 9])],
            .ok [],
            .ok [("beams.beam", .null), ("core.runs", .array [.int 7, .int 9])],
            .ok [("beams.beam", .string "on"), ("core.runs", .array [.int 8, .int 9])],
            .ok [("core.runs", .array [.int 9, .int 9])]] := by
  have hanswers : beamHistory.AnswersFrom beamTable beamStores := fun _ _ _ => rfl
  have hinput : (FileSet.ofRecords .sqlite beamRecords).stream.Supplies
      (beamHistory.MayFollow beamStores) beamStores 0 beamRecords :=
    RecordStream.supplies_ofList 0 beamRecords
  obtain ⟨s, hfilter, hitems, -⟩ := RunHistory.items_filter hanswers hinput {}
  refine ⟨hanswers, hinput, s, hfilter, ?_⟩
  rw [hitems]
  rfl

end CatalogQuery
