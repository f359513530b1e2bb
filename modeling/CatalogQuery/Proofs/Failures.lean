/-
Failures of streams and of sets of files.  A rule says something of each failure, and may speak
of what was exchanged with the stores until then.  Every operation passes the failures of its
operands on and adds its own for calls of the store that fail and rows that are no records; so
it keeps to a rule that its operands keep to and that covers these two.
-/
import CatalogQuery.Engine.Run
import CatalogQuery.Proofs.Result
import CatalogQuery.Proofs.Trace

namespace CatalogQuery

open Sql (ColumnSet Direction Fragment SetOperation)

structure FailureRule where
  Holds : List Exchange → Failure → Prop
  lasting : Flow.Lasting Holds

/-- The rule that says nothing. -/
def FailureRule.trivial : FailureRule where
  Holds _ _ := True
  lasting _ _ _ _ := id

/-- What may be a failure is one that the rule holds of. -/
abbrev FailureRule.Admits (rule : FailureRule) {α : Type} (log : List Exchange)
    (x : Except Failure α) : Prop :=
  FailsOnly (rule.Holds log) x

/-- The exchange is a call of the catalog for a statement, and it failed: at once, or at one of
the rows. -/
inductive Exchange.Fails (statement : Sql.Statement) (cause : Failure) : Exchange → Prop
  | executed : Fails statement cause (.executed .catalog statement (.error cause))
  | opened : Fails statement cause (.opened statement (.error cause))
  | row {cursor : Cursor} (hrow : .error cause ∈ cursor.rows) :
    Fails statement cause (.opened statement (.ok cursor))

/-- The rule holds of the failures that are made of failing calls for a query. -/
def FailureRule.CoversCalls (rule : FailureRule) (debug : Bool) (query : Sql.Query) : Prop :=
  ∀ (log : List Exchange) (x : Exchange) (cause : Failure) (context : String), x ∈ log →
    x.Fails (.query query) cause → rule.Holds log (cause.atStep context debug query)

/-- The rule holds of the failures that are made of failing calls and of rows. -/
structure FailureRule.Covers (rule : FailureRule) (debug : Bool) : Prop where
  invalidRow : ∀ log context fault, rule.Holds log (.invalidRow context fault)
  calls : ∀ query, rule.CoversCalls debug query

variable {rule : FailureRule} {debug : Bool} {log : List Exchange}

theorem FailureRule.lasting_admits (rule : FailureRule) {α : Type} :
    Flow.Lasting (rule.Admits (α := α)) :=
  fun _ _ _ hmore h => h.mono fun failure => rule.lasting _ _ failure hmore

/-- A row that is read for the sake of a step. -/
theorem FailureRule.Covers.admits_row {α : Type} (hrule : rule.Covers debug) (context : String)
    (x : Except RowFault α) : rule.Admits log (x.mapError (.invalidRow context)) := by
  cases x with
  | error fault => exact .error (hrule.invalidRow log context fault)
  | ok a => exact .ok a

/-- A statement that is run for the sake of a step. -/
theorem FailureRule.CoversCalls.always_rows {α : Type} {p : List Exchange → α → Prop}
    {query : Sql.Query} (hquery : rule.CoversCalls debug query) (context : String)
    (log : List Exchange) : (query.rows context debug).Always p rule.Admits log := by
  intro answer
  cases answer with
  | error cause => exact .error (hquery _ _ cause context List.mem_concat_self .executed)
  | ok answer => exact .ok answer.rows

namespace RecordStream

/-- Whatever the stores answer, each failure keeps to the rule. -/
def Keeps (rule : FailureRule) (s : RecordStream) : Prop :=
  ∀ log, s.Always rule.Admits (fun _ _ => True) log

variable {s left right first : RecordStream} {streams : List RecordStream}

theorem keeps_trivial (s : RecordStream) : s.Keeps .trivial :=
  fun _ => Flow.always_of_forall (fun _ _ _ _ => True.intro) (fun _ _ => True.intro) s

theorem always_fail {f : Failure} (h : rule.Holds log f) :
    (fail f).Always rule.Admits (fun _ _ => True) log :=
  ⟨.error h, trivial⟩

theorem Keeps.filterItems {σ : Type} (h : s.Keeps rule) (keep : σ → StreamItem → Bool × σ)
    (state : σ) : Keeps rule (s.filterItems keep state) :=
  fun log => Flow.always_filterItems keep state (h log)

theorem keeps_concat (h : ∀ s ∈ streams, Keeps rule s) : (concat streams).Keeps rule := by
  induction streams with
  | nil => exact fun _ => trivial
  | cons s rest ih =>
      obtain ⟨hs, hrest⟩ := List.forall_mem_cons.mp h
      intro log
      exact Flow.always_bind (hs log) fun more _ _ _ => ih hrest more

theorem keeps_union (h : ∀ s ∈ streams, Keeps rule s) : (union streams).Keeps rule :=
  (keeps_concat h).filterItems _ _

/-- Reading identifiers yields nothing and fails as the stream does. -/
theorem Keeps.collectIds (h : s.Keeps rule) (log : List Exchange) :
    (collectIds s).Always (fun _ _ => False) rule.Admits log := by
  apply Flow.always_consume rule.lasting_admits (fun _ _ _ _ => id) (h log)
  · intro log ids item hitem
    rcases item with f | record
    · rintro result ⟨⟩
      exact .error (hitem f rfl)
    · rintro result ⟨⟩
  · exact fun _ ids _ _ => .ok ids

theorem always_collectCommon (h : ∀ s ∈ streams, Keeps rule s) (ids : IdSet)
    (log : List Exchange) :
    (collectCommon ids streams).Always (fun _ _ => False) rule.Admits log := by
  induction streams generalizing ids log with
  | nil => exact .ok ids
  | cons s rest ih =>
      obtain ⟨hs, hrest⟩ := List.forall_mem_cons.mp h
      apply Flow.always_bind (hs.collectIds log)
      intro more found _ hfound
      rcases found with f | others
      · exact .error (hfound f rfl)
      · exact ih hrest _ more

/-- What is read first yields nothing, and its failure stands for the whole. -/
theorem always_bind_silent {α : Type} {flow : Flow StreamItem (Except Failure α)}
    (hflow : flow.Always (fun _ _ => False) rule.Admits log)
    {f : Except Failure α → RecordStream} (herror : ∀ failure, f (.error failure) = fail failure)
    (hok : ∀ a more, (f (.ok a)).Always rule.Admits (fun _ _ => True) more) :
    (flow.bind f).Always rule.Admits (fun _ _ => True) log := by
  apply Flow.always_bind (hflow.mono (fun _ _ => False.elim) fun _ _ => id)
  intro more found _ hfound
  rcases found with failure | a
  · rw [herror]
    exact always_fail (hfound failure rfl)
  · exact hok a more

theorem Keeps.intersect (hleft : left.Keeps rule) (hfirst : first.Keeps rule)
    (hrest : ∀ s ∈ streams, Keeps rule s) : (intersect left first streams).Keeps rule := by
  intro log
  apply always_bind_silent (hfirst.collectIds log) (fun _ => rfl)
  intro ids more
  apply always_bind_silent (always_collectCommon hrest ids more) (fun _ => rfl)
  exact fun common => (hleft.filterItems _ _).filterItems _ _

theorem Keeps.difference (hleft : left.Keeps rule) (hright : right.Keeps rule) :
    (difference left right).Keeps rule := by
  intro log
  apply always_bind_silent (hright.collectIds log) (fun _ => rfl)
  exact fun ids => (hleft.filterItems _ _).filterItems _ _

theorem always_ofCursor {convert : Except Failure Row → StreamItem} {cursor : Nat}
    {rows : List (Except Failure Row)}
    (h : ∀ row ∈ rows, ∀ more, log ⊆ more → rule.Admits more (convert row)) :
    (ofCursor convert cursor rows).Always rule.Admits (fun _ _ => True) log := by
  induction rows generalizing log with
  | nil => trivial
  | cons row rest ih =>
      obtain ⟨hrow, hrest⟩ := List.forall_mem_cons.mp h
      have hsubset : log ⊆ log ++ [.advanced cursor] := List.subset_append_left _ _
      refine ⟨hrow _ hsubset, ih fun other hother more hmore => ?_⟩
      exact hrest other hother more (List.Subset.trans hsubset hmore)

theorem keeps_ofQuery (hrule : rule.Covers debug) (query : Sql.Query) (context : String) :
    (ofQuery query context debug).Keeps rule := by
  intro log answer
  cases answer with
  | error cause =>
      exact always_fail (hrule.calls query _ _ cause context List.mem_concat_self .opened)
  | ok cursor =>
      apply always_ofCursor
      intro row hrow more hmore
      cases row with
      | error cause =>
          have hmem := hmore List.mem_concat_self
          exact .error (hrule.calls query more _ cause context hmem (.row hrow))
      | ok row => exact hrule.admits_row context (Record.ofCells row)

theorem always_lookUp (hrule : rule.Covers debug) (direction : Direction) (columns : ColumnSet)
    (seen : IdSet) (ids : List String) (log : List Exchange) :
    (lookUp direction columns debug seen ids).Always rule.Admits (fun _ _ => True) log := by
  apply Flow.always_bind ((hrule.calls _).always_rows direction.name log)
  intro more answer _ hanswer
  have hrecords : rule.Admits more
      (answer.bind fun rows => rows.mapM (Record.ofRow direction.name)) :=
    hanswer.bind (.mapM fun row => hrule.admits_row direction.name (Record.ofCells row))
  dsimp only
  split
  · rename_i f hf
    exact ⟨.error (hrecords f hf), trivial⟩
  · apply Flow.always_bind (q := fun _ _ => True) (Flow.always_ofList ?_ trivial)
    · exact fun _ _ _ _ => trivial
    · intro item hitem
      obtain ⟨record, -, rfl⟩ := List.mem_map.mp hitem
      exact .ok record

theorem Keeps.expand (h : s.Keeps rule) (hrule : rule.Covers debug) (direction : Direction)
    (columns : ColumnSet) : (s.expand direction columns debug).Keeps rule := by
  intro log
  apply Flow.always_consume rule.lasting_admits (fun _ _ _ _ => id) (h log)
  · rintro log ⟨ids, seen⟩ item hitem
    rcases item with f | record
    · exact ⟨hitem, fun _ _ => trivial⟩
    · dsimp only
      split
      · exact (always_lookUp hrule direction columns seen _ log).mono (fun _ _ => id)
          fun _ _ _ _ _ => trivial
      · exact fun _ _ => trivial
  · rintro log ⟨ids, seen⟩ _ -
    dsimp only
    split
    · trivial
    · exact Flow.always_bind (always_lookUp hrule direction columns seen _ log)
        fun _ _ _ _ => trivial

/-- A batch fails as the stream does. -/
theorem Keeps.chunks (h : s.Keeps rule) (size : Nat) (log : List Exchange) :
    (Flow.chunks size s).Always rule.Admits (fun _ _ => True) log := by
  apply Flow.always_consume rule.lasting_admits (fun _ _ _ _ => id) (h log)
  · intro log batch item hitem
    rcases item with f | record
    · exact ⟨.error (hitem f rfl), fun _ _ => trivial⟩
    · dsimp only
      split
      · exact ⟨.ok _, fun _ _ => trivial⟩
      · exact fun _ _ => trivial
  · intro log batch _ _
    split
    · trivial
    · exact ⟨.ok _, trivial⟩

theorem Keeps.mapItems (h : s.Keeps rule) (f : Record → Record) :
    Keeps rule (s.mapItems fun item => item.map f) :=
  fun log => Flow.always_mapItems (h log) fun _ _ hitem => hitem.map f

end RecordStream

namespace FileSet

/-- The set shows statements if it should, and each failure among its records keeps to the
rule. -/
structure Keeps (rule : FailureRule) (debug : Bool) (s : FileSet) : Prop where
  debug_eq : s.debug = debug
  stream : s.stream.Keeps rule

variable {s other : FileSet} {others : List FileSet}

theorem keeps_ofQuery (hrule : rule.Covers debug) (dialect : Sql.Dialect) (fragment : Fragment)
    (context : String) : (ofQuery dialect fragment context debug).Keeps rule debug :=
  ⟨rfl, RecordStream.keeps_ofQuery hrule fragment.query context⟩

theorem Keeps.streams (h : ∀ other ∈ others, other.Keeps rule debug) :
    ∀ records ∈ others.map FileSet.stream, records.Keeps rule := by
  intro records hrecords
  obtain ⟨other, hother, rfl⟩ := List.mem_map.mp hrecords
  exact (h other hother).stream

theorem Keeps.combined (hrule : rule.Covers debug) (hs : s.Keeps rule debug)
    (hothers : ∀ other ∈ others, other.Keeps rule debug) {records : RecordStream}
    (hrecords : records.Keeps rule) (op : SetOperation) (context : String) :
    (combined op context s others records).Keeps rule debug := by
  have hdebug : (s.debug || others.any FileSet.debug) = debug := by
    cases debug with
    | true => rw [hs.debug_eq, Bool.true_or]
    | false =>
        rw [hs.debug_eq, Bool.false_or, List.any_eq_false]
        exact fun other hother => by simp [(hothers other hother).debug_eq]
  unfold FileSet.combined
  rw [hdebug]
  split
  · exact keeps_ofQuery hrule s.dialect _ context
  · exact ⟨rfl, hrecords⟩

theorem Keeps.union (hrule : rule.Covers debug) (hs : s.Keeps rule debug)
    (hothers : ∀ other ∈ others, other.Keeps rule debug) : (s.union others).Keeps rule debug := by
  cases others with
  | nil => exact hs
  | cons first rest =>
      apply hs.combined hrule hothers
      exact RecordStream.keeps_union (List.forall_mem_cons.mpr ⟨hs.stream, Keeps.streams hothers⟩)

theorem Keeps.intersect (hrule : rule.Covers debug) (hs : s.Keeps rule debug)
    (hothers : ∀ other ∈ others, other.Keeps rule debug) :
    (s.intersect others).Keeps rule debug := by
  cases others with
  | nil => exact hs
  | cons first rest =>
      obtain ⟨hfirst, hrest⟩ := List.forall_mem_cons.mp hothers
      apply hs.combined hrule hothers
      exact hs.stream.intersect hfirst.stream (Keeps.streams hrest)

theorem Keeps.difference (hrule : rule.Covers debug) (hs : s.Keeps rule debug)
    (hother : other.Keeps rule debug) : (s.difference other).Keeps rule debug :=
  hs.combined hrule (List.forall_mem_singleton.mpr hother) (hs.stream.difference hother.stream)
    .except "minus"

theorem Keeps.foldl_difference (hrule : rule.Covers debug) (hs : s.Keeps rule debug)
    (hothers : ∀ other ∈ others, other.Keeps rule debug) :
    (others.foldl FileSet.difference s).Keeps rule debug := by
  induction others generalizing s with
  | nil => exact hs
  | cons first rest ih =>
      obtain ⟨hfirst, hrest⟩ := List.forall_mem_cons.mp hothers
      exact ih (hs.difference hrule hfirst) hrest

theorem Keeps.step (hrule : rule.Covers debug) (hs : s.Keeps rule debug) (direction : Direction)
    (columns : ColumnSet) : (s.step direction columns).Keeps rule debug := by
  obtain ⟨rfl, hstream⟩ := hs
  obtain ⟨dialect, debug, source⟩ := s
  cases source with
  | query fragment context => exact keeps_ofQuery hrule dialect _ _
  | stream records => exact ⟨rfl, hstream.expand hrule direction columns⟩

theorem Keeps.limit (hrule : rule.Covers debug) (hs : s.Keeps rule debug) (count : UInt64) :
    (s.limit count).Keeps rule debug := by
  obtain ⟨rfl, hstream⟩ := hs
  obtain ⟨dialect, debug, source⟩ := s
  cases source with
  | query fragment context => exact keeps_ofQuery hrule dialect _ _
  | stream records =>
      exact ⟨rfl, fun log => Flow.always_take (fun _ => trivial) count.toNat (hstream log)⟩

theorem Keeps.skip (hrule : rule.Covers debug) (hs : s.Keeps rule debug) (count : UInt64) :
    (s.skip count).Keeps rule debug := by
  obtain ⟨rfl, hstream⟩ := hs
  obtain ⟨dialect, debug, source⟩ := s
  cases source with
  | query fragment context => exact keeps_ofQuery hrule dialect _ _
  | stream records => exact ⟨rfl, fun log => Flow.always_drop count.toNat (hstream log)⟩

theorem Keeps.filterMetadata (hrule : rule.Covers debug) (hs : s.Keeps rule debug)
    {p : Predicate} (hother : s.filterMetadata p = .ok other) : other.Keeps rule debug := by
  obtain ⟨rfl, hstream⟩ := hs
  obtain ⟨dialect, debug, source⟩ := s
  cases source with
  | query fragment context =>
      obtain ⟨form, -, hother⟩ := bind_eq_ok_iff.mp hother
      split at hother
      · cases hother
        exact ⟨rfl, hstream⟩
      · obtain ⟨condition, -, hother⟩ := bind_eq_ok_iff.mp hother
        cases hother
        exact keeps_ofQuery hrule dialect _ _
  | stream records =>
      obtain ⟨form, -, hother⟩ := bind_eq_ok_iff.mp hother
      cases hother
      exact ⟨rfl, hstream.filterItems _ _⟩

/-- Leaving columns out changes no failure. -/
theorem keeps_stream_only (h : s.stream.Keeps rule) (columns : ColumnSet) :
    (s.only columns).stream.Keeps rule :=
  h.mapItems (Record.only columns)

theorem always_countBatch (hsizes : ∀ ids, rule.CoversCalls debug (Sql.totalSize ids))
    (tally : Tally) (batch : List Record) (log : List Exchange) :
    (countBatch debug tally batch).Always (fun _ _ => False)
      (fun log verdict => ∀ result, verdict = .stop result → rule.Admits log result) log := by
  unfold countBatch
  dsimp only
  split
  · rintro result ⟨⟩
  · apply Flow.always_bind (q := rule.Admits)
    · apply Flow.always_bind ((hsizes _).always_rows "count" log)
      exact fun more answer _ hanswer => hanswer.map (naturalAt 0)
    · intro more answer _ hanswer
      rcases answer with f | size
      · rintro result ⟨⟩
        exact .error (hanswer f rfl)
      · rintro result ⟨⟩

/-- Counting fails as the records do, or as the statements that count or look up sizes. -/
theorem always_counts (hs : s.stream.Keeps rule)
    (hcounts : ∀ fragment, s.fragment? = some fragment →
      rule.CoversCalls s.debug fragment.counts)
    (hsizes : s.fragment? = none → ∀ ids, rule.CoversCalls s.debug (Sql.totalSize ids))
    (log : List Exchange) : s.counts.Always (fun _ _ => False) rule.Admits log := by
  obtain ⟨dialect, debug, source⟩ := s
  cases source with
  | query fragment context =>
      apply Flow.always_bind ((hcounts fragment rfl).always_rows "count" log)
      exact fun more answer _ hanswer => hanswer.map _
  | stream records =>
      apply Flow.always_consume rule.lasting_admits (fun _ _ _ _ => id) (hs.chunks lookupSize log)
      · intro log tally batch hbatch
        rcases batch with f | batch
        · rintro result ⟨⟩
          exact .error (hbatch f rfl)
        · exact always_countBatch (hsizes rfl) tally batch log
      · exact fun _ tally _ _ => .ok _

theorem always_metadataKeys (hs : s.stream.Keeps rule)
    (hkeys : ∀ fragment, s.fragment? = some fragment →
      rule.CoversCalls s.debug (fragment.metadataKeys s.dialect))
    (log : List Exchange) : s.metadataKeys.Always (fun _ _ => False) rule.Admits log := by
  obtain ⟨dialect, debug, source⟩ := s
  cases source with
  | query fragment context =>
      apply Flow.always_bind ((hkeys fragment rfl).always_rows "keys" log)
      exact fun more answer _ hanswer => hanswer.map _
  | stream records =>
      apply Flow.always_consume rule.lasting_admits (fun _ _ _ _ => id) (hs log)
      · intro log keys item hitem
        rcases item with f | record
        · rintro result ⟨⟩
          exact .error (hitem f rfl)
        · rintro result ⟨⟩
      · exact fun _ keys _ _ => .ok _

end FileSet

end CatalogQuery
