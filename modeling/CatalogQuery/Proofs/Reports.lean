/-
The failures that an engine reports.  What is wrong with a tree is found while it is compiled;
everything else comes from a store, a row or a filter, and is met when records are pulled or a
statement is run.  A rule that covers these keeps to all that is reported, whatever the tree is
made of.  So each failure is one of the catalogue, whatever stores and filters raise, and none
that is found while compiling belongs to the execution.
-/
import CatalogQuery.Proofs.Calls
import CatalogQuery.Proofs.Failures

namespace CatalogQuery

open Sql (ColumnSet SetOperation)

variable {e : Engine} {o : Options} {node : Node} {rule : FailureRule} {log : List Exchange}
  {f : Failure}

theorem ErrorCode.mem_all (code : ErrorCode) : code ∈ ErrorCode.all := by
  cases code <;> simp [ErrorCode.all]

namespace Failure

theorem codeText_of_code? {code : ErrorCode} (h : f.code? = some code) :
    f.codeText = code.text := by
  cases f <;> cases h <;> rfl

theorem stage_of_code? {code : ErrorCode} (h : f.code? = some code) : f.stage = code.stage := by
  cases f <;> cases h <;> rfl

theorem isCatalogued_iff :
    f.isCatalogued = true ↔ ∃ code ∈ ErrorCode.all, f.codeText = code.text := by
  rw [isCatalogued, List.any_eq_true]
  exact exists_congr fun code => and_congr_right fun _ => by rw [beq_iff_eq, eq_comm]

theorem isCatalogued_of_code? {code : ErrorCode} (h : f.code? = some code) :
    f.isCatalogued = true :=
  isCatalogued_iff.mpr ⟨code, code.mem_all, codeText_of_code? h⟩

/-- The failure has a code of the catalogue, and one that is found without touching a store. -/
def IsStatic (f : Failure) : Prop :=
  ∃ code, f.code? = some code ∧ code.stage ≠ .execution

theorem IsLocal.isStatic (h : f.IsLocal) : f.IsStatic := by
  cases f with
  | queryTypeMismatch expected found => exact ⟨_, rfl, nofun⟩
  | unknownFilter name => exact ⟨_, rfl, nofun⟩
  | malformedPredicate subject fault => exact ⟨_, rfl, nofun⟩
  | predicateTooComplex => exact ⟨_, rfl, nofun⟩
  | invalidOperand subject fault => exact ⟨_, rfl, nofun⟩
  | missingNamespace subject => exact ⟨_, rfl, nofun⟩
  | _ => exact h.elim

end Failure

theorem isStatic_of_raises {c : Call} (h : c.Raises e o f) : f.IsStatic := by
  cases h with
  | own hown => exact hown.isLocal.isStatic
  | mismatch htype => exact ⟨_, rfl, nofun⟩
  | datasets hnode hdatasets => exact (failsLocally_compileDatasets _ f hdatasets).isStatic
  | stored hname hnode htype => exact ⟨_, rfl, nofun⟩
  | cycle hname hmem => exact ⟨_, rfl, nofun⟩
  | unresolved hname hresolve =>
      rcases eq_of_resolve_eq_error hresolve with rfl | rfl
      · exact ⟨_, rfl, nofun⟩
      · exact ⟨_, rfl, nofun⟩

/-- What a call fails with is found without touching a store. -/
theorem isStatic_of_compileCall {c : Call} (h : e.compileCall o c = .error f) : f.IsStatic := by
  induction c using (wellFounded_calls e o).induction with
  | _ c ih =>
      rcases failure_origin h with hraises | ⟨d, hstep, hd⟩
      · exact isStatic_of_raises hraises
      · exact ih d hstep hd

theorem isStatic_of_compileFiles {needs : ColumnSet} (h : e.compileFiles o node needs = .error f) :
    f.IsStatic :=
  isStatic_of_compileCall (c := .root needs node) h

/-- The rule fits an engine: it covers what is found while compiling, failing calls and rows,
and the look-ups of sizes, which show no statement; and each filter keeps to it whose inputs
do. -/
structure FailureRule.Fits (rule : FailureRule) (e : Engine) (o : Options) : Prop where
  static : ∀ log f, f.IsStatic → rule.Holds log f
  covers : rule.Covers o.debug
  sizes : ∀ ids, rule.CoversCalls false (Sql.totalSize ids)
  filters : ∀ name filter inputs args, e.filters.get? name = some filter →
    (∀ input ∈ inputs, FileSet.Keeps rule o.debug input) → (filter.run name inputs args).Keeps rule

/-- If it is a set of records, its failures keep to the rule. -/
def Compiled.Keeps (rule : FailureRule) (debug : Bool) : Compiled → Prop
  | .query _ => True
  | .records files => files.Keeps rule debug

section Compiled

variable {c first r : Compiled} {cs rest : List Compiled}

theorem Compiled.Keeps.files (hrule : rule.Covers o.debug) (h : c.Keeps rule o.debug)
    (context : String) : (c.files e o context).Keeps rule o.debug := by
  cases c with
  | query fragment => exact FileSet.keeps_ofQuery hrule e.dialect fragment context
  | records files => exact h

theorem Compiled.Keeps.allFiles (hrule : rule.Covers o.debug) (h : ∀ c ∈ cs, c.Keeps rule o.debug)
    (context : String) : ∀ s ∈ cs.map (Compiled.files e o context), s.Keeps rule o.debug := by
  intro s hs
  obtain ⟨c, hc, rfl⟩ := List.mem_map.mp hs
  exact (h c hc).files hrule context

theorem Compiled.Keeps.combine (hrule : rule.Covers o.debug) (hfirst : first.Keeps rule o.debug)
    (hrest : ∀ c ∈ rest, c.Keeps rule o.debug) (op : SetOperation) (needs : ColumnSet) :
    (e.combine o op needs first rest).Keeps rule o.debug := by
  unfold Engine.combine
  split
  · exact hfirst
  · split
    · trivial
    · have hfirst' := hfirst.files (e := e) hrule (Engine.operationName op)
      have hrest' := Compiled.Keeps.allFiles (e := e) hrule hrest (Engine.operationName op)
      cases op with
      | union => exact hfirst'.union hrule hrest'
      | intersect => exact hfirst'.intersect hrule hrest'
      | except => exact hfirst'.foldl_difference hrule hrest'

theorem keeps_combineAll (hrule : rule.Covers o.debug) (hcs : ∀ c ∈ cs, c.Keeps rule o.debug)
    {op : SetOperation} {needs : ColumnSet} {subject : String}
    (h : e.combineAll o op needs subject cs = .ok r) : r.Keeps rule o.debug := by
  rcases cs with _ | ⟨first, rest⟩
  · cases h
  · cases h
    obtain ⟨hfirst, hrest⟩ := List.forall_mem_cons.mp hcs
    exact hfirst.combine hrule hrest op needs

/-- What is done with a single operand. -/
theorem keeps_onlyOne (hcs : ∀ c ∈ cs, c.Keeps rule o.debug)
    {k : Compiled → Except Failure Compiled}
    (hk : ∀ c, c.Keeps rule o.debug → ∀ r, k c = .ok r → r.Keeps rule o.debug)
    (h : Engine.onlyOne k cs = .ok r) : r.Keeps rule o.debug := by
  unfold Engine.onlyOne at h
  split at h
  · rename_i c
    exact hk c (hcs c List.mem_cons_self) r h
  · cases h

theorem Compiled.Keeps.step (hrule : rule.Covers o.debug) (h : c.Keeps rule o.debug)
    (direction : Sql.Direction) (columns : ColumnSet) :
    (c.step direction columns).Keeps rule o.debug := by
  cases c with
  | query fragment => trivial
  | records files => exact FileSet.Keeps.step hrule h direction columns

theorem keeps_compileCondition (hrule : rule.Covers o.debug) (hc : c.Keeps rule o.debug)
    {predicate : Predicate} {form : Dnf} {needs : ColumnSet}
    (h : e.compileCondition predicate form needs c = .ok r) : r.Keeps rule o.debug := by
  cases c with
  | query fragment =>
      obtain ⟨condition, -, hr⟩ := bind_eq_ok_iff.mp h
      cases hr
      trivial
  | records files =>
      obtain ⟨filtered, hfiltered, hr⟩ := bind_eq_ok_iff.mp h
      cases hr
      exact FileSet.Keeps.filterMetadata hrule hc hfiltered

/-- Whatever the operands are, a tree keeps to a rule if they do. -/
theorem keeps_finish (hrule : rule.Fits e o) (needs : ColumnSet) (node : Node)
    (hcs : ∀ c ∈ cs, c.Keeps rule o.debug) (h : e.finish o needs node cs = .ok r) :
    r.Keeps rule o.debug := by
  cases node with
  | everyFile =>
      cases h
      trivial
  | filesOf query =>
      obtain ⟨datasets, -, hr⟩ := bind_eq_ok_iff.mp h
      cases hr
      trivial
  | list files =>
      obtain ⟨fragment, -, hr⟩ := bind_eq_ok_iff.mp h
      cases hr
      trivial
  | union operands | join operands | minus left right =>
      exact keeps_combineAll hrule.covers hcs h
  | parentsOf query | childrenOf query =>
      refine keeps_onlyOne hcs (fun c hc r hr => ?_) h
      cases hr
      exact hc.step hrule.covers _ needs
  | limit query count =>
      refine keeps_onlyOne hcs (fun c hc r hr => ?_) h
      rcases c with fragment | files
      · cases hr
        trivial
      · cases hr
        exact FileSet.Keeps.limit hrule.covers hc count
  | skip query count =>
      refine keeps_onlyOne hcs (fun c hc r hr => ?_) h
      rcases c with fragment | files
      · cases hr
        trivial
      · cases hr
        exact FileSet.Keeps.skip hrule.covers hc count
  | metaFilter query predicate =>
      obtain ⟨form, -, h⟩ := bind_eq_ok_iff.mp h
      split at h
      · refine keeps_onlyOne hcs (fun c hc r hr => ?_) h
        cases hr
        exact hc
      · exact keeps_onlyOne hcs (fun c hc r hr => keeps_compileCondition hrule.covers hc hr) h
  | filter call inputs =>
      simp only [Engine.finish] at h
      split at h
      · cases h
      · rename_i filter hfilter
        cases h
        exact ⟨rfl, hrule.filters call.name filter _ _ hfilter
          (Compiled.Keeps.allFiles hrule.covers hcs "filter")⟩
  | named space name | datasets selector | datasetsHaving query predicate | datasetUnion parts
  | namedQueries space pattern => cases h

end Compiled

/-- The failures of whatever a tree becomes keep to the rule. -/
theorem keeps_compileFiles (hrule : rule.Fits e o) {needs : ColumnSet} {r : Compiled}
    (h : e.compileFiles o node needs = .ok r) : r.Keeps rule o.debug := by
  apply compileCall_induction (c := .root needs node) (p := fun _ r => r.Keeps rule o.debug)
    (fun _ _ _ _ _ _ hr => hr) _ h
  intro needs node cs r _ hcs hr
  refine keeps_finish hrule needs node (fun c hc => ?_) hr
  obtain ⟨_, -, hkeeps⟩ := exists_of_mem_of_forall₂ hcs hc
  exact hkeeps

theorem failsOnly_compileFiles (needs : ColumnSet) :
    FailsOnly Failure.IsStatic (e.compileFiles o node needs) :=
  fun _ h => isStatic_of_compileFiles h

theorem failsOnly_compileDatasets : FailsOnly Failure.IsStatic (e.compileDatasets o node) :=
  (failsLocally_compileDatasets node).mono fun _ h => h.isStatic

theorem failsOnly_files : FailsOnly Failure.IsStatic (e.files o node) := by
  apply (failsOnly_compileFiles o.columns).bind
  intro c
  cases c with
  | query fragment => exact .ok _
  | records files => exact .ok _

theorem failsOnly_search (queries : NamedQueries) (space pattern : Option String) :
    FailsOnly Failure.IsStatic (queries.search space pattern) := by
  refine FailsOnly.bind ?_ fun glob => .ok _
  unfold NamedQueries.compileGlob
  split
  · exact .ok none
  · split
    · exact .ok _
    · exact .error ⟨_, rfl, nofun⟩

/-- Files are answered with a query, or with records without the columns that nobody asked for. -/
theorem exists_of_files {s : FileSet} (h : e.files o node = .ok s) :
    (∃ fragment, s = .ofQuery e.dialect fragment node.kind o.debug) ∨
      ∃ files, e.compile o node = .ok (.records files) ∧ s = files.only o.columns := by
  obtain ⟨c, hc, hs⟩ := bind_eq_ok_iff.mp h
  cases c with
  | query fragment =>
      cases hs
      exact Or.inl ⟨fragment, rfl⟩
  | records files =>
      cases hs
      exact Or.inr ⟨files, hc, rfl⟩

namespace FailureRule.Fits

theorem keeps_files (hrule : rule.Fits e o) {s : FileSet} (h : e.files o node = .ok s) :
    s.stream.Keeps rule := by
  rcases exists_of_files h with ⟨fragment, rfl⟩ | ⟨files, hfiles, rfl⟩
  · exact RecordStream.keeps_ofQuery hrule.covers fragment.query node.kind
  · exact FileSet.keeps_stream_only (keeps_compileFiles hrule hfiles).stream o.columns

theorem always_datasets (hrule : rule.Fits e o) (log : List Exchange) :
    (e.datasets o node).Always (fun _ _ => False) rule.Admits log := by
  unfold Engine.datasets
  split
  · rename_i failure hfailure
    exact .error (hrule.static log failure (failsOnly_compileDatasets failure hfailure))
  · rename_i query hquery
    apply Flow.always_bind ((hrule.covers.calls query).always_rows node.kind log)
    intro more answer _ hanswer
    exact hanswer.bind (.mapM fun row => hrule.covers.admits_row node.kind _)

/-- The answer is no failure that breaks the rule, and no set with such a failure in it. -/
def AdmitsAnswer (rule : FailureRule) (log : List Exchange) (x : Except Failure QueryAnswer) :
    Prop :=
  rule.Admits log x ∧ ∀ files, x = .ok (.files files) → files.stream.Keeps rule

theorem always_query (hrule : rule.Fits e o) (log : List Exchange) :
    (e.query o node).Always (fun _ _ => False) (AdmitsAnswer rule) log := by
  unfold Engine.query
  split
  · rename_i space pattern
    have hsearch := (failsOnly_search e.queries space pattern).map QueryAnswer.namedQueries
    refine ⟨hsearch.mono (hrule.static log), fun files hfiles => ?_⟩
    obtain ⟨found, -, hother⟩ := map_eq_ok_iff.mp hfiles
    cases hother
  · split
    · apply Flow.always_bind (hrule.always_datasets log)
      intro more answer _ hanswer
      refine ⟨hanswer.map _, fun files hfiles => ?_⟩
      obtain ⟨datasets, -, hother⟩ := map_eq_ok_iff.mp hfiles
      cases hother
    · refine ⟨(failsOnly_files.map _).mono (hrule.static log), fun files hfiles => ?_⟩
      obtain ⟨s, hs, hsame⟩ := map_eq_ok_iff.mp hfiles
      cases hsame
      exact hrule.keeps_files hs

/-- The rule fits whichever columns are asked for. -/
theorem withColumns (hrule : rule.Fits e o) (withMeta withProvenance : Bool) :
    rule.Fits e { o with withMeta, withProvenance } where
  static := hrule.static
  covers := hrule.covers
  sizes := hrule.sizes
  filters := hrule.filters

theorem always_counts (hrule : rule.Fits e o) {s : FileSet} (h : e.files o node = .ok s)
    (log : List Exchange) : s.counts.Always (fun _ _ => False) rule.Admits log := by
  apply FileSet.always_counts (hrule.keeps_files h)
  · intro fragment hfragment
    rcases exists_of_files h with ⟨_, rfl⟩ | ⟨files, -, rfl⟩
    · exact hrule.covers.calls fragment.counts
    · cases hfragment
  · intro hstream
    rcases exists_of_files h with ⟨_, rfl⟩ | ⟨files, -, rfl⟩
    · cases hstream
    · -- Whatever the mode is, this set shows no statements.
      exact hrule.sizes

theorem always_metadataKeys (hrule : rule.Fits e o) {s : FileSet} (h : e.files o node = .ok s)
    (log : List Exchange) : s.metadataKeys.Always (fun _ _ => False) rule.Admits log := by
  apply FileSet.always_metadataKeys (hrule.keeps_files h)
  intro fragment hfragment
  rcases exists_of_files h with ⟨_, rfl⟩ | ⟨files, -, rfl⟩
  · exact hrule.covers.calls (fragment.metadataKeys e.dialect)
  · cases hfragment

theorem always_summary (hrule : rule.Fits e o) (kind : Summary) (log : List Exchange) :
    (e.summary o kind node).Always (fun _ _ => False) rule.Admits log := by
  have hcolumns := hrule.withColumns (decide (kind = .keys)) false
  unfold Engine.summary
  split
  · exact .error (hrule.static log _ ⟨_, rfl, nofun⟩)
  · split
    · rename_i failure hfailure
      exact .error (hrule.static log failure (failsOnly_files failure hfailure))
    · rename_i s hs
      cases kind with
      | count =>
          apply Flow.always_bind (hcolumns.always_counts hs log)
          exact fun more answer _ hanswer => hanswer.map _
      | keys =>
          apply Flow.always_bind (hcolumns.always_metadataKeys hs log)
          exact fun more answer _ hanswer => hanswer.map _

end FailureRule.Fits

/-- The failure is reported for a tree after these exchanges: it is returned, or met when the
records are pulled that a tree is compiled to or answered with. -/
inductive Engine.Reports (e : Engine) (o : Options) (node : Node) :
    List Exchange → Failure → Prop
  | compile {f : Failure} (h : e.compile o node = .error f) : Reports e o node [] f
  | compiledRecord {files : FileSet} {log : List Exchange} {f : Failure}
    (h : e.compile o node = .ok (.records files)) (hitem : files.stream.MayYield log (.error f)) :
    Reports e o node log f
  | files {f : Failure} (h : e.files o node = .error f) : Reports e o node [] f
  | filesRecord {files : FileSet} {log : List Exchange} {f : Failure}
    (h : e.files o node = .ok files) (hitem : files.stream.MayYield log (.error f)) :
    Reports e o node log f
  | query {log : List Exchange} {f : Failure} (h : (e.query o node).MayReturn log (.error f)) :
    Reports e o node log f
  | queryRecord {files : FileSet} {before log : List Exchange} {f : Failure}
    (h : (e.query o node).MayReturn before (.ok (.files files)))
    (hitem : files.stream.MayYield log (.error f)) : Reports e o node log f
  | datasets {log : List Exchange} {f : Failure}
    (h : (e.datasets o node).MayReturn log (.error f)) : Reports e o node log f
  | summary {kind : Summary} {log : List Exchange} {f : Failure}
    (h : (e.summary o kind node).MayReturn log (.error f)) : Reports e o node log f

/-- A rule that fits the engine holds of all that it reports. -/
theorem FailureRule.Fits.holds_of_reports (hrule : rule.Fits e o)
    (h : e.Reports o node log f) : rule.Holds log f := by
  have hstream {files : FileSet} {log : List Exchange} {f : Failure}
      (hfiles : files.stream.Keeps rule) (hitem : files.stream.MayYield log (.error f)) :
      rule.Holds log f := (hfiles []).of_mayYield hitem f rfl
  cases h with
  | compile h => exact hrule.static [] f (isStatic_of_compileFiles h)
  | compiledRecord h hitem => exact hstream (keeps_compileFiles hrule h).stream hitem
  | files h => exact hrule.static [] f (failsOnly_files f h)
  | filesRecord h hitem => exact hstream (hrule.keeps_files h) hitem
  | query h => exact ((hrule.always_query []).of_mayReturn h).1 f rfl
  | queryRecord h hitem =>
      exact hstream (((hrule.always_query []).of_mayReturn h).2 _ rfl) hitem
  | datasets h => exact (hrule.always_datasets []).of_mayReturn h f rfl
  | summary h => exact (hrule.always_summary _ []).of_mayReturn h f rfl

end CatalogQuery
