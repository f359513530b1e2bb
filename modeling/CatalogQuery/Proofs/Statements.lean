/-
Statements in failures.  In debug mode each failure of the store that is reported shows the text
of the statement that failed, and otherwise none does: all sets that a tree is made of know the
mode, and so does each step that asks the store for the sake of one of them.  Only the set that
leaves out the columns nobody asked for has forgotten it.  Its records come from others, so that
it matters for nothing but the sizes that are looked up when they are counted.
-/
import CatalogQuery.Filter.Sampling
import CatalogQuery.Proofs.Reports

namespace CatalogQuery

open Sql (ColumnSet)

/-- The failure has the code of failing stores. -/
def Failure.IsOfStore (f : Failure) : Prop :=
  f.codeText = ErrorCode.storeFailure.text

theorem ErrorCode.eq_storeFailure {code : ErrorCode}
    (h : code.text = ErrorCode.storeFailure.text) : code = .storeFailure := by
  revert h
  cases code <;> decide

/-- A failure of the catalogue with another code is none of the store. -/
theorem Failure.not_isOfStore {f : Failure} {code : ErrorCode} (h : f.code? = some code)
    (hcode : code ≠ .storeFailure) : ¬f.IsOfStore := by
  intro hstore
  rw [Failure.IsOfStore, codeText_of_code? h] at hstore
  exact hcode (ErrorCode.eq_storeFailure hstore)

/-- The failure is described as that of a call which was made for the sake of a step and failed,
with the text of its statement in debug mode and only then. -/
def Failure.Tells (debug : Bool) (log : List Exchange) (f : Failure) : Prop :=
  ∃ x ∈ log, ∃ query cause context, x.Fails (.query query) cause ∧
    f.description = context ++ ": " ++ cause.description ++
      if debug then "\n-- fragment --\n" ++ query.text else ""

theorem Failure.tells_atStep {log : List Exchange} {x : Exchange} {query : Sql.Query}
    {cause : Failure} (hx : x ∈ log) (hfails : x.Fails (.query query) cause) (context : String)
    (debug : Bool) : (cause.atStep context debug query).Tells debug log := by
  refine ⟨x, hx, query, cause, context, hfails, ?_⟩
  cases debug with
  | false => exact (String.append_empty).symm
  | true => exact String.append_assoc

namespace Filter

variable {filter : Filter}

/-- What comes out of a filter that can be applied. -/
def applied (filter : Filter) (inputs : List FileSet) (args : Arguments) : RecordStream :=
  (Flow.ofAction (filter inputs args)).bind fun applied =>
    match applied with
    | .error _ => .finish ()
    | .ok records => records

/-- A failure of the store that comes out of the filter comes out of one of its inputs. -/
def OnlyConsumes (filter : Filter) : Prop :=
  ∀ inputs args log f, f.IsOfStore → (filter.applied inputs args).MayYield log (.error f) →
    ∃ input ∈ inputs, ∃ earlier, earlier ⊆ log ∧ input.stream.MayYield earlier (.error f)

/-- Where the filter can be applied, it passes some items of an input on as a test tells it. -/
def Selects (filter : Filter) : Prop :=
  ∀ inputs args, ∃ x, filter inputs args = .finish x ∧
    ∀ records, x = .ok records → ∃ input ∈ inputs, ∃ (σ : Type)
      (keep : σ → StreamItem → Bool × σ) (state : σ), records = input.stream.filterItems keep state

theorem Selects.onlyConsumes (h : filter.Selects) : filter.OnlyConsumes := by
  intro inputs args log f _ hitem
  obtain ⟨x, hfilter, hselects⟩ := h inputs args
  rw [applied, hfilter] at hitem
  rcases x with failure | records
  · have hnone : Flow.Always (α := StreamItem) (fun _ _ => False) (fun _ _ => True) []
        (.finish ()) := trivial
    exact (hnone.of_mayYield hitem).elim
  · obtain ⟨input, hinput, σ, keep, state, rfl⟩ := hselects records rfl
    have hitems : input.stream.Always input.stream.MayYield (fun _ _ => True) [] :=
      Flow.always_of_forall_mayYield fun _ _ => id
    exact ⟨input, hinput, log, List.Subset.refl log,
      (Flow.always_filterItems keep state hitems).of_mayYield hitem⟩

theorem mem_of_singleInput {name : String} {inputs : List FileSet} {input : FileSet}
    (h : singleInput name inputs = .ok input) : input ∈ inputs := by
  rcases inputs with _ | ⟨first, _ | ⟨second, rest⟩⟩
  · cases h
  · cases h
    exact List.mem_cons_self
  · cases h

theorem selects_everyNth : everyNth.Selects := by
  intro inputs args
  refine ⟨_, rfl, fun records hrecords => ?_⟩
  obtain ⟨input, hinput, hrecords⟩ := bind_eq_ok_iff.mp hrecords
  dsimp only at hrecords
  split at hrecords
  · cases hrecords
  · split at hrecords
    · cases hrecords
      exact ⟨input, mem_of_singleInput hinput, _, _, _, rfl⟩
    · cases hrecords

theorem not_isOfStore_filterFailure (name cause : String) :
    ¬(Failure.filterFailure name cause).IsOfStore :=
  Failure.not_isOfStore rfl (by decide)

/-- A rule that says nothing of other failures keeps to what comes out of the filter if it keeps
to the inputs. -/
theorem OnlyConsumes.keeps (hfilter : filter.OnlyConsumes) {rule : FailureRule} {debug : Bool}
    (hrule : ∀ log f, ¬f.IsOfStore → rule.Holds log f) {inputs : List FileSet}
    (hinputs : ∀ input ∈ inputs, FileSet.Keeps rule debug input) (name : String)
    (args : Arguments) : (filter.run name inputs args).Keeps rule := by
  intro log
  have happlied : (filter.applied inputs args).Always
      (fun log item => FailsOnly (fun f => f.IsOfStore → rule.Holds log f) item)
      (fun _ _ => True) log := by
    apply Flow.always_of_forall_mayYield
    intro more item hitem f hf hstore
    rw [hf] at hitem
    obtain ⟨input, hinput, earlier, hearlier, hmay⟩ := hfilter inputs args more f hstore hitem
    have hholds := ((hinputs input hinput).stream []).of_mayYield hmay f rfl
    exact rule.lasting _ _ f (List.Subset.trans hearlier (List.subset_append_right log more)) hholds
  rw [applied, Flow.always_bind_iff, Flow.always_ofAction_iff (r := fun _ _ => True)] at happlied
  rw [run, Flow.always_bind_iff, Flow.always_ofAction_iff (r := fun _ _ => True)]
  apply happlied.mono (fun _ _ => id)
  intro log applied happlied
  rcases applied with f | records
  · exact RecordStream.always_fail (hrule log _ (not_isOfStore_filterFailure name f.description))
  · -- What has a code of the catalogue keeps it, and nothing else gets that of the store.
    apply Flow.always_mapItems happlied
    intro log item hitem
    rcases item with f | record
    · apply FailsOnly.error
      unfold attributed
      split
      · by_cases hstore : f.IsOfStore
        · exact hitem f rfl hstore
        · exact hrule log f hstore
      · exact hrule log _ (not_isOfStore_filterFailure name f.description)
    · exact .ok record

end Filter

/-- No look-up of sizes has failed. -/
def SizesFound (log : List Exchange) : Prop :=
  ∀ x ∈ log, ∀ ids cause, ¬x.Fails (.query (Sql.totalSize ids)) cause

/-- Failures of the store tell what failed, as long as no look-up of sizes fails in debug mode. -/
def FailureRule.telling (debug : Bool) : FailureRule where
  Holds log f := (debug = true → SizesFound log) → f.IsOfStore → f.Tells debug log
  lasting := by
    intro log more f hmore h hsizes hstore
    obtain ⟨x, hx, hfails⟩ := h (fun hdebug x hx => hsizes hdebug x (hmore hx)) hstore
    exact ⟨x, hmore hx, hfails⟩

variable {e : Engine} {o : Options} {node : Node} {log : List Exchange} {f : Failure}

theorem holds_telling_of_not_isOfStore {debug : Bool} (h : ¬f.IsOfStore) :
    (FailureRule.telling debug).Holds log f :=
  fun _ hstore => absurd hstore h

theorem fits_telling
    (hfilters : ∀ name filter, e.filters.get? name = some filter → filter.OnlyConsumes) :
    (FailureRule.telling o.debug).Fits e o where
  static log f hstatic := by
    obtain ⟨code, hcode, hstage⟩ := hstatic
    apply holds_telling_of_not_isOfStore
    apply Failure.not_isOfStore hcode
    rintro rfl
    exact hstage rfl
  covers :=
    { invalidRow := fun _ _ _ =>
        holds_telling_of_not_isOfStore (Failure.not_isOfStore rfl nofun)
      calls := fun _ _ _ _ context hx hfails _ _ =>
        Failure.tells_atStep hx hfails context o.debug }
  sizes := by
    intro ids log x cause context hx hfails hsizes _
    cases hdebug : o.debug with
    | false => exact Failure.tells_atStep hx hfails context false
    | true => exact absurd hfails (hsizes hdebug x hx ids cause)
  filters name filter inputs args hfilter hinputs :=
    (hfilters name filter hfilter).keeps
      (fun _ _ h => holds_telling_of_not_isOfStore h) hinputs name args

/-- With filters that only consume their inputs, each failure of the store that is reported is
described as its step and its cause, and in debug mode it shows the statement that failed, if no
look-up of sizes fails there. -/
theorem tells_of_reports
    (hfilters : ∀ name filter, e.filters.get? name = some filter → filter.OnlyConsumes)
    (h : e.Reports o node log f) (hstore : f.IsOfStore)
    (hsizes : o.debug = true → SizesFound log) : f.Tells o.debug log :=
  (fits_telling hfilters).holds_of_reports h hsizes hstore

theorem onlyConsumes_family (name : String) (filter : Filter)
    (h : familyEngine.filters.get? name = some filter) : filter.OnlyConsumes := by
  have hget : familyEngine.filters.get? name =
      if compare name "every_nth" = .eq then some Filter.everyNth else none := rfl
  rw [hget] at h
  split at h
  · cases h
    exact Filter.selects_everyNth.onlyConsumes
  · cases h

/-- Stores with a single file that fail when they are asked for all rows at once. -/
def failingStores : Stores Unit where
  execute _ _ _ := (.error (.store "boom"), ())
  openCursor _ _ :=
    (.ok ⟨0, [.ok [.text "a", .text "test", .text "a.root", .null, .null, .null]]⟩, ())

/-- The children of a file that a filter lets through. -/
def filteredChildren : Node :=
  .childrenOf (.filter everyRecord [.list (.ids ["a"])])

theorem tells_of_reports_children :
    ∃ log f, familyEngine.Reports { debug := true } filteredChildren log f ∧ f.IsOfStore ∧
      SizesFound log ∧ f.Tells true log := by
  have hrun : ∃ files, familyEngine.compile { debug := true } filteredChildren =
      .ok (.records files) ∧ ∃ first second cursor f,
        (files.stream.play failingStores ()).trace =
          [.inl (.opened (.query first) cursor), .inl (.advanced 0),
            .inl (.executed .catalog (.query second) (.error (.store "boom"))), .inr (.error f)] ∧
        (∀ ids, first ≠ Sql.totalSize ids) ∧ (∀ ids, second ≠ Sql.totalSize ids) ∧
        f.IsOfStore :=
    ⟨_, rfl, _, _, _, _, rfl, nofun, nofun, rfl⟩
  obtain ⟨files, hfiles, first, second, cursor, f, htrace, hfirst, hsecond, hstore⟩ := hrun
  have hreports := Engine.Reports.compiledRecord hfiles
    ⟨Unit, failingStores, (), [_, _, _], [], htrace, rfl⟩
  have hsizes : SizesFound [.opened (.query first) cursor, .advanced 0,
      .executed .catalog (.query second) (.error (.store "boom"))] := by
    intro x hx ids cause hfails
    simp only [List.mem_cons, List.not_mem_nil, or_false] at hx
    rcases hx with rfl | rfl | rfl
    · cases hfails <;> exact hfirst ids rfl
    · cases hfails
    · cases hfails
      exact hsecond ids rfl
  exact ⟨_, f, hreports, hstore, hsizes,
    tells_of_reports onlyConsumes_family hreports hstore fun _ => hsizes⟩

def filteredFile : Node :=
  .filter everyRecord [.list (.ids ["a"])]

/-- In debug mode a look-up of sizes that fails shows no statement. -/
theorem not_tells_sizes :
    (∀ name filter, familyEngine.filters.get? name = some filter → filter.OnlyConsumes) ∧
      ∃ log f, familyEngine.Reports { debug := true } filteredFile log f ∧ f.IsOfStore ∧
        ¬f.Tells true log := by
  have hreturn : ∃ log, (familyEngine.summary { debug := true } .count filteredFile).MayReturn log
      (.error (.storeFailure "count" none "boom")) :=
    ⟨_, Unit, failingStores, (), rfl, rfl⟩
  obtain ⟨log, hlog⟩ := hreturn
  refine ⟨onlyConsumes_family, log, _, .summary hlog, rfl, ?_⟩
  rintro ⟨x, -, query, cause, context, -, hdescription⟩
  have hbreak : '\n' ∈ "count: boom".toList := by
    have hshown : "count: boom" = context ++ ": " ++ cause.description ++
      ("\n-- fragment --\n" ++ query.text) := hdescription
    rw [hshown]
    simp
  exact absurd hbreak (by decide)

end CatalogQuery
