/-
Whatever is reported is in the catalogue.  Stores and filters may raise anything, and codes that
nobody knows; each path from them to a reader attributes it to the step or the filter that met
it.  What is found while compiling is in the catalogue from the start, and never belongs to the
execution.
-/
import CatalogQuery.Proofs.Reports

namespace CatalogQuery

open Sql (ColumnSet)

def FailureRule.catalogued : FailureRule where
  Holds _ f := f.isCatalogued = true
  lasting _ _ _ _ := id

namespace Filter

theorem isCatalogued_attributed (name : String) (f : Failure) :
    (attributed name f).isCatalogued = true := by
  unfold attributed
  split
  · assumption
  · exact Failure.isCatalogued_of_code? rfl

/-- A filter may raise anything when it is applied, and yield anything. -/
theorem keeps_run (filter : Filter) (name : String) (inputs : List FileSet) (args : Arguments) :
    (filter.run name inputs args).Keeps .catalogued := by
  intro log
  apply Flow.always_bind (q := fun _ _ => True) (Flow.always_ofAction_iff.mpr
    (Flow.always_of_forall (p := fun _ _ => True) (fun _ _ => trivial) (fun _ _ => trivial) _))
  intro more applied _ _
  rcases applied with f | records
  · exact RecordStream.always_fail (Failure.isCatalogued_of_code? rfl)
  · apply Flow.always_mapItems (p := fun _ _ => True)
      (Flow.always_of_forall (fun _ _ => trivial) (fun _ _ => trivial) records)
    intro log item _
    rcases item with f | record
    · exact .error (isCatalogued_attributed name f)
    · exact .ok record

end Filter

variable (e : Engine) (o : Options) (node : Node)

theorem covers_catalogued (debug : Bool) : FailureRule.catalogued.Covers debug where
  invalidRow _ _ _ := Failure.isCatalogued_of_code? rfl
  calls _ _ _ _ _ _ _ := Failure.isCatalogued_of_code? rfl

theorem fits_catalogued : FailureRule.catalogued.Fits e o where
  static := by
    rintro log f ⟨code, hcode, -⟩
    exact Failure.isCatalogued_of_code? hcode
  covers := covers_catalogued o.debug
  sizes ids := (covers_catalogued false).calls (Sql.totalSize ids)
  filters name filter inputs args _ _ := filter.keeps_run name inputs args

/-- The failure belongs to a stage before the execution. -/
def Failure.IsEarly (f : Failure) : Prop :=
  f.stage = .compilation ∨ f.stage = .compatibility

theorem Failure.IsStatic.isEarly {f : Failure} (h : f.IsStatic) : f.IsEarly := by
  obtain ⟨code, hcode, hstage⟩ := h
  rw [← stage_of_code? hcode] at hstage
  unfold Failure.IsEarly
  cases hf : f.stage with
  | compilation => exact Or.inl rfl
  | compatibility => exact Or.inr rfl
  | execution => exact absurd hf hstage

/-- Each failure that an engine reports has a code of the catalogue, whatever its filters and the
stores do; and what a tree fails to be compiled with belongs to a stage before the execution. -/
theorem hasCode_of_reports :
    (∀ log f, e.Reports o node log f → ∃ code ∈ ErrorCode.all, f.codeText = code.text) ∧
      (∀ needs f, e.compileFiles o node needs = .error f → f.IsEarly) ∧
      ∀ f, e.compileDatasets o node = .error f → f.IsEarly := by
  refine ⟨fun log f h => ?_, fun needs f h => ?_, fun f h => ?_⟩
  · exact Failure.isCatalogued_iff.mp ((fits_catalogued e o).holds_of_reports h)
  · exact (isStatic_of_compileFiles h).isEarly
  · exact (failsOnly_compileDatasets f h).isEarly

def Filter.raising : Filter := fun _ _ =>
  .finish (.ok (.fail (.foreign .compilation "OTHER_CODE" "Other" "boom")))

/-- An engine that knows the filter that raises an error. -/
def raisingEngine : Engine where
  dialect := .sqlite
  filters := .ofList [("raising", Filter.raising)]
  queries := .empty

def filteredNode (name : String) : Node :=
  .filter { name } []

theorem hasCode_of_reports_raising :
    (∃ f, raisingEngine.Reports {} (filteredNode "raising") [] f ∧
        ∃ code ∈ ErrorCode.all, f.codeText = code.text) ∧
      (∃ f, raisingEngine.compileFiles {} (filteredNode "missing") .ids = .error f ∧
        f.IsEarly) ∧
      ∃ f, raisingEngine.compileDatasets {} .everyFile = .error f ∧ f.IsEarly := by
  have hcompile : ∃ files,
      raisingEngine.compile {} (filteredNode "raising") = .ok (.records files) ∧
        files.stream = .fail (.filterFailure "raising" "boom") := ⟨_, rfl, rfl⟩
  obtain ⟨files, hfiles, hstream⟩ := hcompile
  have hitem : files.stream.MayYield [] (.error (.filterFailure "raising" "boom")) := by
    rw [hstream]
    exact Flow.mayYield_head _ _
  have hreports := Engine.Reports.compiledRecord hfiles hitem
  have hmissing : raisingEngine.compileFiles {} (filteredNode "missing") .ids =
      .error (.unknownFilter "missing") := rfl
  have hmismatch : raisingEngine.compileDatasets {} .everyFile =
      .error (.queryTypeMismatch QueryType.dataset.name Node.everyFile.kind) := rfl
  exact ⟨⟨_, hreports, (hasCode_of_reports raisingEngine {} _).1 _ _ hreports⟩,
    ⟨_, hmissing, (hasCode_of_reports raisingEngine {} _).2.1 _ _ hmissing⟩,
    _, hmismatch, (hasCode_of_reports raisingEngine {} _).2.2 _ hmismatch⟩

end CatalogQuery
