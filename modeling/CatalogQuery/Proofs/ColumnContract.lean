/-
The columns that compiled queries fill.  Operands are compiled with fewer columns where only
their identifiers are read and with the metadata where a condition is put on them; stored
queries and conditions that always hold pass the needed columns on.  Whatever a tree is made
of, the query that it becomes has the columns that are needed, and so has each one on the way.
-/
import CatalogQuery.Proofs.Calls
import CatalogQuery.Proofs.Sql.FilledColumns

namespace CatalogQuery

open Sql (Column ColumnSet Direction Fragment Item Query Reach SetOperation)

variable {e : Engine} {o : Options}

/-- What holds of the datasets of every selector, and is kept by conditions and unions, holds of
what any query for datasets becomes. -/
theorem compileDatasets_induction {p : Query → Prop}
    (hselected : ∀ space selector, p (Sql.selectedDatasets e.dialect space selector))
    (hhaving : ∀ inner form, p inner →
      p (Sql.datasetsHaving inner (Sql.condition e.dialect Sql.datasetMetadata form)))
    (hunion : ∀ first rest, (∀ q ∈ first :: rest, p q) → p (Sql.datasetUnion first rest)) :
    (∀ node q, e.compileDatasets o node = .ok q → p q) ∧
      ∀ parts queries, e.compileDatasetParts o parts = .ok queries → ∀ q ∈ queries, p q := by
  apply Engine.compileDatasets.mutual_induct
  case case1 =>
    intro selector q h
    rw [Engine.compileDatasets] at h
    obtain ⟨space, -, hq⟩ := bind_eq_ok_iff.mp h
    cases hq
    exact hselected space selector
  case case2 =>
    intro query predicate ih q h
    rw [Engine.compileDatasets] at h
    obtain ⟨inner, hinner, h⟩ := bind_eq_ok_iff.mp h
    obtain ⟨form, -, h⟩ := bind_eq_ok_iff.mp h
    split at h
    · cases h
      exact ih q hinner
    · obtain ⟨condition, hcondition, hq⟩ := bind_eq_ok_iff.mp h
      cases hq
      obtain ⟨rfl, -⟩ := Sql.isAddressable_of_condition? hcondition
      exact hhaving inner form (ih inner hinner)
  case case3 =>
    intro parts ih q h
    rw [Engine.compileDatasets] at h
    obtain ⟨queries, hqueries, h⟩ := bind_eq_ok_iff.mp h
    have hall := ih queries hqueries
    split at h
    · cases h
    · cases h
      exact hall _ List.mem_cons_self
    · cases h
      exact hunion _ _ hall
  case case4 =>
    intro other hnone hnotHaving hnoUnion q h
    rw [Engine.compileDatasets.eq_4 e o other hnone hnotHaving hnoUnion] at h
    cases h
  case case5 =>
    rintro queries ⟨⟩ q ⟨⟩
  case case6 =>
    intro part rest hpart hrest queries h
    rw [Engine.compileDatasetParts] at h
    obtain ⟨first, hfirst, h⟩ := bind_eq_ok_iff.mp h
    obtain ⟨others, hothers, h⟩ := bind_eq_ok_iff.mp h
    cases h
    exact List.forall_mem_cons.mpr ⟨hpart first hfirst, hrest others hothers⟩

/-- What a query for datasets becomes returns them with their metadata. -/
theorem givesDatasets_of_compileDatasets :
    (∀ node q, e.compileDatasets o node = .ok q → q.GivesDatasets) ∧
      ∀ parts queries, e.compileDatasetParts o parts = .ok queries →
        ∀ q ∈ queries, q.GivesDatasets := by
  refine compileDatasets_induction (Sql.givesDatasets_selectedDatasets e.dialect)
    (fun inner form h => h.having e.dialect form) fun first rest hall => ?_
  obtain ⟨hfirst, hrest⟩ := List.forall_mem_cons.mp hall
  exact Sql.givesDatasets_datasetUnion hfirst hrest

namespace FileSet

variable {s other : FileSet} {others : List FileSet}

/-- A set operation makes a query only if each operand is given by one. -/
theorem fragment?_combined (op : SetOperation) (context : String) (records : RecordStream)
    (h : ∀ f fs, s.fragment? = some f → others.mapM fragment? = some fs → False) :
    (combined op context s others records).fragment? = none := by
  unfold combined
  split
  · rename_i hfirst hrest
    exact (h _ _ hfirst hrest).elim
  · rfl

theorem fragment?_union
    (h : ∀ f fs, s.fragment? = some f → others.mapM fragment? = some fs → False)
    (hothers : others ≠ []) : (s.union others).fragment? = none := by
  cases others with
  | nil => exact absurd rfl hothers
  | cons first rest => exact fragment?_combined .union _ _ h

theorem fragment?_intersect
    (h : ∀ f fs, s.fragment? = some f → others.mapM fragment? = some fs → False)
    (hothers : others ≠ []) : (s.intersect others).fragment? = none := by
  cases others with
  | nil => exact absurd rfl hothers
  | cons first rest => exact fragment?_combined .intersect _ _ h

/-- Once one of the operands is a stream, each further difference is one. -/
theorem fragment?_foldl_difference
    (h : ∀ f fs, s.fragment? = some f → others.mapM fragment? = some fs → False) :
    (others.foldl difference s).fragment? = none := by
  induction others generalizing s with
  | nil =>
      cases hs : s.fragment? with
      | none => exact hs
      | some f => exact (h f [] hs rfl).elim
  | cons first rest ih =>
      apply ih
      intro f fs hf hfs
      have hnone : (s.difference first).fragment? = none := by
        apply fragment?_combined
        intro own others hown hothers
        rw [List.mapM_cons] at hothers
        obtain ⟨g, hg, -⟩ := Option.bind_eq_some_iff.mp hothers
        apply h own (g :: fs) hown
        rw [List.mapM_cons, hg, hfs]
        rfl
      rw [hnone] at hf
      cases hf

/-- A set that is given by no query is given by a stream. -/
theorem exists_stream_of_fragment? (h : s.fragment? = none) :
    ∃ records, s = ⟨s.dialect, s.debug, .stream records⟩ := by
  obtain ⟨dialect, debug, source⟩ := s
  cases source with
  | query fragment context => cases h
  | stream records => exact ⟨records, rfl⟩

theorem fragment?_step (h : s.fragment? = none) (direction : Direction) (columns : ColumnSet) :
    (s.step direction columns).fragment? = none := by
  obtain ⟨records, hs⟩ := exists_stream_of_fragment? h
  rw [hs]
  rfl

theorem fragment?_limit (h : s.fragment? = none) (count : UInt64) :
    (s.limit count).fragment? = none := by
  obtain ⟨records, hs⟩ := exists_stream_of_fragment? h
  rw [hs]
  rfl

theorem fragment?_skip (h : s.fragment? = none) (count : UInt64) :
    (s.skip count).fragment? = none := by
  obtain ⟨records, hs⟩ := exists_stream_of_fragment? h
  rw [hs]
  rfl

theorem fragment?_filterMetadata (h : s.fragment? = none) {p : Predicate}
    (hother : s.filterMetadata p = .ok other) : other.fragment? = none := by
  obtain ⟨records, hs⟩ := exists_stream_of_fragment? h
  rw [hs] at hother
  obtain ⟨form, -, hresult⟩ := bind_eq_ok_iff.mp hother
  cases hresult
  rfl

end FileSet

/-- What was compiled is a query with the needed columns, or a set of records that no query
is hidden in. -/
def Compiled.Has (needs : ColumnSet) : Compiled → Prop
  | .query fragment => fragment.Has needs
  | .records files => files.fragment? = none

namespace Compiled

variable {needs later : ColumnSet} {c first : Compiled} {rest : List Compiled}

theorem Has.fragment?_files (h : c.Has needs) (context : String) :
    (c.files e o context).fragment? = c.fragment? := by
  cases c with
  | query fragment => rfl
  | records files => exact h

theorem mapM_fragment?_files (h : ∀ c ∈ rest, c.Has later) (context : String) :
    (rest.map (Compiled.files e o context)).mapM FileSet.fragment? = rest.mapM fragment? := by
  induction rest with
  | nil => rfl
  | cons c rest ih =>
      obtain ⟨hc, hrest⟩ := List.forall_mem_cons.mp h
      rw [List.map_cons, List.mapM_cons, List.mapM_cons, hc.fragment?_files, ih hrest]

theorem has_of_mapM_fragment? (h : ∀ c ∈ rest, c.Has later) {fragments : List Fragment}
    (hfragments : rest.mapM fragment? = some fragments) : ∀ f ∈ fragments, f.Has later := by
  induction rest generalizing fragments with
  | nil =>
      cases hfragments
      rintro f ⟨⟩
  | cons c rest ih =>
      obtain ⟨hc, hrest⟩ := List.forall_mem_cons.mp h
      cases c with
      | records files => cases hfragments
      | query f =>
          rw [List.mapM_cons] at hfragments
          obtain ⟨own, hown, hfragments⟩ := Option.bind_eq_some_iff.mp hfragments
          obtain ⟨fs, hfs, hresult⟩ := Option.bind_eq_some_iff.mp hfragments
          cases hown
          cases hresult
          exact List.forall_mem_cons.mpr ⟨hc, ih hrest hfs⟩

/-- Operands that only their identifiers are read of may have any columns. -/
theorem Has.combine (hfirst : first.Has needs) (hrest : ∀ c ∈ rest, c.Has later)
    (op : SetOperation) : (e.combine o op needs first rest).Has needs := by
  unfold Engine.combine
  split
  · exact hfirst
  rename_i hnonempty
  split
  · rename_i fragment fragments hfragment hfragments
    cases first with
    | records files => cases hfragment
    | query own =>
        cases hfragment
        have hall := has_of_mapM_fragment? hrest hfragments
        apply Fragment.has_combine op hfirst.isWellScoped
        exact fun f hf => (hall f hf).isWellScoped
  · rename_i hnone
    have hstream (f : Fragment) (fs : List Fragment)
        (hf : (first.files e o (Engine.operationName op)).fragment? = some f)
        (hfs : (rest.map (Compiled.files e o (Engine.operationName op))).mapM
          FileSet.fragment? = some fs) : False := by
      rw [hfirst.fragment?_files] at hf
      rw [mapM_fragment?_files hrest] at hfs
      exact hnone f fs hf hfs
    have hne : rest.map (Compiled.files e o (Engine.operationName op)) ≠ [] := by
      simpa using hnonempty
    cases op with
    | union => exact FileSet.fragment?_union hstream hne
    | intersect => exact FileSet.fragment?_intersect hstream hne
    | except => exact FileSet.fragment?_foldl_difference hstream

theorem Has.step (h : c.Has later) (direction : Direction) (columns : ColumnSet) :
    (c.step direction columns).Has columns := by
  cases c with
  | query fragment => exact Fragment.has_step direction (Fragment.Has.isWellScoped h) columns
  | records files => exact FileSet.fragment?_step h direction columns

end Compiled

theorem has_compileList {needs : ColumnSet} :
    ∀ (files : FileList) {f : Fragment}, Engine.compileList o needs files = .ok f → f.Has needs
  | .ids ids, f, h => by
      rw [Engine.compileList] at h
      split at h
      · cases h
      · cases h
        exact Fragment.has_ofIds ids needs
  | .dids dids, f, h => by
      obtain ⟨pairs, -, h⟩ := bind_eq_ok_iff.mp h
      cases pairs with
      | nil => cases h
      | cons first rest =>
          cases h
          exact Fragment.has_ofDids first rest needs
  | .names space [], f, h => by cases h
  | .names space (first :: rest), f, h => by
      obtain ⟨own, -, h⟩ := bind_eq_ok_iff.mp h
      cases h
      exact Fragment.has_ofDids _ _ needs

theorem has_compileCondition {needs : ColumnSet} {predicate : Predicate} {form : Dnf}
    {inner c : Compiled} (hinner : inner.Has needs.withMetadata)
    (h : e.compileCondition predicate form needs inner = .ok c) : c.Has needs := by
  cases inner with
  | query fragment =>
      obtain ⟨condition, hcondition, hc⟩ := bind_eq_ok_iff.mp h
      cases hc
      obtain ⟨rfl, -⟩ := Sql.isAddressable_of_condition? hcondition
      exact Fragment.Has.filtered hinner e.dialect form
  | records files =>
      obtain ⟨filtered, hfiltered, hc⟩ := bind_eq_ok_iff.mp h
      cases hc
      exact FileSet.fragment?_filterMetadata hinner hfiltered

section Trees

variable {expand : QueryName → ColumnSet → Except Failure Compiled}

/-- The first of some compiled queries has the needed columns, and the others have theirs. -/
def FirstHas (needs later : ColumnSet) : List Compiled → Prop
  | [] => True
  | first :: rest => first.Has needs ∧ ∀ c ∈ rest, c.Has later

theorem FirstHas.forall_mem {needs : ColumnSet} {cs : List Compiled} (h : FirstHas needs needs cs) :
    ∀ c ∈ cs, c.Has needs := by
  cases cs with
  | nil => rintro c ⟨⟩
  | cons first rest => exact List.forall_mem_cons.mpr h

theorem file_of_mismatch {node : Node} {c : Compiled} {p : Prop}
    (h : Engine.mismatch .file node = Except.ok c) : p := by
  cases h

mutual

/-- A tree becomes something with the needed columns if the stored queries in it do. -/
theorem has_compileNode
    (hexpand : ∀ name needs c, expand name needs = .ok c → c.Has needs) :
    ∀ (node : Node) (needs : ColumnSet) {c : Compiled},
      e.compileNode o expand needs node = .ok c → c.Has needs
  | .everyFile, needs, c, h => by
      cases h
      exact Fragment.has_everyFile e.dialect (fun _ hnone => by cases hnone) o.includeRetired needs
  | .filesOf query, needs, c, h => by
      rw [Engine.compileNode] at h
      obtain ⟨datasets, hdatasets, hc⟩ := bind_eq_ok_iff.mp h
      cases hc
      have hgives := givesDatasets_of_compileDatasets.1 query datasets hdatasets
      apply Fragment.has_everyFile
      rintro q ⟨⟩
      exact hgives.isWellScoped
  | .named space name, needs, c, h => by
      rw [Engine.compileNode] at h
      obtain ⟨own, -, hc⟩ := bind_eq_ok_iff.mp h
      exact hexpand _ needs c hc
  | .list files, needs, c, h => by
      rw [Engine.compileNode] at h
      obtain ⟨fragment, hfragment, hc⟩ := bind_eq_ok_iff.mp h
      cases hc
      exact has_compileList files hfragment
  | .union operands, needs, c, h => by
      rw [Engine.compileNode] at h
      obtain ⟨cs, hcs, h⟩ := bind_eq_ok_iff.mp h
      have hfirst := firstHas_compileOperands hexpand operands needs needs hcs
      cases cs with
      | nil => cases h
      | cons first rest =>
          cases h
          exact hfirst.1.combine hfirst.2 .union
  | .join operands, needs, c, h => by
      rw [Engine.compileNode] at h
      obtain ⟨cs, hcs, h⟩ := bind_eq_ok_iff.mp h
      have hfirst := firstHas_compileOperands hexpand operands needs .ids hcs
      cases cs with
      | nil => cases h
      | cons first rest =>
          cases h
          exact hfirst.1.combine hfirst.2 .intersect
  | .minus left right, needs, c, h => by
      rw [Engine.compileNode] at h
      obtain ⟨first, hfirst, h⟩ := bind_eq_ok_iff.mp h
      obtain ⟨second, hsecond, h⟩ := bind_eq_ok_iff.mp h
      cases h
      have hleft := has_compileNode hexpand left needs hfirst
      have hright := has_compileNode hexpand right .ids hsecond
      exact hleft.combine (List.forall_mem_singleton.mpr hright) .except
  | .parentsOf query, needs, c, h => by
      rw [compileNode_parentsOf] at h
      obtain ⟨inner, hinner, hc⟩ := bind_eq_ok_iff.mp h
      cases hc
      exact (has_compileNode hexpand query .ids hinner).step .parents needs
  | .childrenOf query, needs, c, h => by
      rw [compileNode_childrenOf] at h
      obtain ⟨inner, hinner, hc⟩ := bind_eq_ok_iff.mp h
      cases hc
      exact (has_compileNode hexpand query .ids hinner).step .children needs
  | .limit query count, needs, c, h => by
      rw [Engine.compileNode] at h
      obtain ⟨inner, hinner, hc⟩ := bind_eq_ok_iff.mp h
      have hhas := has_compileNode hexpand query needs hinner
      cases inner with
      | query fragment =>
          cases hc
          exact Fragment.Has.windowed hhas (.first count)
      | records files =>
          cases hc
          exact FileSet.fragment?_limit hhas count
  | .skip query count, needs, c, h => by
      rw [Engine.compileNode] at h
      obtain ⟨inner, hinner, hc⟩ := bind_eq_ok_iff.mp h
      have hhas := has_compileNode hexpand query needs hinner
      cases inner with
      | query fragment =>
          cases hc
          exact Fragment.Has.windowed hhas _
      | records files =>
          cases hc
          exact FileSet.fragment?_skip hhas count
  | .metaFilter query predicate, needs, c, h => by
      rw [Engine.compileNode] at h
      obtain ⟨form, -, h⟩ := bind_eq_ok_iff.mp h
      split at h
      · exact has_compileNode hexpand query needs h
      · obtain ⟨inner, hinner, hc⟩ := bind_eq_ok_iff.mp h
        exact has_compileCondition (has_compileNode hexpand query needs.withMetadata hinner) hc
  | .filter call inputs, needs, c, h => by
      rw [Engine.compileNode] at h
      split at h
      · cases h
      · obtain ⟨cs, -, hc⟩ := bind_eq_ok_iff.mp h
        cases hc
        rfl
  | .datasets _, needs, c, h => file_of_mismatch h
  | .datasetsHaving _ _, needs, c, h => file_of_mismatch h
  | .datasetUnion _, needs, c, h => file_of_mismatch h
  | .namedQueries _ _, needs, c, h => file_of_mismatch h

/-- The same for the operands of a set operation. -/
theorem firstHas_compileOperands
    (hexpand : ∀ name needs c, expand name needs = .ok c → c.Has needs) :
    ∀ (operands : List Node) (needs later : ColumnSet) {cs : List Compiled},
      e.compileOperands o expand needs later operands = .ok cs → FirstHas needs later cs
  | [], needs, later, cs, h => by
      cases h
      trivial
  | operand :: rest, needs, later, cs, h => by
      rw [Engine.compileOperands] at h
      obtain ⟨first, hfirst, h⟩ := bind_eq_ok_iff.mp h
      obtain ⟨others, hothers, h⟩ := bind_eq_ok_iff.mp h
      cases h
      exact ⟨has_compileNode hexpand operand needs hfirst,
        (firstHas_compileOperands hexpand rest later later hothers).forall_mem⟩

end

end Trees

/-- A stored query becomes something with the needed columns, whatever is being expanded. -/
theorem has_expandNamed (expanding : List String) (name : QueryName) (needs : ColumnSet)
    {c : Compiled} (h : e.expandNamed o expanding name needs = .ok c) : c.Has needs := by
  rw [Engine.expandNamed] at h
  split at h
  · cases h
  rename_i hfresh
  split at h
  · cases h
  rename_i node hnode
  split at h
  · cases h
  have hfewer := NamedQueries.length_unexpanded_lt hfresh hnode
  exact has_compileNode (fun inner columns c => has_expandNamed _ inner columns) node needs h
termination_by (e.queries.unexpanded expanding).length

/-- What a call is compiled to has the columns that are needed of it. -/
theorem has_compileCall {call : Call} {c : Compiled} (h : e.compileCall o call = .ok c) :
    c.Has call.needs :=
  has_compileNode (fun name columns _ => has_expandNamed call.chain name columns) call.node
    call.needs h

/-- The fragment fulfils what was needed: it says that it has the needed columns, its text
begins with their projection, it fills them and no other ones, and each optional column that is
read somewhere in it is read from a relation that fills it. -/
structure Sql.Fragment.Fulfils (needs : ColumnSet) (f : Fragment) : Prop where
  columns_eq : f.columns = needs
  text_eq : ∃ a rest, f.query.Projects needs a ∧
    f.text = "select " ++ ", ".intercalate ((needs.projection a).map Item.write) ++ " from " ++ rest
  fills_iff : ∀ c : Column, c.IsOptional → (f.query.Fills c ↔ needs.Has c)
  isWellScoped : f.query.IsWellScoped .nothing

theorem fulfils_of_has {needs : ColumnSet} {f : Fragment} (h : f.Has needs) : f.Fulfils needs := by
  obtain ⟨a, hprojects⟩ := h.projects
  obtain ⟨rest, htext⟩ := hprojects.text_eq
  exact ⟨h.columns_eq, ⟨a, rest, hprojects, htext⟩, fun c hc => hprojects.fills_iff hc,
    h.isWellScoped .nothing⟩

/-- A query that a tree is compiled to fulfils what was needed of it, and so does each query
that is made on the way: of an operand, at any depth, or in the place of a stored query. -/
theorem fulfils_of_compileFiles (e : Engine) (o : Options) (node : Node) (needs : ColumnSet) :
    (∀ f, e.compileFiles o node needs = .ok (.query f) → f.Fulfils needs) ∧
      ∀ c f, e.Reaches o (.root needs node) c → e.compileCall o c = .ok (.query f) →
        f.Fulfils c.needs := by
  have hcall (c : Call) (f : Fragment) (h : e.compileCall o c = .ok (.query f)) :
      f.Fulfils c.needs :=
    fulfils_of_has (has_compileCall h)
  exact ⟨fun f h => hcall (.root needs node) f h, fun c f _ h => hcall c f h⟩

/-- An engine without filters and stored queries. -/
def bareEngine : Engine := ⟨.postgres, .empty, .empty⟩

/-- The files that are no child of another one and have a field. -/
def rootsWithField : Node :=
  .metaFilter (.minus .everyFile (.childrenOf .everyFile)) (.leaf (.present "k"))

theorem fulfils_of_compileFiles_roots : ∃ f inner,
    bareEngine.compileFiles {} rootsWithField .ids = .ok (.query f) ∧ f.Fulfils .ids ∧
      bareEngine.compileCall {} ⟨[], .withMetadata .ids, .minus .everyFile
        (.childrenOf .everyFile)⟩ = .ok (.query inner) ∧
      inner.Fulfils (.withMetadata .ids) := by
  have hall := fulfils_of_compileFiles bareEngine {} rootsWithField .ids
  have hstep : bareEngine.Calls {} (.root .ids rootsWithField)
      ⟨[], .withMetadata .ids, .minus .everyFile (.childrenOf .everyFile)⟩ :=
    .operand (List.nil_append _).symm (List.forall_mem_nil _)
  obtain ⟨f, hf⟩ : ∃ f, bareEngine.compileFiles {} rootsWithField .ids = .ok (.query f) :=
    ⟨_, rfl⟩
  obtain ⟨inner, hinner⟩ : ∃ f, bareEngine.compileCall {} ⟨[], .withMetadata .ids,
      .minus .everyFile (.childrenOf .everyFile)⟩ = .ok (.query f) := ⟨_, rfl⟩
  exact ⟨f, inner, hf, hall.1 f hf, hinner, hall.2 _ inner (.single hstep) hinner⟩

end CatalogQuery
