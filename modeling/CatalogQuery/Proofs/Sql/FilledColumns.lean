/-
The columns that the queries for files and for datasets fill.  A fragment keeps its word if it
returns the columns that it says, under the names of one relation, and reads metadata and
provenance only from relations that have them.  Every way of making one fragment of others
keeps it; where a condition on the metadata is put on a fragment, that one has to have them.
-/
import CatalogQuery.Engine.Basic
import CatalogQuery.Proofs.Result
import CatalogQuery.Proofs.Sql.Conditions
import CatalogQuery.Proofs.Sql.Scopes

namespace CatalogQuery.Sql

def ColumnSet.Has (columns : ColumnSet) : Column → Prop
  | .metadata => columns.metadata = true
  | .parents | .children => columns.provenance = true
  | _ => False

/-- The source calls one of its relations by this name. -/
def Source.Names (a : Alias) : Source → Prop
  | .table _ own | .derived _ own | .jsonItems _ _ own | .jsonMembers _ own
  | .jsonbItems _ own => a = own
  | .join left right _ | .cross left right => left.Names a ∨ right.Names a

/-- The query returns the projection of the columns, made of a relation of its source. -/
def Query.Projects (columns : ColumnSet) (a : Alias) : Query → Prop
  | .select distinct items source =>
    distinct = false ∧ items = columns.projection a ∧ source.Names a
  | .selectWhere items source _ => items = columns.projection a ∧ source.Names a
  | .ordered q _ _ => q.Projects columns a
  | .combined _ _ _ | .closure _ _ | .verbatim _ => False

/-- The fragment has the needed columns: it says so, it returns their projection, and no column
that it reads is one that some relation leaves empty. -/
structure Fragment.Has (needs : ColumnSet) (f : Fragment) : Prop where
  columns_eq : f.columns = needs
  projects : ∃ a, f.query.Projects needs a
  isWellScoped : ∀ reach, f.query.IsWellScoped reach

section Projections

variable {columns : ColumnSet} {a : Alias} {c : Column} {q : Query} {reach : Reach}

theorem ColumnSet.column_mem_projection_iff (hc : c.IsOptional) :
    (∃ own, .column own c ∈ columns.projection a) ↔ columns.Has c := by
  obtain ⟨metadata, provenance⟩ := columns
  cases c with
  | metadata => cases metadata <;> cases provenance <;> simp [projection, Has]
  | parents => cases metadata <;> cases provenance <;> simp [projection, Has]
  | children => cases metadata <;> cases provenance <;> simp [projection, Has]
  | _ => cases hc

theorem everything_not_mem_projection : .everything ∉ columns.projection a := by
  obtain ⟨metadata, provenance⟩ := columns
  cases metadata <;> cases provenance <;> simp [ColumnSet.projection]

/-- A projection fills the columns of its set and no other ones. -/
theorem Query.Projects.fills_iff (h : q.Projects columns a) (hc : c.IsOptional) :
    q.Fills c ↔ columns.Has c := by
  fun_induction Query.Projects columns a q with
  | case1 distinct items source =>
      obtain ⟨-, rfl, -⟩ := h
      simp [Query.Fills, everything_not_mem_projection, ColumnSet.column_mem_projection_iff hc]
  | case2 items source condition =>
      obtain ⟨rfl, -⟩ := h
      simp [Query.Fills, everything_not_mem_projection, ColumnSet.column_mem_projection_iff hc]
  | case3 inner key window ih => exact ih h
  | case4 => cases h
  | case5 => cases h
  | case6 => cases h

/-- A query that projects columns is written with their projection in front. -/
theorem Query.Projects.text_eq (h : q.Projects columns a) :
    ∃ rest, q.text = "select " ++ ", ".intercalate ((columns.projection a).map Item.write) ++
      " from " ++ rest := by
  have hpieces : ∃ rest, q.pieces = .word (writeSelect false (columns.projection a)) :: rest := by
    fun_induction Query.Projects columns a q with
    | case1 distinct items source =>
        obtain ⟨rfl, rfl, -⟩ := h
        exact ⟨_, rfl⟩
    | case2 items source condition =>
        obtain ⟨rfl, -⟩ := h
        exact ⟨_, rfl⟩
    | case3 inner key window ih =>
        obtain ⟨rest, hrest⟩ := ih h
        exact ⟨_, congrArg (· ++ _) hrest⟩
    | case4 => cases h
    | case5 => cases h
    | case6 => cases h
  obtain ⟨rest, hrest⟩ := hpieces
  refine ⟨writePieces rest, ?_⟩
  simp [Query.text, hrest, writePieces, Piece.write, writeSelect, String.join_cons]

theorem isWellScoped_columnIf {present : Bool} (h : present = true → reach a c) :
    (if present then Item.column a c else .missing c).IsWellScoped reach := by
  split
  · rename_i hpresent
    exact fun _ => h hpresent
  · trivial

/-- A projection is well scoped where the relation has the columns. -/
theorem ColumnSet.isWellScoped_projection (h : ∀ c, columns.Has c → reach a c) :
    ∀ item ∈ columns.projection a, item.IsWellScoped reach := by
  simp only [projection, List.forall_mem_cons]
  refine ⟨nofun, nofun, nofun, ?_, ?_, ?_, nofun⟩
  · exact isWellScoped_columnIf (h .metadata)
  · exact isWellScoped_columnIf (h .parents)
  · exact isWellScoped_columnIf (h .children)

theorem ColumnSet.table_fills (h : columns.Has c) : columns.table.Fills c := by
  unfold table
  split
  · cases c with
    | metadata | parents | children => trivial
    | _ => cases h
  · rename_i hprovenance
    cases c with
    | metadata => rfl
    | parents | children => exact absurd h hprovenance
    | _ => cases h

theorem ColumnSet.Has.isOptional (h : columns.Has c) : c.IsOptional := by
  cases c with
  | metadata | parents | children => trivial
  | _ => cases h

end Projections

section Fragments

variable {columns needs : ColumnSet} {inner : Fragment}

theorem Fragment.has_filesWhere (columns : ColumnSet) {condition : Expr}
    (hcondition : ∀ reach, condition.IsWellScoped reach) :
    Fragment.Has columns ⟨columns.filesWhere condition, columns⟩ := by
  refine ⟨rfl, ⟨.f, rfl, rfl⟩, fun reach => ⟨⟨trivial, ?_, hcondition _⟩, nofun⟩⟩
  apply ColumnSet.isWellScoped_projection
  intro c hc
  simpa [Source.reach] using ColumnSet.table_fills hc

theorem isWellScoped_inDatasets {datasets : Query} (h : ∀ reach, datasets.IsWellScoped reach)
    (reach : Reach) : (Fragment.inDatasets datasets).IsWellScoped reach := by
  refine ⟨⟨trivial, h _, ⟨nofun, nofun⟩, nofun, nofun⟩, ?_, nofun, nofun⟩
  intro item hitem
  rw [List.mem_singleton.mp hitem]
  trivial

theorem isWellScoped_notRetired (dialect : Dialect) (reach : Reach) :
    (Fragment.notRetired dialect).IsWellScoped reach := by
  cases dialect with
  | sqlite => exact ⟨nofun, trivial⟩
  | postgres => exact nofun

theorem Fragment.has_everyFile (dialect : Dialect) {datasets : Option Query}
    (h : ∀ q ∈ datasets, ∀ reach, q.IsWellScoped reach) (includeRetired : Bool)
    (columns : ColumnSet) : (everyFile dialect datasets includeRetired columns).Has columns := by
  cases datasets with
  | none =>
      cases includeRetired with
      | true =>
          refine ⟨rfl, ⟨.f, rfl, rfl, rfl⟩, fun reach => ⟨⟨trivial, ?_⟩, nofun⟩⟩
          apply ColumnSet.isWellScoped_projection
          intro c hc
          simpa [Source.reach] using ColumnSet.table_fills hc
      | false => exact has_filesWhere columns (isWellScoped_notRetired dialect)
  | some q =>
      have hdatasets := isWellScoped_inDatasets (h q rfl)
      cases includeRetired with
      | true => exact has_filesWhere columns hdatasets
      | false =>
          apply has_filesWhere columns
          exact fun reach => ⟨hdatasets reach, isWellScoped_notRetired dialect reach⟩

theorem Fragment.has_ofIds (ids : List String) (columns : ColumnSet) :
    (ofIds ids columns).Has columns :=
  has_filesWhere columns fun _ => nofun

theorem isWellScoped_anyNamed (reach : Reach) (first : String × String)
    (rest : List (String × String)) : (Fragment.anyNamed first rest).IsWellScoped reach := by
  have hnamed (did : String × String) : (Fragment.named did).IsWellScoped reach :=
    ⟨⟨nofun, trivial⟩, nofun, trivial⟩
  induction rest generalizing first with
  | nil => exact hnamed first
  | cons next rest ih => exact ⟨hnamed first, ih next⟩

theorem Fragment.has_ofDids (first : String × String) (rest : List (String × String))
    (columns : ColumnSet) : (ofDids first rest columns).Has columns :=
  has_filesWhere columns fun reach => isWellScoped_anyNamed reach first rest

/-- The identifiers of an operand are well scoped where it is. -/
theorem isWellScoped_identifiers {reach : Reach} {q : Query} (h : q.IsWellScoped reach)
    (a : Alias) : (Query.select false [.column a .id] (.derived q a)).IsWellScoped reach := by
  refine ⟨h, fun item hitem => ?_⟩
  rw [List.mem_singleton.mp hitem]
  exact nofun

/-- Queries that are combined one after the other are well scoped if each of them is. -/
theorem isWellScoped_foldl_combined {α : Type} {reach : Reach} (op : SetOperation)
    {query : α → Nat → Query} {operands : List α}
    (h : ∀ x ∈ operands, ∀ i, (query x i).IsWellScoped reach) {q : Query}
    (hq : q.IsWellScoped reach) (n : Nat) :
    ((operands.zipIdx n).foldl (fun q (x, i) => .combined op q (query x i)) q).IsWellScoped
      reach := by
  induction operands generalizing q n with
  | nil => exact hq
  | cons x rest ih =>
      obtain ⟨hx, hrest⟩ := List.forall_mem_cons.mp h
      have hstep : (Query.combined op q (query x n)).IsWellScoped reach := ⟨hq, hx n⟩
      exact ih hrest hstep (n + 1)

/-- Combined operands are read by their identifiers alone, so any columns of theirs will do. -/
theorem Fragment.has_combine (op : SetOperation) {first : Fragment} {rest : List Fragment}
    (hfirst : ∀ reach, first.query.IsWellScoped reach)
    (hrest : ∀ f ∈ rest, ∀ reach, f.query.IsWellScoped reach) (columns : ColumnSet) :
    (combine op first rest columns).Has columns := by
  apply has_filesWhere
  refine fun reach => ⟨nofun, isWellScoped_foldl_combined op ?_ ?_ 1⟩
  · exact fun f hf i => isWellScoped_identifiers (hrest f hf _) (.u i)
  · exact isWellScoped_identifiers (hfirst _) (.u 0)

theorem Fragment.has_step (direction : Direction)
    (h : ∀ reach, inner.query.IsWellScoped reach) (columns : ColumnSet) :
    (inner.step direction columns).Has columns := by
  apply has_filesWhere
  refine fun reach => ⟨nofun, trivial, fun item hitem => ?_, ?_, isWellScoped_identifiers (h _) .c⟩
  · rw [List.mem_singleton.mp hitem]
    cases direction <;> exact nofun
  · cases direction <;> exact nofun

/-- A relation that projects the columns has them in reach. -/
theorem Fragment.Has.reach_as (h : inner.Has columns) (outer : Reach) {c : Column}
    (hc : columns.Has c) : (inner.as .t).reach outer .t c := by
  obtain ⟨a, hprojects⟩ := h.projects
  simpa [Fragment.as, Source.reach] using (hprojects.fills_iff hc.isOptional).mpr hc

theorem Fragment.Has.windowed (h : inner.Has columns) (window : Window) :
    (inner.windowed window columns).Has columns := by
  refine ⟨rfl, ⟨.t, rfl, rfl, rfl⟩, fun reach => ⟨⟨h.isWellScoped reach, ?_⟩, nofun⟩⟩
  apply ColumnSet.isWellScoped_projection
  exact fun c hc => h.reach_as reach hc

/-- A condition on the metadata is put on a fragment that has them, whether or not they are
needed afterwards. -/
theorem Fragment.Has.filtered (h : inner.Has needs.withMetadata) (dialect : Dialect)
    (form : Dnf) : (inner.filtered (condition dialect metadataColumn form) needs).Has needs := by
  refine ⟨rfl, ⟨.t, rfl, rfl⟩, fun reach => ⟨h.isWellScoped reach, ?_, ?_⟩⟩
  · apply ColumnSet.isWellScoped_projection
    intro c hc
    apply h.reach_as reach
    cases c with
    | metadata => rfl
    | parents | children => exact hc
    | _ => cases hc
  · apply isWellScoped_condition
    exact fun _ => h.reach_as reach rfl

end Fragments

section Datasets

/-- The query may stand anywhere and returns metadata. -/
structure Query.GivesDatasets (q : Query) : Prop where
  isWellScoped : ∀ reach, q.IsWellScoped reach
  fills : q.Fills .metadata

variable {q inner : Query} {reach : Reach}

theorem fills_datasetColumns (source : Source) (condition : Expr) :
    (Query.selectWhere datasetColumns source condition).Fills .metadata :=
  Or.inl ⟨.d, by simp [datasetColumns]⟩

theorem isWellScoped_datasetColumns (h : reach .d .metadata) :
    ∀ item ∈ datasetColumns, item.IsWellScoped reach := by
  simp [datasetColumns, Item.IsWellScoped, Column.IsOptional, h]

/-- The datasets with a condition that reads none of their metadata. -/
theorem givesDatasets_selectWhere {condition : Expr}
    (h : ∀ reach, condition.IsWellScoped reach) :
    (Query.selectWhere datasetColumns (.table .datasets .d) condition).GivesDatasets := by
  refine ⟨fun reach => ⟨trivial, isWellScoped_datasetColumns ?_, h _⟩, fills_datasetColumns _ _⟩
  simp [Source.reach, Table.Fills]

theorem givesDatasets_namedDatasets (dialect : Dialect) (space : String)
    (selector : DatasetSelector) : (namedDatasets dialect space selector).GivesDatasets := by
  apply givesDatasets_selectWhere
  refine fun reach => ⟨⟨nofun, trivial⟩, ?_⟩
  unfold nameCondition
  split
  · exact ⟨nofun, trivial⟩
  · exact ⟨nofun, trivial⟩
  · exact nofun

/-- No key of a dataset is an optional column. -/
theorem isWellScoped_childrenOf {parents : Source} (h : ∀ reach, parents.IsWellScoped reach)
    (a : Alias) (reach : Reach) : (childrenOf parents a).IsWellScoped reach := by
  refine ⟨⟨trivial, h _, ⟨nofun, nofun⟩, nofun, nofun⟩, ?_⟩
  simp [Item.IsWellScoped, Column.IsOptional]

theorem isWellScoped_withDescendants {base : Query} (h : ∀ reach, base.IsWellScoped reach)
    (recursively : Bool) (reach : Reach) :
    (withDescendants base recursively).IsWellScoped reach := by
  have hnamed : (Query.select false [.column .b .space, .column .b .name]
      (.derived base .b)).IsWellScoped reach :=
    ⟨h reach, by simp [Item.IsWellScoped, Column.IsOptional]⟩
  cases recursively with
  | true =>
      have hparents (outer : Reach) : (Source.table .closure .c).IsWellScoped outer := trivial
      exact ⟨hnamed, isWellScoped_childrenOf hparents .c reach⟩
  | false =>
      have hparents (outer : Reach) : (Source.derived base .p).IsWellScoped outer := h outer
      exact ⟨hnamed, isWellScoped_childrenOf hparents .p reach⟩

theorem givesDatasets_selectedDatasets (dialect : Dialect) (space : String)
    (selector : DatasetSelector) : (selectedDatasets dialect space selector).GivesDatasets := by
  have hbase := givesDatasets_namedDatasets dialect space selector
  unfold selectedDatasets
  cases selector.withChildren with
  | false => exact hbase
  | true =>
      apply givesDatasets_selectWhere
      intro reach
      have hbelow := isWellScoped_withDescendants hbase.isWellScoped selector.recursively reach
      refine ⟨hbelow, fun item hitem => ?_, ⟨nofun, nofun⟩, nofun, nofun⟩
      rw [List.mem_singleton.mp hitem]
      trivial

theorem Query.GivesDatasets.having (h : inner.GivesDatasets) (dialect : Dialect) (form : Dnf) :
    (datasetsHaving inner (condition dialect datasetMetadata form)).GivesDatasets := by
  have hreach (outer : Reach) : (Source.derived inner .d).reach outer .d .metadata := by
    simpa [Source.reach] using h.fills
  refine ⟨fun reach => ⟨h.isWellScoped reach, isWellScoped_datasetColumns (hreach reach), ?_⟩,
    fills_datasetColumns _ _⟩
  apply isWellScoped_condition
  exact fun _ => hreach reach

theorem Query.GivesDatasets.operandRows (h : q.GivesDatasets) (i : Nat) :
    (operandRows q i).GivesDatasets := by
  refine ⟨fun reach => ⟨h.isWellScoped reach, fun item hitem => ?_⟩, ?_⟩
  · rw [List.mem_singleton.mp hitem]
    trivial
  · exact Or.inr ⟨List.mem_singleton_self _, h.fills⟩

theorem fills_foldl_combined {queries : List Query} (h : ∀ q ∈ queries, q.GivesDatasets)
    (hq : q.Fills .metadata) (n : Nat) :
    ((queries.zipIdx n).foldl (fun q (r, i) => .combined .union q (operandRows r i)) q).Fills
      .metadata := by
  induction queries generalizing q n with
  | nil => exact hq
  | cons first rest ih =>
      obtain ⟨hfirst, hrest⟩ := List.forall_mem_cons.mp h
      have hstep : (Query.combined .union q (operandRows first n)).Fills .metadata :=
        ⟨hq, (hfirst.operandRows n).fills⟩
      exact ih hrest hstep (n + 1)

theorem givesDatasets_datasetUnion {first : Query} {rest : List Query}
    (hfirst : first.GivesDatasets) (hrest : ∀ q ∈ rest, q.GivesDatasets) :
    (datasetUnion first rest).GivesDatasets := by
  refine ⟨fun reach => isWellScoped_foldl_combined .union ?_ ?_ 1, ?_⟩
  · exact fun q hq i => ((hrest q hq).operandRows i).isWellScoped reach
  · exact (hfirst.operandRows 0).isWellScoped reach
  · exact fills_foldl_combined hrest (hfirst.operandRows 0).fills 1

end Datasets

end CatalogQuery.Sql
