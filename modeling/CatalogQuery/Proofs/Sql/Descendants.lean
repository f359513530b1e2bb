/-
The datasets that a selector stands for.  By itself it stands for the datasets of its namespace
that have its name or match it; with their children also for the datasets one edge below these,
and recursively for all that edges lead to.  Edges may lead in circles, from one namespace to
another and through names of which there is no dataset.  The query for the selector is read as it
is meant, and it returns just these rows of the table.
-/
import CatalogQuery.Proofs.Sql.Brackets
import CatalogQuery.Proofs.Sql.DatasetRows

namespace CatalogQuery.Sql

theorem readsBack_namedDatasets (dialect : Dialect) (space : String) (selector : DatasetSelector) :
    (namedDatasets dialect space selector).readsBack = true := by
  obtain ⟨given, name, pattern, withChildren, recursively⟩ := selector
  cases pattern <;> cases dialect <;> rfl

/-- The text of the query for a selector is read as the query. -/
theorem readsBack_selectedDatasets (dialect : Dialect) (space : String)
    (selector : DatasetSelector) : (selectedDatasets dialect space selector).readsBack = true := by
  have hbase := readsBack_namedDatasets dialect space selector
  have hselection : (namedDatasets dialect space selector).isSelection = true := rfl
  unfold selectedDatasets
  generalize namedDatasets dialect space selector = base at hbase hselection
  cases selector.withChildren with
  | false => exact hbase
  | true =>
      cases selector.recursively <;>
        simp [withDescendants, childrenOf, Expr.and, Expr.equal, Query.isSelection,
          Source.isSingle, BinaryOp.operandLevel, Expr.level, hbase]

/-- The query for a selector is read as it is meant, and any store answers it with the datasets of
the catalog that the selector stands for, each row of the table once and so, if the table has one
row for each namespace and name, each dataset once. -/
theorem answer_selectedDatasets (db : Database) (dialect : Dialect) (space : String)
    (selector : DatasetSelector) :
    (selectedDatasets dialect space selector).readsBack = true ∧
      ∃ datasets : List CatalogDataset,
        db.answer (selectedDatasets dialect space selector) =
          some (datasets.map fun d => (Database.datasetFields d).cells) ∧
        (∀ d, d ∈ datasets ↔
          d ∈ db.catalog.datasets ∧ db.catalog.StandsFor dialect space selector d) ∧
        datasets.Sublist db.catalog.datasets ∧
        ((db.catalog.datasets.map CatalogDataset.key).Nodup →
          (datasets.map CatalogDataset.key).Nodup) := by
  obtain ⟨keep, hreturns, hkeep⟩ :=
    @returnsDatasets_selectedDatasets db dialect space selector
  have hsublist : (db.catalog.datasets.filter keep).Sublist db.catalog.datasets :=
    List.filter_sublist
  refine ⟨readsBack_selectedDatasets dialect space selector, _, ?_, fun d => ?_, hsublist,
    (hsublist.map CatalogDataset.key).nodup⟩
  · obtain ⟨made, hmade, hrows⟩ := hreturns.returns []
    have hcells : made.map (fun row => row.2.cells) = (made.map Prod.snd).map Fields.cells :=
      (List.map_map ..).symm
    rw [Database.answer, hmade, Option.map_some, hcells, hrows, List.map_map]
    rfl
  · rw [List.mem_filter]
    exact and_congr_right (hkeep d)

/-- A dataset without metadata in some namespace. -/
def bareDataset (space name : String) : CatalogDataset where
  space := space
  name := name
  metadata := .emptyObject
  isObject := Document.isObject_emptyObject

/-- Two datasets that are one below the other in a circle, with a name between them of which there
is no dataset, and a third one above them. -/
def circleStore : Database :=
  { mixedStore with
    catalog :=
      { mixedStore.catalog with
        datasets := [bareDataset "s" "top", bareDataset "t" "deep", bareDataset "s" "apart"]
        datasetEdges :=
          [(("s", "top"), ("t", "gone")), (("t", "gone"), ("t", "deep")),
            (("t", "deep"), ("s", "top")), (("s", "apart"), ("s", "top"))] } }

/-- A dataset and all that are below it. -/
def topSelector : DatasetSelector := ⟨none, "top", false, true, true⟩

theorem answer_selectedDatasets_circle :
    (circleStore.catalog.datasets.map CatalogDataset.key).Nodup ∧
      ∃ datasets : List CatalogDataset,
        circleStore.answer (selectedDatasets .sqlite "s" topSelector) =
          some (datasets.map fun d => (Database.datasetFields d).cells) ∧
        (datasets.map CatalogDataset.key).Nodup ∧ bareDataset "t" "deep" ∈ datasets ∧
        datasets.length = 2 := by
  have hkeys : (circleStore.catalog.datasets.map CatalogDataset.key).Nodup := by decide
  obtain ⟨-, datasets, hanswer, hmem, -, honce⟩ :=
    answer_selectedDatasets circleStore .sqlite "s" topSelector
  have hdeep : circleStore.catalog.LeadsDown ("s", "top") ("t", "deep") :=
    .tail (.single (b := ("t", "gone")) (by decide)) (by decide)
  have hlength : (circleStore.answer (selectedDatasets .sqlite "s" topSelector)).map List.length =
      some 2 := by decide +kernel
  rw [hanswer, Option.map_some, List.length_map] at hlength
  refine ⟨hkeys, datasets, hanswer, honce hkeys, (hmem _).mpr ⟨by simp [circleStore], ?_⟩,
    Option.some.inj hlength⟩
  exact ⟨bareDataset "s" "top", List.mem_filter.mpr ⟨by simp [circleStore], rfl⟩, hdeep⟩

end CatalogQuery.Sql
