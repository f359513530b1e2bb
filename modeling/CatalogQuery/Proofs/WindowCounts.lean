/-
The integers that a store is asked to read.  A store reads integers of sixty-four bits with a
sign; constants and positions are no others, but a limit or a skip may count more rows than that.
The text of a query for files writes each count of the tree as it is, so that the store can read
the text if and only if it can read the counts; queries for datasets have no counts.
-/
import CatalogQuery.Proofs.RecordSets
import CatalogQuery.Proofs.Sql.IntegerRange

namespace CatalogQuery

open Sql (AllFit ColumnSet Fragment Query SetOperation allFit_nil)

variable {e : Engine} {o : Options} {node : Node} {needs : ColumnSet} {n : Int}

/-- The rows that a limit keeps or a skip passes over. -/
def Node.count? : Node → Option UInt64
  | .limit _ count | .skip _ count => some count
  | _ => none

/-- A limit or a skip with this count stands in the tree, or in a stored query that the tree leads
to. -/
def Engine.HasCount (e : Engine) (o : Options) (node : Node) (count : UInt64) : Prop :=
  ∃ part, e.Contains o node part ∧ part.count? = some count

theorem hasCount_iff {count : UInt64} :
    e.HasCount o node count ↔
      node.count? = some count ∨ ∃ part, e.HasPart o node part ∧ e.HasCount o part count := by
  constructor
  · rintro ⟨last, hcontains, hlast⟩
    rcases hcontains.cases_head with rfl | ⟨part, hpart, hrest⟩
    · exact Or.inl hlast
    · exact Or.inr ⟨part, hpart, last, hrest, hlast⟩
  · rintro (hown | ⟨part, hpart, last, hrest, hlast⟩)
    · exact ⟨node, .refl, hown⟩
    · exact ⟨last, .head hpart hrest, hlast⟩

/-- A reference has the counts of the stored tree. -/
theorem hasCount_named_iff {space : Option String} {name : String} {stored : Node}
    (h : e.stored? o space name = some stored) {count : UInt64} :
    e.HasCount o (.named space name) count ↔ e.HasCount o stored count := by
  have hpart (part : Node) : e.HasPart o (.named space name) part ↔ stored = part := by
    rw [hasPart_named_iff, h, Option.some.injEq]
  rw [hasCount_iff]
  simp [Node.count?, hpart]

/-- The integers of what a query for datasets becomes fit. -/
theorem allFit_of_compileDatasets {q : Query} (h : e.compileDatasets o node = .ok q) :
    AllFit q.integers :=
  (compileDatasets_induction (p := fun q => AllFit q.integers)
    (Sql.allFit_selectedDatasets e.dialect) (fun _ form hinner => hinner.having e.dialect form)
    fun _ _ => Sql.allFit_datasetUnion).1 node q h

/-- The integers of a query; a set of records has none. -/
def Compiled.integers : Compiled → List Int
  | .query fragment => fragment.query.integers
  | .records _ => []

theorem eq_map_query_of_mapM {cs : List Compiled} {fragments : List Fragment}
    (h : cs.mapM Compiled.fragment? = some fragments) : cs = fragments.map .query := by
  induction cs generalizing fragments with
  | nil =>
      cases h
      rfl
  | cons c rest ih =>
      rw [List.mapM_cons] at h
      obtain ⟨own, hown, h⟩ := Option.bind_eq_some_iff.mp h
      obtain ⟨others, hothers, h⟩ := Option.bind_eq_some_iff.mp h
      cases h
      cases c with
      | records files => cases hown
      | query fragment =>
          cases hown
          rw [ih hothers, List.map_cons]

/-- A query that combines others has the integers of these. -/
theorem integers_combine {op : SetOperation} {first : Compiled} {rest : List Compiled}
    {f : Fragment} (h : e.combine o op needs first rest = .query f) :
    f.query.integers = (first :: rest).flatMap Compiled.integers := by
  unfold Engine.combine at h
  split at h
  · rename_i hempty
    rw [List.isEmpty_iff.mp hempty, List.flatMap_singleton, h, Compiled.integers]
  split at h
  · rename_i fragment fragments hfragment hfragments
    cases h
    cases first with
    | records files => cases hfragment
    | query own =>
        cases hfragment
        rw [eq_map_query_of_mapM hfragments, Fragment.integers_combine, List.flatMap_cons,
          List.flatMap_cons, List.flatMap_map]
        rfl
  · cases h

theorem integers_compileList {files : FileList} {f : Fragment}
    (h : Engine.compileList o needs files = .ok f) : f.query.integers = [] := by
  cases files with
  | ids ids =>
      rw [Engine.compileList] at h
      split at h
      · cases h
      · cases h
        exact Fragment.integers_ofIds ids needs
  | dids dids =>
      obtain ⟨pairs, -, h⟩ := bind_eq_ok_iff.mp h
      cases pairs with
      | nil => cases h
      | cons first rest =>
          cases h
          exact Fragment.integers_ofDids first rest needs
  | names space names =>
      cases names with
      | nil => cases h
      | cons first rest =>
          obtain ⟨own, -, h⟩ := bind_eq_ok_iff.mp h
          cases h
          exact Fragment.integers_ofDids _ _ needs

/-- A tree without operands and counts has no integer that does not fit. -/
theorem mem_integers_iff_of_leaf {f : Fragment} (hf : AllFit f.query.integers)
    (hn : fitsInt64 n = false) (hcount : node.count? = none) :
    n ∈ f.query.integers ↔
      (∃ c ∈ ([] : List Compiled), n ∈ c.integers) ∨
        ∃ count, node.count? = some count ∧ n = count.toNat := by
  refine ⟨fun hmem => absurd hmem (hf.not_mem hn), ?_⟩
  rintro (⟨c, ⟨⟩, -⟩ | ⟨count, hsome, -⟩)
  cases hcount.symm.trans hsome

/-- A tree without a count has the integers of its operands. -/
theorem mem_integers_iff_of_flatMap {is : List Int} {cs : List Compiled}
    (h : is = cs.flatMap Compiled.integers) (hcount : node.count? = none) :
    n ∈ is ↔
      (∃ c ∈ cs, n ∈ c.integers) ∨ ∃ count, node.count? = some count ∧ n = count.toNat := by
  simp [h, hcount]

theorem mem_windowed_iff {f : Fragment} {window : Sql.Window} {count : UInt64}
    (hwindow : n ∈ window.integers ↔ n = count.toNat) (hcount : node.count? = some count) :
    n ∈ (f.windowed window needs).query.integers ↔
      (∃ c ∈ [Compiled.query f], n ∈ c.integers) ∨
        ∃ count, node.count? = some count ∧ n = count.toNat := by
  rw [Fragment.integers_windowed, List.mem_append, hwindow]
  simp [Compiled.integers, hcount]

theorem mem_filtered_iff {f : Fragment} (hn : fitsInt64 n = false) (dialect : Sql.Dialect)
    (form : Dnf) (hcount : node.count? = none) :
    n ∈ (f.filtered (Sql.condition dialect Fragment.metadataColumn form) needs).query.integers ↔
      (∃ c ∈ [Compiled.query f], n ∈ c.integers) ∨
        ∃ count, node.count? = some count ∧ n = count.toNat := by
  have hdocument : AllFit Fragment.metadataColumn.integers := allFit_nil
  have hcondition := (Sql.allFit_condition hdocument dialect form).not_mem hn
  rw [Fragment.integers_filtered, List.mem_append]
  simp [Compiled.integers, hcount, hcondition]

/-- Integers that do not fit are those of the operands, and the count of a limit or a skip. -/
theorem mem_integers_of_finish {cs : List Compiled} {f : Fragment} (hn : fitsInt64 n = false)
    (hlength : cs.length = node.fileOperands.length)
    (h : e.finish o needs node cs = .ok (.query f)) :
    n ∈ f.query.integers ↔
      (∃ c ∈ cs, n ∈ c.integers) ∨ ∃ count, node.count? = some count ∧ n = count.toNat := by
  cases node with
  | everyFile =>
      cases List.length_eq_zero_iff.mp hlength
      cases h
      have hnone : ∀ q ∈ (none : Option Query), AllFit q.integers := by
        rintro q ⟨⟩
      exact mem_integers_iff_of_leaf (Fragment.allFit_everyFile _ hnone _ _) hn rfl
  | filesOf query =>
      cases List.length_eq_zero_iff.mp hlength
      obtain ⟨datasets, hdatasets, h⟩ := bind_eq_ok_iff.mp h
      cases h
      have hfit := allFit_of_compileDatasets hdatasets
      have hsome : ∀ q ∈ some datasets, AllFit q.integers := by
        rintro q ⟨⟩
        exact hfit
      exact mem_integers_iff_of_leaf (Fragment.allFit_everyFile _ hsome _ _) hn rfl
  | list files =>
      cases List.length_eq_zero_iff.mp hlength
      obtain ⟨fragment, hfragment, h⟩ := bind_eq_ok_iff.mp h
      cases h
      exact mem_integers_iff_of_leaf (integers_compileList hfragment ▸ allFit_nil) hn rfl
  | union operands | join operands | minus left right =>
      cases cs with
      | nil => cases h
      | cons first rest =>
          exact mem_integers_iff_of_flatMap (integers_combine (Except.ok.inj h)) rfl
  | parentsOf query | childrenOf query =>
      obtain ⟨c, rfl, hc⟩ := exists_of_onlyOne h
      cases c with
      | records files => cases hc
      | query inner =>
          cases hc
          refine mem_integers_iff_of_flatMap ?_ rfl
          rw [Fragment.integers_step, List.flatMap_singleton, Compiled.integers]
  | limit query count =>
      obtain ⟨c, rfl, hc⟩ := exists_of_onlyOne h
      cases c with
      | records files => cases hc
      | query inner =>
          cases hc
          exact mem_windowed_iff (by simp [Sql.Window.integers]) rfl
  | skip query count =>
      obtain ⟨c, rfl, hc⟩ := exists_of_onlyOne h
      cases c with
      | records files => cases hc
      | query inner =>
          cases hc
          apply mem_windowed_iff _ rfl
          cases e.dialect with
          | postgres => simp [Sql.Window.integers]
          | sqlite =>
              -- the limit that has to stand before an offset fits
              have hne : n ≠ -1 := by
                rintro rfl
                cases hn
              simp [Sql.Window.integers, hne]
  | metaFilter query predicate =>
      obtain ⟨form, hform, h⟩ := bind_eq_ok_iff.mp h
      cases form with
      | always =>
          obtain ⟨c, rfl, hc⟩ := exists_of_onlyOne h
          cases hc
          exact mem_integers_iff_of_flatMap (List.append_nil _).symm rfl
      | never | anyOf conjunctions =>
          obtain ⟨c, rfl, hc⟩ := exists_of_onlyOne h
          cases c with
          | records files =>
              obtain ⟨kept, -, hc⟩ := bind_eq_ok_iff.mp hc
              cases hc
          | query inner =>
              obtain ⟨condition, hcondition, hc⟩ := bind_eq_ok_iff.mp hc
              cases hc
              obtain ⟨rfl, -⟩ := Sql.isAddressable_of_condition? hcondition
              exact mem_filtered_iff hn _ _ rfl
  | filter call inputs =>
      rw [Engine.finish] at h
      split at h
      · cases h
      · cases h
  | named space name | datasets selector | datasetsHaving query predicate | datasetUnion parts
  | namedQueries space pattern => cases h

/-- The integers that do not fit in what a tree becomes are the counts that it has, if it becomes a
query. -/
theorem mem_integers_compileFiles_iff {f : Fragment} (hn : fitsInt64 n = false)
    (h : e.compileFiles o node needs = .ok (.query f)) :
    n ∈ f.query.integers ↔ ∃ count, e.HasCount o node count ∧ n = count.toNat := by
  have hcall : e.compileCall o (.root needs node) = .ok (.query f) := h
  -- by induction on the calls of the compilation: every call below a query becomes a query
  refine compileCall_induction (c := .root needs node)
    (p := fun node r => ∀ f, r = .query f →
      (n ∈ f.query.integers ↔ ∃ count, e.HasCount o node count ∧ n = count.toNat))
    ?_ ?_ hcall f rfl
  · intro space name stored r hstored _ ih f hf
    simp only [hasCount_named_iff hstored]
    exact ih f hf
  · rintro needs node cs r hnamed hoperands hr f rfl
    have hfilter : ∀ call inputs, node ≠ .filter call inputs := by
      rintro call inputs rfl
      rw [Engine.finish] at hr
      split at hr <;> cases hr
    have hlength := hoperands.length_eq.symm
    have hqueries : ∀ c ∈ cs, c.fragment? ≠ none := by
      intro c hc hnone
      have hrecords := (fragment?_finish_eq_none_iff hfilter hlength hr).mpr ⟨c, hc, hnone⟩
      cases hrecords
    have hcounts : List.Forall₂ (fun operand c => n ∈ c.integers ↔
        ∃ count, e.HasCount o operand count ∧ n = count.toNat) node.fileOperands cs := by
      refine (((List.forall₂_and_left _ _).mpr ⟨hqueries, hoperands.flip⟩).imp ?_).flip
      rintro c operand ⟨hquery, ih⟩
      cases c with
      | records files => exact absurd rfl hquery
      | query inner => exact ih inner rfl
    rw [mem_integers_of_finish hn hlength hr, exists_mem_congr_of_forall₂ hcounts]
    simp only [@hasCount_iff _ _ node, hasPart_iff_mem hnamed]
    constructor
    · rintro (⟨operand, hmem, count, hcount, rfl⟩ | ⟨count, hcount, rfl⟩)
      · exact ⟨count, Or.inr ⟨operand, hmem, hcount⟩, rfl⟩
      · exact ⟨count, Or.inl hcount, rfl⟩
    · rintro ⟨count, hcount | ⟨operand, hmem, hcount⟩, rfl⟩
      · exact Or.inr ⟨count, hcount, rfl⟩
      · exact Or.inl ⟨operand, hmem, count, hcount, rfl⟩

/-- A store can read all the integers in the text of a query for files if and only if no limit or
skip in the tree, or in a stored query that it leads to, counts more rows than the greatest integer
of sixty-four bits with a sign; and it can read all those in the text of a query for datasets. -/
theorem fitsInt64_integerLiterals_iff (e : Engine) (o : Options) (node : Node) :
    (∀ needs f, e.compileFiles o node needs = .ok (.query f) →
        ((∀ n ∈ Sql.integerLiterals f.text, fitsInt64 n = true) ↔
          ∀ count, e.HasCount o node count → (count.toNat : Int) ≤ maxInt64)) ∧
      ∀ q, e.compileDatasets o node = .ok q →
        ∀ n ∈ Sql.integerLiterals q.text, fitsInt64 n = true := by
  refine ⟨fun needs f h => ?_, fun q h => ?_⟩
  · have hhas : (Compiled.query f).Has needs :=
      has_compileCall ((compileCall_root needs node).trans h)
    have hliterals : Sql.integerLiterals f.text = f.query.integers :=
      Sql.integerLiterals_text (hhas.isWellScoped .nothing)
    rw [hliterals]
    constructor
    · intro hall count hcount
      by_contra hlarge
      have hunfit : fitsInt64 (count.toNat : Int) = false := by
        rw [Bool.eq_false_iff, ne_eq, fitsInt64_iff]
        exact fun hfits => hlarge hfits.2
      have hmem := (mem_integers_compileFiles_iff hunfit h).mpr ⟨count, hcount, rfl⟩
      exact Bool.false_ne_true (hunfit.symm.trans (hall _ hmem))
    · intro hcounts n hmem
      by_contra hunfit
      obtain ⟨count, hcount, rfl⟩ :=
        (mem_integers_compileFiles_iff (Bool.eq_false_iff.mpr hunfit) h).mp hmem
      have hleast : minInt64 ≤ (count.toNat : Int) := by
        rw [minInt64]
        omega
      exact hunfit (fitsInt64_iff.mpr ⟨hleast, hcounts count hcount⟩)
  · have hgives := givesDatasets_of_compileDatasets.1 node q h
    rw [Sql.integerLiterals_text (hgives.isWellScoped .nothing)]
    exact allFit_of_compileDatasets h

/-- An engine with a stored query for the first files, as many as are one more than the greatest
integer with a sign. -/
def countingEngine : Engine where
  dialect := .sqlite
  filters := .empty
  queries := .ofList
    [(⟨"s", "first"⟩, "\x7b\"limit\":\x7b\"query\":\x7b\"basic_files\":\x7b\x7d\x7d," ++
        "\"limit\":9223372036854775808\x7d\x7d")]

def firstFiles : Node := .limit .everyFile 0x8000000000000000

def storedFirstFiles : Node := .skip (.named (some "s") "first") 3

/-- All datasets below one of them. -/
def everyDescendant : Node := .datasets ⟨some "s", "a", false, true, true⟩

theorem resolve_firstFiles : countingEngine.queries.resolve ⟨"s", "first"⟩ = .ok firstFiles :=
  NamedQueries.resolve_of_write (by decide +kernel) (by decide) (by decide)

/-- A limit whose count fits, and a skip over files of the stored query, whose count does not. -/
theorem fitsInt64_integerLiterals_iff_stored :
    (∃ f, countingEngine.compileFiles {} (.limit .everyFile 0x7FFFFFFFFFFFFFFF) .ids =
        .ok (.query f) ∧ ∀ n ∈ Sql.integerLiterals f.text, fitsInt64 n = true) ∧
      (∃ f, countingEngine.compileFiles {} storedFirstFiles .ids = .ok (.query f) ∧
        ¬∀ n ∈ Sql.integerLiterals f.text, fitsInt64 n = true) ∧
      ∃ q, countingEngine.compileDatasets {} everyDescendant = .ok q ∧
        ∀ n ∈ Sql.integerLiterals q.text, fitsInt64 n = true := by
  have hlimit : countingEngine.compileFiles {} (.limit .everyFile 0x7FFFFFFFFFFFFFFF) .ids =
      .ok (.query
        ((Fragment.everyFile .sqlite none false .ids).limit 0x7FFFFFFFFFFFFFFF .ids)) := rfl
  have hskip : ∃ f, countingEngine.compileFiles {} storedFirstFiles .ids = .ok (.query f) := by
    have hnamed : countingEngine.compileCall {} (.root .ids (.named (some "s") "first")) =
        countingEngine.compileCall {} ⟨[⟨"s", "first"⟩], .ids, firstFiles⟩ :=
      compileCall_of_not_mem ⟨some "s", rfl, rfl⟩ (by decide) resolve_firstFiles rfl
    have houter : countingEngine.compileFiles {} storedFirstFiles .ids =
        countingEngine.compileCall {} (.root .ids (.named (some "s") "first")) >>= fun c =>
          match c with
          | .query inner => .ok (.query (inner.skip .sqlite 3 .ids))
          | .records files => .ok (.records (files.skip 3)) := rfl
    rw [houter, hnamed]
    exact ⟨_, rfl⟩
  have hdatasets : countingEngine.compileDatasets {} everyDescendant =
      .ok (Sql.selectedDatasets .sqlite "s" ⟨some "s", "a", false, true, true⟩) := rfl
  have hstored : countingEngine.stored? {} (some "s") "first" = some firstFiles :=
    stored?_eq_some_iff.mpr ⟨"s", rfl, resolve_firstFiles⟩
  have hcount : countingEngine.HasCount {} storedFirstFiles 0x8000000000000000 :=
    ⟨firstFiles, .head (.operand List.mem_cons_self) (.head (.stored hstored) .refl), rfl⟩
  obtain ⟨f, hf⟩ := hskip
  refine ⟨⟨_, hlimit, ?_⟩, ⟨f, hf, ?_⟩, _, hdatasets, ?_⟩
  · refine ((fitsInt64_integerLiterals_iff countingEngine {} _).1 .ids _ hlimit).mpr ?_
    intro count hcount
    rw [hasCount_iff] at hcount
    rcases hcount with hown | ⟨part, hpart, hrest⟩
    · obtain rfl := Option.some.inj hown
      decide
    · cases (hasPart_iff_mem (by simp)).mp hpart with
      | head =>
          rcases hasCount_iff.mp hrest with hown | ⟨inner, hinner, -⟩
          · cases hown
          · cases (hasPart_iff_mem (by simp)).mp hinner
      | tail _ hmem => cases hmem
  · rw [(fitsInt64_integerLiterals_iff countingEngine {} _).1 .ids _ hf]
    intro hall
    exact absurd (hall _ hcount) (by decide)
  · exact (fitsInt64_integerLiterals_iff countingEngine {} _).2 _ hdatasets

/-- The text of a limit holds a count that does not fit. -/
theorem not_fitsInt64_firstFiles : ∃ f,
    countingEngine.compileFiles {} firstFiles .ids = .ok (.query f) ∧
      f.text = "select t.id, t.namespace, t.name, null as metadata, null as parents, " ++
        "null as children from (select f.id, f.namespace, f.name, null as metadata, " ++
        "null as parents, null as children from files f where f.retired = 0 " ++
        "order by f.id) t order by t.id limit 9223372036854775808" ∧
      9223372036854775808 ∈ Sql.integerLiterals f.text ∧
      fitsInt64 9223372036854775808 = false := by
  have hcompile : countingEngine.compileFiles {} firstFiles .ids =
      .ok (.query
        ((Fragment.everyFile .sqlite none false .ids).limit 0x8000000000000000 .ids)) := rfl
  have hhas := has_compileCall ((compileCall_root .ids firstFiles).trans hcompile)
  have hliterals := Sql.integerLiterals_text (hhas.isWellScoped .nothing)
  refine ⟨_, hcompile, ?_, ?_, rfl⟩
  · decide +kernel
  · rw [Fragment.text, hliterals]
    decide

end CatalogQuery
