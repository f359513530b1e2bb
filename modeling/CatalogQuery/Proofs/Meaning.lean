/-
What trees of set operations and steps stand for.  A list stands for the files it names, a
query for the files of datasets for those that belong to them, and an operation for what it
makes of the sets of its operands.
-/
import CatalogQuery.Proofs.Compiled
import Mathlib.Data.List.TakeWhile

namespace CatalogQuery

open Sql (CatalogFile ColumnSet Database Fragment)

variable {db : Database} {store : Responses} {e : Engine} {o : Options}

/-- A text without a colon is not split. -/
theorem splitDid_of_notMem {did : String} (h : ':' ∉ did.toList) :
    Engine.splitDid did = none := by
  have hdrop : did.toList.dropWhile (fun c => decide (c ≠ ':')) = [] := by
    rw [List.dropWhile_eq_nil_iff]
    intro c hc
    exact decide_eq_true fun heq => h (heq ▸ hc)
  simp only [Engine.splitDid, hdrop]

/-- A text is split at its first colon. -/
theorem splitDid_append {space name : String} (h : ':' ∉ space.toList) :
    Engine.splitDid (space ++ ":" ++ name) = some (space, name) := by
  have hall : ∀ c ∈ space.toList, decide (c ≠ ':') = true := by
    intro c hc
    exact decide_eq_true fun heq => h (heq ▸ hc)
  have htext : (space ++ ":" ++ name).toList = space.toList ++ ':' :: name.toList := by
    simp
  have hspace : (space.toList ++ ':' :: name.toList).takeWhile (fun c => decide (c ≠ ':')) =
      space.toList := by
    rw [List.takeWhile_append_of_pos hall]
    simp
  have hname : (space.toList ++ ':' :: name.toList).dropWhile (fun c => decide (c ≠ ':')) =
      ':' :: name.toList := by
    rw [List.dropWhile_append_of_pos hall]
    simp
  simp only [Engine.splitDid, htext, hspace, hname, String.ofList_toList]

theorem exists_eq_append {did : String} (h : ':' ∈ did.toList) :
    ∃ space name, did = space ++ ":" ++ name ∧ ':' ∉ space.toList := by
  obtain ⟨first, rest, htext, hfirst⟩ := List.eq_append_cons_of_mem h
  refine ⟨String.ofList first, String.ofList rest, ?_, by simpa using hfirst⟩
  apply String.toList_inj.mp
  simp [htext]

/-- The text identifies the files of a namespace and a name: it is the name after the
namespace and a colon, or the name alone where the namespace is the default one. -/
def Options.Identifies (o : Options) (did space name : String) : Prop :=
  (did = space ++ ":" ++ name ∧ ':' ∉ space.toList) ∨
    (':' ∉ did.toList ∧ o.defaultNamespace = some space ∧ did = name)

theorem readDid_eq_ok_iff (o : Options) (did space name : String) :
    Engine.readDid o did = .ok (space, name) ↔ o.Identifies did space name := by
  by_cases hcolon : ':' ∈ did.toList
  · obtain ⟨first, rest, rfl, hfirst⟩ := exists_eq_append hcolon
    have hread : Engine.readDid o (first ++ ":" ++ rest) = .ok (first, rest) := by
      simp only [Engine.readDid, splitDid_append hfirst]
    rw [hread]
    constructor
    · intro h
      cases h
      exact Or.inl ⟨rfl, hfirst⟩
    · rintro (⟨hgiven, hspace⟩ | ⟨hnone, -, -⟩)
      · have hsplit : Engine.splitDid (first ++ ":" ++ rest) = some (first, rest) :=
          splitDid_append hfirst
        rw [hgiven, splitDid_append hspace] at hsplit
        cases hsplit
        rfl
      · exact absurd hcolon hnone
  · have hgiven : ¬did = space ++ ":" ++ name := by
      rintro rfl
      simp at hcolon
    simp only [Engine.readDid, splitDid_of_notMem hcolon, Options.Identifies, hgiven, false_and,
      false_or, hcolon, not_false_eq_true, true_and, Options.requireSpace]
    cases o.defaultNamespace <;> simp [Except.map]

theorem exists_readDid_iff (o : Options) (did : String) :
    (∃ pair, Engine.readDid o did = .ok pair) ↔
      ':' ∈ did.toList ∨ o.defaultNamespace.isSome = true := by
  by_cases hcolon : ':' ∈ did.toList
  · obtain ⟨first, rest, hdid, hfirst⟩ := exists_eq_append hcolon
    have hread := (readDid_eq_ok_iff o did first rest).mpr (Or.inl ⟨hdid, hfirst⟩)
    exact ⟨fun _ => Or.inl hcolon, fun _ => ⟨_, hread⟩⟩
  · simp only [Engine.readDid, splitDid_of_notMem hcolon, hcolon, false_or, Options.requireSpace]
    cases o.defaultNamespace <;> simp [Except.map]

def FileList.meaning (o : Options) (c : Sql.Catalog) : FileList → Set String
  | .ids entries => c.idsWhere fun f => f.id ∈ entries
  | .dids entries => c.idsWhere fun f => ∃ did ∈ entries, o.Identifies did f.space f.name
  | .names space entries =>
    c.idsWhere fun f => (space <|> o.defaultNamespace) = some f.space ∧ f.name ∈ entries

/-- The list has entries, and each of them has a namespace. -/
def FileList.IsWellFormed (o : Options) : FileList → Prop
  | .ids entries => entries ≠ []
  | .dids entries =>
    (∀ did ∈ entries, ':' ∈ did.toList ∨ o.defaultNamespace.isSome = true) ∧ entries ≠ []
  | .names space entries => entries ≠ [] ∧ (space <|> o.defaultNamespace).isSome = true

/-- The file belongs to a dataset that a query for datasets is answered with. -/
def BelongsToAnswer (e : Engine) (o : Options) (db : Database) (store : Responses) (query : Node)
    (f : CatalogFile) : Prop :=
  ∃ records, ((e.datasets o query).run store).2 = .ok records ∧
    ∃ d ∈ records, (f.id, (d.space, d.name)) ∈ db.catalog.memberships

mutual

/-- The set that a tree of set operations and steps stands for. -/
def Node.meaning (e : Engine) (o : Options) (db : Database) (store : Responses) :
    Node → Set String
  | .everyFile => db.catalog.idsWhere (CatalogFile.isVisible o.includeRetired)
  | .filesOf query =>
    db.catalog.idsWhere fun f =>
      BelongsToAnswer e o db store query f ∧ f.isVisible o.includeRetired
  | .list files => files.meaning o db.catalog
  | .union operands => RecordStream.anyOf (meanings e o db store operands)
  | .join operands => RecordStream.allOf (meanings e o db store operands)
  | .minus left right => left.meaning e o db store \ right.meaning e o db store
  | .parentsOf query =>
    RecordStream.reached (db.catalog.Steps .parents) (query.meaning e o db store)
  | .childrenOf query =>
    RecordStream.reached (db.catalog.Steps .children) (query.meaning e o db store)
  | _ => ∅

/-- The sets that several trees stand for. -/
def Node.meanings (e : Engine) (o : Options) (db : Database) (store : Responses) :
    List Node → List (Set String)
  | [] => []
  | operand :: rest => operand.meaning e o db store :: meanings e o db store rest

end

mutual

/-- The tree is made of set operations with operands, steps, well-formed lists and queries
for datasets that are accepted. -/
def Node.IsWellFormed (e : Engine) (o : Options) : Node → Prop
  | .everyFile => True
  | .filesOf query => ∃ q, e.compileDatasets o query = .ok q
  | .list files => files.IsWellFormed o
  | .union operands | .join operands => AllWellFormed e o operands ∧ operands ≠ []
  | .minus left right => left.IsWellFormed e o ∧ right.IsWellFormed e o
  | .parentsOf query | .childrenOf query => query.IsWellFormed e o
  | _ => False

def Node.AllWellFormed (e : Engine) (o : Options) : List Node → Prop
  | [] => True
  | operand :: rest => operand.IsWellFormed e o ∧ AllWellFormed e o rest

end

mutual

/-- Every query for datasets that the tree asks files of raises no error, if it is accepted. -/
def Node.DatasetsAnswered (e : Engine) (o : Options) (db : Database) : Node → Prop
  | .filesOf query => ∀ q, e.compileDatasets o query = .ok q → q.IsAnswered db
  | .union operands | .join operands => AllDatasetsAnswered e o db operands
  | .minus left right => left.DatasetsAnswered e o db ∧ right.DatasetsAnswered e o db
  | .parentsOf query | .childrenOf query => query.DatasetsAnswered e o db
  | _ => True

/-- The same of each tree of a list. -/
def Node.AllDatasetsAnswered (e : Engine) (o : Options) (db : Database) : List Node → Prop
  | [] => True
  | operand :: rest => operand.DatasetsAnswered e o db ∧ AllDatasetsAnswered e o db rest

end

theorem meanings_ne_nil_iff (operands : List Node) :
    Node.meanings e o db store operands ≠ [] ↔ operands ≠ [] := by
  cases operands with
  | nil => simp [Node.meanings]
  | cons operand rest => simp [Node.meanings]

theorem idsWhere_congr {c : Sql.Catalog} {keep kept : CatalogFile → Prop}
    (h : ∀ f, keep f ↔ kept f) : c.idsWhere keep = c.idsWhere kept := by
  rw [funext fun f => propext (h f)]

def BothSelect (db : Database) (ids : Set String) (a b : Fragment) : Prop :=
  a.Selects db ids ∧ b.Selects db ids

/-- A list is rejected or selects the same files whatever columns are needed. -/
theorem agree_compileList (files : FileList) (needs others : ColumnSet) :
    Agree (files.IsWellFormed o) (BothSelect db (files.meaning o db.catalog))
      (Engine.compileList o needs files) (Engine.compileList o others files) := by
  cases files with
  | ids entries =>
      cases entries with
      | nil => exact .error (fun h => h rfl) _
      | cons first rest => exact .ok nofun ⟨Sql.selects_ofIds _, Sql.selects_ofIds _⟩
  | dids entries =>
      have hread := Agree.refl (entries.mapM (Engine.readDid o))
      have hwell : (∃ pairs, entries.mapM (Engine.readDid o) = .ok pairs) ↔
          ∀ did ∈ entries, ':' ∈ did.toList ∨ o.defaultNamespace.isSome = true :=
        exists_mapM_iff.trans
          (forall_congr' fun did => imp_congr_right fun _ => exists_readDid_iff o did)
      apply (hread.congr hwell).bind
      rintro pairs _ ⟨rfl, hpairs⟩
      have hmem (f : CatalogFile) : (∃ did ∈ entries, o.Identifies did f.space f.name) ↔
          (f.space, f.name) ∈ pairs := by
        rw [mem_of_mapM hpairs]
        simp only [readDid_eq_ok_iff]
      have hmeaning : FileList.meaning o db.catalog (.dids entries) =
          db.catalog.idsWhere fun f => (f.space, f.name) ∈ pairs := idsWhere_congr hmem
      have hempty := eq_nil_iff_of_mapM hpairs
      rw [hmeaning]
      cases pairs with
      | nil => exact .error (fun h => h (hempty.mp rfl)) _
      | cons first rest =>
          refine .ok (fun h => ?_) ⟨Sql.selects_ofDids first rest, Sql.selects_ofDids first rest⟩
          cases hempty.mpr h
  | names space entries =>
      cases entries with
      | nil => exact .error (fun h => h.1 rfl) _
      | cons first rest =>
          have hspace := Agree.refl (o.requireSpace space "name list")
          have hwell : (∃ given, o.requireSpace space "name list" = .ok given) ↔
              (FileList.names space (first :: rest)).IsWellFormed o := by
            simp only [Options.requireSpace, FileList.IsWellFormed]
            cases space <|> o.defaultNamespace <;> simp
          apply (hspace.congr hwell).map
          rintro given _ ⟨rfl, hgiven⟩
          have hmeaning : FileList.meaning o db.catalog (.names space (first :: rest)) =
              db.catalog.idsWhere fun f =>
                (f.space, f.name) ∈ (given, first) :: rest.map fun name => (given, name) := by
            apply idsWhere_congr
            intro f
            have hgivenSpace : (space <|> o.defaultNamespace) = some given := by
              simp only [Options.requireSpace] at hgiven
              split at hgiven
              · cases hgiven
                assumption
              · cases hgiven
            have hnames : (given, first) :: rest.map (fun name => (given, name)) =
                (first :: rest).map fun name => (given, name) := rfl
            rw [hgivenSpace, hnames, List.mem_map, Option.some.injEq]
            constructor
            · rintro ⟨rfl, hname⟩
              exact ⟨f.name, hname, rfl⟩
            · rintro ⟨name, hname, hpair⟩
              obtain ⟨rfl, rfl⟩ := Prod.mk.inj hpair
              exact ⟨rfl, hname⟩
          rw [hmeaning]
          exact ⟨Sql.selects_ofDids _ _, Sql.selects_ofDids _ _⟩

/-- The files of the datasets that a query for datasets is answered with. -/
theorem belongsToAnswer_iff (hstore : store.Answers db) {query : Node} {q : Sql.Query}
    {datasets : List Sql.CatalogDataset} (hcompile : e.compileDatasets o query = .ok q)
    (h : q.ReturnsDatasets db datasets) (f : CatalogFile) :
    BelongsToAnswer e o db store query f ↔ db.catalog.BelongsTo datasets f := by
  obtain ⟨records, hrun, hpairs⟩ := exists_run_datasets hstore hcompile h
  have hmem (pair : String × String) : (∃ d ∈ records, (d.space, d.name) = pair) ↔
      ∃ d ∈ datasets, (d.space, d.name) = pair := by
    rw [← List.mem_map, ← List.mem_map, hpairs]
  constructor
  · rintro ⟨answered, hanswered, d, hd, hmember⟩
    rw [hrun] at hanswered
    cases hanswered
    obtain ⟨d', hd', hpair⟩ := (hmem _).mp ⟨d, hd, rfl⟩
    exact ⟨d', hd', hpair ▸ hmember⟩
  · rintro ⟨d, hd, hmember⟩
    obtain ⟨d', hd', hpair⟩ := (hmem _).mpr ⟨d, hd, rfl⟩
    exact ⟨records, hrun, d', hd', hpair ▸ hmember⟩

theorem agree_filesOf (hstore : store.Answers db) (hdialect : db.dialect = e.dialect)
    (query : Node) (needs others : ColumnSet) :
    Agree (∃ q, e.compileDatasets o query = .ok q)
      (BothDenote db store (Node.DatasetsAnswered e o db (.filesOf query))
        (Node.meaning e o db store (.filesOf query)))
      (e.compileDatasets o query >>= fun datasets =>
        .ok (.query (.everyFile e.dialect (some datasets) o.includeRetired needs)))
      (e.compileDatasets o query >>= fun datasets =>
        .ok (.query (.everyFile e.dialect (some datasets) o.includeRetired others))) := by
  apply (Agree.refl (e.compileDatasets o query)).map
  rintro q _ ⟨rfl, hcompile⟩ hanswered
  rw [Node.DatasetsAnswered] at hanswered
  obtain ⟨datasets, hdatasets⟩ :=
    Sql.exists_of_compileDatasets hdialect query hcompile (hanswered q hcompile)
  have hmeaning : Node.meaning e o db store (.filesOf query) = db.catalog.idsWhere fun f =>
      db.catalog.BelongsTo datasets f ∧ f.isVisible o.includeRetired :=
    idsWhere_congr fun f => and_congr_left fun _ =>
      belongsToAnswer_iff hstore hcompile hdatasets f
  rw [hmeaning, ← hdialect]
  exact ⟨Sql.selects_filesOf hdatasets.returns o.includeRetired,
    Sql.selects_filesOf hdatasets.returns o.includeRetired⟩

end CatalogQuery
