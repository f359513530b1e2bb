/-
What the queries for files select: files that are given or belong to datasets, what set
operations make of others, and the files one step away from others.
-/
import CatalogQuery.Proofs.Sql.FileSets

namespace CatalogQuery.Sql

variable {db : Database} {columns : ColumnSet} {scope : Scope} {f : CatalogFile} {known : Bool}

theorem Fragment.Selects.congr {fragment : Fragment} {ids others : Set String}
    (h : fragment.Selects db ids) (hids : ∀ id, id ∈ ids ↔ id ∈ others) :
    fragment.Selects db others := by
  obtain ⟨files, hreturns, hfiles, hnodup, hmem⟩ := h
  exact ⟨files, hreturns, hfiles, hnodup, fun id => (hmem id).trans (hids id)⟩

theorem selects_oneOf_id (ids : List String) :
    (Expr.oneOf (.column .f .id) ids).Selects db (db.fileScope columns scope f) known
      (ids.contains f.id) := by
  apply Expr.Selects.of_truth
  apply Expr.truth_of_eval
  simp only [Expr.eval, column?_id, Option.bind_eq_bind, Option.bind_some, amongValues_text,
    Option.pure_def]

theorem selects_named (did : String × String) :
    (Fragment.named did).Selects db (db.fileScope columns scope f) known
      (decide (did = (f.space, f.name))) := by
  have hspace : (Expr.column .f .space).eval db (db.fileScope columns scope f) =
      some (.text f.space) := by
    simp only [Expr.eval, column?_space]
  have hname : (Expr.column .f .name).eval db (db.fileScope columns scope f) =
      some (.text f.name) := by
    simp only [Expr.eval, column?_name]
  have hdid : decide (did = (f.space, f.name)) =
      (decide (f.space = did.1) && decide (f.name = did.2)) := by
    obtain ⟨space, name⟩ := did
    rw [Bool.eq_iff_iff, Bool.and_eq_true, decide_eq_true_iff, decide_eq_true_iff,
      decide_eq_true_iff, Prod.mk.injEq, eq_comm, @eq_comm _ name]
  rw [hdid]
  exact ((selects_sameText hspace (by simp only [Expr.eval])).and
    (selects_sameText hname (by simp only [Expr.eval]))).group

theorem selects_anyNamed (first : String × String) (rest : List (String × String)) :
    (Fragment.anyNamed first rest).Selects db (db.fileScope columns scope f) known
      ((first :: rest).any fun did => decide (did = (f.space, f.name))) := by
  induction rest generalizing first with
  | nil =>
      rw [List.any_cons, List.any_nil, Bool.or_false]
      exact selects_named first
  | cons next rest ih =>
      rw [Fragment.anyNamed, List.any_cons]
      exact (selects_named first).or (ih next)

theorem selects_notRetired :
    (Fragment.notRetired db.dialect).Selects db (db.fileScope columns scope f) known
      (!f.retired) := by
  have hretired : (Expr.column .f .retired).eval db (db.fileScope columns scope f) =
      some (db.flag f.retired) := by
    simp only [Expr.eval, column?_retired]
  cases hdialect : db.dialect with
  | sqlite =>
      rw [Database.flag, hdialect] at hretired
      apply Expr.Selects.of_truth
      apply Expr.truth_of_eval_truth
      rw [Fragment.notRetired, Expr.equal, Expr.eval, hretired]
      cases f.retired <;> rfl
  | postgres =>
      rw [Database.flag, hdialect] at hretired
      apply Expr.Selects.not
      apply Expr.Selects.of_truth
      exact Expr.truth_of_eval_truth hretired

/-- The file belongs to one of some datasets. -/
def Catalog.BelongsTo (c : Catalog) (datasets : List CatalogDataset) (f : CatalogFile) : Prop :=
  ∃ d ∈ datasets, (f.id, (d.space, d.name)) ∈ c.memberships

/-- The condition that a file belongs to one of the datasets of a query. -/
theorem selects_inDatasets {q : Query} {datasets : List CatalogDataset} {b : Bool}
    (h : q.Returns db (datasets.map Database.datasetFields))
    (hb : b = true ↔ db.catalog.BelongsTo datasets f) :
    (Fragment.inDatasets q).Selects db (db.fileScope columns scope f) known b := by
  have hsame (m : String × (String × String)) (d : CatalogDataset) (inner : Scope) :
      ((Expr.equal (.column .d .space) (.column .fd .datasetSpace)).and
        (.equal (.column .d .name) (.column .fd .datasetName))).Selects db
          ((.d, Database.datasetFields d) :: (.fd, Database.membershipFields m) :: inner) false
          (decide (d.space = m.2.1) && decide (d.name = m.2.2)) :=
    (selects_sameText rfl rfl).and (selects_sameText rfl rfl)
  have hfile (m : String × (String × String)) (d : CatalogDataset) :
      (Expr.equal (.column .fd .fileId) (.column .f .id)).Selects db
        ((.d, Database.datasetFields d) :: (.fd, Database.membershipFields m) ::
          db.fileScope columns scope f) false (decide (m.1 = f.id)) := by
    have hid : (Expr.column .f .id).eval db ((.d, Database.datasetFields d) ::
        (.fd, Database.membershipFields m) :: db.fileScope columns scope f) =
          some (.text f.id) := by
      have hcolumn : (db.fileScope columns scope f).column? .f .id = some (.text f.id) :=
        column?_id f
      rw [Expr.eval]
      exact hcolumn
    exact selects_sameText rfl hid
  have hjoin := eval_join
    (fun m d => decide (d.space = m.2.1) && decide (d.name = m.2.2))
    (gives_table db .filesDatasets .fd) (h.gives_derived .d)
    fun m _ d _ => hsame m d (db.fileScope columns scope f)
  have hb' : b = ((db.catalog.memberships ×ˢ datasets).filter fun pair =>
      decide (pair.2.space = pair.1.2.1) && decide (pair.2.name = pair.1.2.2)).any
        fun pair => decide (pair.1.1 = f.id) := by
    rw [Bool.eq_iff_iff, hb, List.any_eq_true]
    simp only [List.mem_filter, Bool.and_eq_true, decide_eq_true_iff]
    constructor
    · rintro ⟨d, hd, hmember⟩
      exact ⟨(_, d), ⟨List.pair_mem_product.mpr ⟨hmember, hd⟩, rfl, rfl⟩, rfl⟩
    · rintro ⟨⟨⟨id, space, name⟩, d⟩, ⟨hpair, hspace, hname⟩, hid⟩
      obtain ⟨hmember, hd⟩ := List.pair_mem_product.mp hpair
      simp only at hspace hname hid
      rw [← hspace, ← hname, hid] at hmember
      exact ⟨d, hd, hmember⟩
  rw [hb']
  exact selects_existsWhere hjoin fun pair _ => hfile pair.1 pair.2

theorem selects_ofIds (ids : List String) :
    (Fragment.ofIds ids columns).Selects db (db.catalog.idsWhere fun f => f.id ∈ ids) := by
  apply selects_filesWhere
  intro scope f _ b hb
  have hcontains : b = ids.contains f.id := by
    rw [Bool.eq_iff_iff, hb, List.contains_iff_mem]
  rw [hcontains]
  exact selects_oneOf_id ids

theorem selects_ofDids (first : String × String) (rest : List (String × String)) :
    (Fragment.ofDids first rest columns).Selects db
      (db.catalog.idsWhere fun f => (f.space, f.name) ∈ first :: rest) := by
  apply selects_filesWhere
  intro scope f _ b hb
  have hany : b = (first :: rest).any fun did => decide (did = (f.space, f.name)) := by
    rw [Bool.eq_iff_iff, hb, List.any_eq_true]
    simp only [decide_eq_true_iff, exists_eq_right]
  rw [hany]
  exact selects_anyNamed first rest

/-- A file that a query for all files returns, unless it asks for datasets. -/
def CatalogFile.isVisible (includeRetired : Bool) (f : CatalogFile) : Prop :=
  includeRetired = true ∨ f.retired = false

theorem selects_everyFile (includeRetired : Bool) :
    (Fragment.everyFile db.dialect none includeRetired columns).Selects db
      (db.catalog.idsWhere (CatalogFile.isVisible includeRetired)) := by
  cases includeRetired with
  | true =>
      apply selects_allFiles.congr
      simp [Catalog.idsWhere, CatalogFile.isVisible]
  | false =>
      apply selects_filesWhere
      intro scope f _ b hb
      have hretired : b = !f.retired := by
        rw [Bool.eq_iff_iff, hb]
        simp [CatalogFile.isVisible]
      rw [hretired]
      exact selects_notRetired

theorem selects_filesOf {q : Query} {datasets : List CatalogDataset}
    (h : q.Returns db (datasets.map Database.datasetFields)) (includeRetired : Bool) :
    (Fragment.everyFile db.dialect (some q) includeRetired columns).Selects db
      (db.catalog.idsWhere fun f =>
        db.catalog.BelongsTo datasets f ∧ f.isVisible includeRetired) := by
  classical
  cases includeRetired with
  | true =>
      apply selects_filesWhere
      intro scope f _ b hb
      apply selects_inDatasets h
      simpa [CatalogFile.isVisible, Catalog.BelongsTo] using hb
  | false =>
      apply selects_filesWhere
      intro scope f _ b hb
      have hboth : b = (decide (db.catalog.BelongsTo datasets f) && !f.retired) := by
        rw [Bool.eq_iff_iff, hb]
        simp [CatalogFile.isVisible]
      rw [hboth]
      exact (selects_inDatasets h decide_eq_true_iff).and selects_notRetired

def Catalog.IsFile (c : Catalog) (id : String) : Prop :=
  ∃ f ∈ c.files, f.id = id

theorem Catalog.mem_idsWhere_mem {c : Catalog} {ids : Set String}
    (h : ∀ id ∈ ids, c.IsFile id) (id : String) :
    id ∈ c.idsWhere (fun f => f.id ∈ ids) ↔ id ∈ ids := by
  constructor
  · rintro ⟨f, -, hf, rfl⟩
    exact hf
  · intro hid
    obtain ⟨f, hf, rfl⟩ := h id hid
    exact ⟨f, hf, hid, rfl⟩

/-- Each of some fragments selects the set at its place. -/
abbrev SelectAll (db : Database) (fragments : List Fragment) (sets : List (Set String)) : Prop :=
  List.Forall₂ (fun fragment ids => fragment.Selects db ids) fragments sets

variable {op : SetOperation} {fragments : List Fragment} {sets : List (Set String)}

theorem isFile_foldl_onSets {c : Catalog} {ids : Set String} (hids : ∀ id ∈ ids, c.IsFile id)
    (hsets : ∀ others ∈ sets, ∀ id ∈ others, c.IsFile id) :
    ∀ id ∈ sets.foldl op.onSets ids, c.IsFile id := by
  induction sets generalizing ids with
  | nil => exact hids
  | cons others rest ih =>
      apply ih
      · intro id hid
        cases op with
        | union =>
            rcases hid with hleft | hright
            · exact hids id hleft
            · exact hsets others List.mem_cons_self id hright
        | intersect => exact hids id hid.1
        | except => exact hids id hid.1
      · intro more hmore
        exact hsets more (List.mem_cons_of_mem others hmore)

theorem lists_foldl_combined (h : SelectAll db fragments sets) {q : Query} {ids : Set String}
    (hq : q.Lists db ids) (n : Nat) :
    ((fragments.zipIdx n).foldl
      (fun q operand => .combined op q (operand.1.operandIds operand.2)) q).Lists db
        (sets.foldl op.onSets ids) := by
  induction h generalizing q ids n with
  | nil => exact hq
  | cons hfirst _ ih => exact ih (hq.combined op (hfirst.lists (.u n))) (n + 1)

theorem SelectAll.mem_files (h : SelectAll db fragments sets) :
    ∀ others ∈ sets, ∀ id ∈ others, db.catalog.IsFile id := by
  induction h with
  | nil => exact nofun
  | cons hfirst _ ih =>
      intro others hothers
      rcases List.mem_cons.mp hothers with rfl | hrest
      · exact fun id => hfirst.mem_files
      · exact ih others hrest

/-- Combined fragments select what the operation makes of their sets. -/
theorem selects_combine {first : Fragment} {ids : Set String} (hfirst : first.Selects db ids)
    (hrest : SelectAll db fragments sets) :
    (Fragment.combine op first fragments columns).Selects db (sets.foldl op.onSets ids) := by
  have hlists : (Fragment.combineIds op first fragments).Lists db (sets.foldl op.onSets ids) :=
    lists_foldl_combined hrest (hfirst.lists (.u 0)) 1
  have hselects : (Fragment.combine op first fragments columns).Selects db
      (db.catalog.idsWhere fun f => f.id ∈ sets.foldl op.onSets ids) := by
    apply selects_filesWhere
    intro scope f _ b hb
    exact hlists.selects_within (by simp only [Expr.eval, column?_id]) hb
  apply hselects.congr
  exact Catalog.mem_idsWhere_mem
    (isFile_foldl_onSets (fun id hid => hfirst.mem_files hid) hrest.mem_files)

/-- The known and the wanted end of an edge from a parent to a child. -/
def Direction.orient : Direction → String × String → String × String
  | .parents, (parent, child) => (child, parent)
  | .children, (parent, child) => (parent, child)

/-- There is an edge between a known file and a wanted one in the given direction. -/
def Catalog.Leads (c : Catalog) (direction : Direction) (known wanted : String) : Prop :=
  ∃ edge ∈ c.edges, direction.orient edge = (known, wanted)

/-- The identifiers that edges lead to from those of a set. -/
def Catalog.ends (c : Catalog) (direction : Direction) (ids : Set String) : Set String :=
  {id | ∃ known ∈ ids, c.Leads direction known id}

theorem lists_ends {known : Query} {ids : Set String} (h : known.Lists db ids)
    (direction : Direction) :
    (Query.selectWhere [.column .pc direction.wanted] (.table .parentChild .pc)
      (.within (.column .pc direction.known) known)).Lists db
        (db.catalog.ends direction ids) := by
  classical
  have hknown (scope : Scope) (edge : String × String) :
      (Expr.column .pc direction.known).eval db
        ((.pc, Database.pairFields .parentId .childId edge) :: scope) =
          some (.text (direction.orient edge).1) := by
    cases direction <;> rfl
  have hreturns : (Query.selectWhere [.column .pc direction.wanted] (.table .parentChild .pc)
      (.within (.column .pc direction.known) known)).Returns db
        ((db.catalog.edges.filter fun edge => decide ((direction.orient edge).1 ∈ ids)).map
          fun edge => [(some direction.wanted, .text (direction.orient edge).2)]) := by
    apply returns_selectWhere (gives_table db .parentChild .pc)
    · intro scope edge _
      exact h.selects_within (hknown scope edge) decide_eq_true_iff
    · rfl
    · exact fun _ _ => nofun
    · intro scope edge _
      cases direction <;> rfl
  refine ⟨_, hreturns, fun row hrow => ?_, ?_⟩
  · obtain ⟨edge, hedge, rfl⟩ := List.mem_map.mp hrow
    obtain ⟨hmem, hids⟩ := List.mem_filter.mp hedge
    exact ⟨_, ⟨_, of_decide_eq_true hids, edge, hmem, rfl⟩, rfl⟩
  · rintro id ⟨known, hids, edge, hmem, horient⟩
    refine ⟨_, List.mem_map_of_mem (List.mem_filter.mpr ⟨hmem, ?_⟩), ?_⟩
    · rw [horient]
      exact decide_eq_true hids
    · rw [horient]
      rfl

/-- A step selects the files that edges lead to. -/
theorem selects_step {fragment : Fragment} {ids : Set String} (h : fragment.Selects db ids)
    (direction : Direction) :
    (fragment.step direction columns).Selects db
      (db.catalog.idsWhere fun f => f.id ∈ db.catalog.ends direction ids) := by
  apply selects_filesWhere
  intro scope f _ b hb
  exact (lists_ends (h.lists .c) direction).selects_within (by simp only [Expr.eval, column?_id])
    hb

end CatalogQuery.Sql
