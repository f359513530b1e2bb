/-
Rows of datasets.  Every query for datasets that is answered returns datasets of the catalog, the
same ones wherever it stands.  A selector stands for the datasets of a namespace that it names and,
if it asks for them, their children or all that edges lead to from them.
-/
import CatalogQuery.Engine.Basic
import CatalogQuery.Proofs.Result
import CatalogQuery.Proofs.Sql.Closure
import CatalogQuery.Proofs.Sql.Conditions
import CatalogQuery.Proofs.Sql.Rows

namespace CatalogQuery.Sql

variable {db : Database} {a : Alias}

/-- The query returns these datasets of the catalog wherever it stands. -/
structure Query.ReturnsDatasets (db : Database) (q : Query) (datasets : List CatalogDataset) :
    Prop where
  returns : q.Returns db (datasets.map Database.datasetFields)
  names : q.names = [some .space, some .name, some .metadata]
  mem : ∀ d ∈ datasets, d ∈ db.catalog.datasets

def CatalogDataset.key (d : CatalogDataset) : String × String := (d.space, d.name)

/-- The query returns these pairs of a namespace and a name wherever it stands. -/
def Query.ReturnsPairs (db : Database) (q : Query) (pairs : List (String × String)) : Prop :=
  q.Returns db (pairs.map (Database.pairFields .space .name))

def nameMatches (dialect : Dialect) (selector : DatasetSelector) (name : String) : Bool :=
  match selector.pattern, dialect with
  | false, _ => decide (name = selector.name)
  | true, .sqlite => globMatches selector.name name
  | true, .postgres => likeMatches (likeOfGlob selector.name) name

theorem selects_nameCondition (dialect : Dialect) (selector : DatasetSelector)
    (d : CatalogDataset) (scope : Scope) (known : Bool) :
    (nameCondition dialect selector).Selects db ((.d, Database.datasetFields d) :: scope) known
      (nameMatches dialect selector d.name) := by
  obtain ⟨space, name, pattern, withChildren, recursively⟩ := selector
  cases pattern with
  | false => exact selects_sameText rfl rfl
  | true =>
      cases dialect with
      | sqlite => exact Expr.Selects.of_truth (Expr.truth_of_eval_truth rfl)
      | postgres => exact Expr.Selects.of_truth (Expr.truth_of_eval_truth rfl)

theorem returnsDatasets_selectWhere {condition : Expr} {keep : CatalogDataset → Bool}
    (h : ∀ scope, ∀ d ∈ db.catalog.datasets,
      condition.Selects db ((.d, Database.datasetFields d) :: scope) false (keep d)) :
    (Query.selectWhere datasetColumns (.table .datasets .d) condition).ReturnsDatasets db
      (db.catalog.datasets.filter keep) where
  returns := returns_selectWhere (gives_table db .datasets .d) h rfl (fun _ _ => nofun)
    fun _ _ _ => rfl
  names := rfl
  mem := fun _ hd => List.mem_of_mem_filter hd

theorem returnsDatasets_namedDatasets (dialect : Dialect) (space : String)
    (selector : DatasetSelector) :
    (namedDatasets dialect space selector).ReturnsDatasets db
      (db.catalog.datasets.filter fun d =>
        decide (d.space = space) && nameMatches dialect selector d.name) := by
  apply returnsDatasets_selectWhere
  intro scope d _
  exact (selects_sameText rfl rfl).and (selects_nameCondition dialect selector d scope false)

section Children

variable {α : Type} {parents : Source} {xs : List α} {fields : α → Fields}

theorem column?_edge (ha : a ≠ .pc) (parent edge : Fields) (scope : Scope) (c : Column) :
    Scope.column? ((a, parent) :: (.pc, edge) :: scope) .pc c = edge.get? c := by
  have hne : (Alias.pc == a) = false := beq_eq_false_iff_ne.mpr ha.symm
  simp only [Scope.column?, List.lookup_cons, hne]
  rfl

theorem column?_parent (parent : Fields) (scope : Scope) (c : Column) :
    Scope.column? ((a, parent) :: scope) a c = parent.get? c := by
  simp only [Scope.column?, List.lookup_cons, beq_self_eq_true]
  rfl

/-- The ends of the edges that begin at the keys of some rows. -/
def edgeEnds (edges : List ((String × String) × (String × String))) (key : α → String × String)
    (xs : List α) : List (String × String) :=
  ((edges ×ˢ xs).filter fun pair => decide (pair.1.1 = key pair.2)).map fun pair => pair.1.2

theorem mem_edgeEnds {edges : List ((String × String) × (String × String))}
    {key : α → String × String} {pair : String × String} :
    pair ∈ edgeEnds edges key xs ↔ ∃ x ∈ xs, (key x, pair) ∈ edges := by
  simp only [edgeEnds, List.mem_map, List.mem_filter, decide_eq_true_iff]
  constructor
  · rintro ⟨⟨⟨parent, child⟩, x⟩, ⟨hpair, hparent⟩, rfl⟩
    obtain ⟨hedge, hx⟩ := List.pair_mem_product.mp hpair
    exact ⟨x, hx, hparent ▸ hedge⟩
  · rintro ⟨x, hx, hedge⟩
    exact ⟨((key x, pair), x), ⟨List.pair_mem_product.mpr ⟨hedge, hx⟩, rfl⟩, rfl⟩

/-- The children of the datasets of a relation. -/
theorem returns_childrenOf (key : α → String × String)
    (h : parents.Gives db a (xs.map fields)) (ha : a ≠ .pc)
    (hspace : ∀ x ∈ xs, (fields x).get? .space = some (.text (key x).1))
    (hname : ∀ x ∈ xs, (fields x).get? .name = some (.text (key x).2)) :
    (childrenOf parents a).Returns db
      ((edgeEnds db.catalog.datasetEdges key xs).map
        (Database.pairFields .childSpace .childName)) := by
  have hsame (edge : (String × String) × (String × String)) (x : α) (hx : x ∈ xs)
      (scope : Scope) :
      ((Expr.equal (.column .pc .parentSpace) (.column a .space)).and
        (.equal (.column .pc .parentName) (.column a .name))).Selects db
          ((a, fields x) :: (.pc, Database.datasetEdgeFields edge) :: scope) false
          (decide (edge.1 = key x)) := by
    rw [decide_eq_decide.mpr Prod.ext_iff, Bool.decide_and]
    refine (selects_sameText ?_ ?_).and (selects_sameText ?_ ?_)
    · rw [Expr.eval, column?_edge ha]
      rfl
    · rw [Expr.eval, column?_parent, hspace x hx]
    · rw [Expr.eval, column?_edge ha]
      rfl
    · rw [Expr.eval, column?_parent, hname x hx]
  intro scope
  have hjoin := eval_join (fun edge x => decide (edge.1 = key x))
    (gives_table db .datasetsParentChild .pc) h fun edge _ x hx => hsame edge x hx scope
  have hproject (pair : ((String × String) × (String × String)) × α) :
      project ((a, fields pair.2) :: (.pc, Database.datasetEdgeFields pair.1) :: scope)
        [.column .pc .childSpace, .column .pc .childName] =
          some (Database.pairFields .childSpace .childName pair.1.2) := by
    simp only [project, List.mapM_cons, List.mapM_nil, Item.eval, column?_edge ha]
    rfl
  refine ⟨_, eval_select hjoin rfl (fun _ _ => nofun) fun pair _ => hproject pair, ?_⟩
  simp only [edgeEnds, List.map_map]
  rfl

end Children

theorem mapM_pairOf?_map {made : List (Scope × Fields)} {first second : Column}
    {pairs : List (String × String)}
    (h : made.map Prod.snd = pairs.map (Database.pairFields first second)) :
    made.mapM pairOf? = some pairs := by
  induction made generalizing pairs with
  | nil =>
      cases pairs with
      | nil => rfl
      | cons pair rest => cases h
  | cons row rest ih =>
      cases pairs with
      | nil => cases h
      | cons pair others =>
          obtain ⟨scope, fields⟩ := row
          simp only [List.map_cons, List.cons.injEq] at h
          obtain ⟨rfl, hrest⟩ := h
          rw [List.mapM_cons, ih hrest]
          rfl

/-- Edges between datasets lead from one to another. -/
def Catalog.LeadsDown (c : Catalog) : String × String → String × String → Prop :=
  Relation.ReflTransGen fun parent child => (parent, child) ∈ c.datasetEdges

/-- A closure has all that edges lead to from the pairs of its base. -/
theorem exists_returnsPairs_closure {base : Query} {pairs : List (String × String)}
    (h : base.ReturnsPairs db pairs) :
    ∃ below, (Query.closure base (childrenOf (.table .closure .c) .c)).ReturnsPairs db below ∧
      ∀ pair, pair ∈ below ↔ ∃ first ∈ pairs, db.catalog.LeadsDown first pair := by
  let next := edgeEnds db.catalog.datasetEdges id
  have hnext (known : List (String × String)) :
      (childrenOf (.table .closure .c) .c).Returns { db with closure := known }
        ((next known).map (Database.pairFields .childSpace .childName)) :=
    returns_childrenOf id (gives_table { db with closure := known } .closure .c) nofun
      (fun _ _ => rfl) fun _ _ => rfl
  refine ⟨(grown next)^[db.catalog.datasetEdges.length + 1] (freshPairs [] pairs),
    fun scope => ?_, fun pair => ?_⟩
  · obtain ⟨made, hmade, hpairs⟩ := h scope
    have hround : (fun known => do
        let rows ← (childrenOf (.table .closure .c) .c).eval { db with closure := known } scope
        rows.mapM pairOf?) = fun known => some (next known) := by
      funext known
      obtain ⟨rows, hrows, hmore⟩ := hnext known scope
      simp only [hrows, Option.bind_eq_bind, Option.bind_some, mapM_pairOf?_map hmore]
    refine ⟨((grown next)^[db.catalog.datasetEdges.length + 1] (freshPairs [] pairs)).map
      fun pair => ([], Database.pairFields .space .name pair), ?_, ?_⟩
    · simp only [Query.eval, hmade, Option.bind_eq_bind, Option.bind_some,
        mapM_pairOf?_map hpairs]
      simp only [Option.bind_eq_bind] at hround
      rw [hround, addRounds_eq_iterate]
      rfl
    · rw [List.map_map]
      rfl
  · have hedges (known : List (String × String)) (pair : String × String) :
        pair ∈ next known ↔ ∃ parent ∈ known, (parent, pair) ∈ db.catalog.datasetEdges :=
      mem_edgeEnds
    rw [mem_iterate_iff hedges (Nat.le_succ _)]
    simp only [mem_freshPairs, List.not_mem_nil, not_false_eq_true, and_true]
    rfl

/-- Pairs are told apart by the cells of their rows. -/
theorem eq_of_cells_pairFields {first second first' second' : Column}
    {pair other : String × String}
    (h : (Database.pairFields first second pair).cells =
      (Database.pairFields first' second' other).cells) : pair = other := by
  obtain ⟨hspace, hname⟩ : pair.1 = other.1 ∧ pair.2 = other.2 := by
    simpa [Fields.cells, Database.pairFields, fieldsOf, Value.toCell] using h
  exact Prod.ext hspace hname

theorem exists_map_eq {α β γ : Type} {f : β → γ} {g : α → γ} {good : β → Prop} {xs : List α}
    (h : ∀ x ∈ xs, ∃ y, good y ∧ g x = f y) :
    ∃ ys : List β, xs.map g = ys.map f ∧ ∀ y ∈ ys, good y := by
  induction xs with
  | nil => exact ⟨[], rfl, nofun⟩
  | cons x rest ih =>
      obtain ⟨y, hgood, hy⟩ := h x List.mem_cons_self
      obtain ⟨ys, hys, hall⟩ := ih fun z hz => h z (List.mem_cons_of_mem x hz)
      refine ⟨y :: ys, ?_, List.forall_mem_cons.mpr ⟨hgood, hall⟩⟩
      rw [List.map_cons, List.map_cons, hy, hys]

/-- The pairs of a union are those of both operands. -/
theorem exists_union_pairFields (first second : Column) (pairs more : List (String × String)) :
    ∃ all : List (String × String),
      (SetOperation.union.apply (pairs.map (Database.pairFields .space .name))
          (more.map (Database.pairFields first second))).map (relabel [some .space, some .name]) =
        all.map (Database.pairFields .space .name) ∧
      ∀ pair, pair ∈ all ↔ pair ∈ pairs ∨ pair ∈ more := by
  set rows := SetOperation.union.apply (pairs.map (Database.pairFields .space .name))
    (more.map (Database.pairFields first second))
  have hrow : ∀ row ∈ rows, ∃ pair, (pair ∈ pairs ∨ pair ∈ more) ∧
      ∃ first second, row = Database.pairFields first second pair := by
    intro row hrow
    rcases mem_of_mem_union hrow with hleft | hright
    · obtain ⟨pair, hpair, rfl⟩ := List.mem_map.mp hleft
      exact ⟨pair, .inl hpair, _, _, rfl⟩
    · obtain ⟨pair, hpair, rfl⟩ := List.mem_map.mp hright
      exact ⟨pair, .inr hpair, _, _, rfl⟩
  have hrelabel : ∀ row ∈ rows, ∃ pair, (pair ∈ pairs ∨ pair ∈ more) ∧
      relabel [some .space, some .name] row = Database.pairFields .space .name pair := by
    intro row hmade
    obtain ⟨pair, hpair, first, second, rfl⟩ := hrow row hmade
    exact ⟨pair, hpair, rfl⟩
  obtain ⟨all, hall, hmem⟩ := exists_map_eq hrelabel
  refine ⟨all, hall, fun pair => ⟨hmem pair, fun hpair => ?_⟩⟩
  obtain ⟨a, b, hoperand⟩ : ∃ a b, Database.pairFields a b pair ∈
      pairs.map (Database.pairFields .space .name) ++
        more.map (Database.pairFields first second) := by
    rcases hpair with hleft | hright
    · exact ⟨_, _, List.mem_append_left _ (List.mem_map_of_mem hleft)⟩
    · exact ⟨_, _, List.mem_append_right _ (List.mem_map_of_mem hright)⟩
  -- a row is left out of a union only for one with the same pair in it
  have hkept : ∃ row ∈ distinctOn Fields.cells _,
      row.cells = (Database.pairFields a b pair).cells := exists_mem_distinctOn hoperand
  obtain ⟨row, hmade, hcells⟩ := hkept
  obtain ⟨other, -, c, d, rfl⟩ := hrow row hmade
  obtain rfl := eq_of_cells_pairFields hcells
  have hin : Database.pairFields .space .name other ∈
      all.map (Database.pairFields .space .name) := by
    rw [← hall]
    exact List.mem_map_of_mem hmade
  obtain ⟨same, hsame, heq⟩ := List.mem_map.mp hin
  rwa [← eq_of_cells_pairFields (congrArg Fields.cells heq)]

/-- A dataset is below one of some others: it is one of them or a child of one, or edges lead to
it from one of them if all are asked for. -/
def Catalog.IsBelow (c : Catalog) (recursively : Bool) (datasets : List CatalogDataset)
    (pair : String × String) : Prop :=
  ∃ d ∈ datasets,
    if recursively then c.LeadsDown d.key pair else pair = d.key ∨ (d.key, pair) ∈ c.datasetEdges

theorem exists_returnsPairs_withDescendants {base : Query} {datasets : List CatalogDataset}
    (h : base.ReturnsDatasets db datasets) (recursively : Bool) :
    ∃ below, (withDescendants base recursively).ReturnsPairs db below ∧
      ∀ pair, pair ∈ below ↔ db.catalog.IsBelow recursively datasets pair := by
  have hnamed : (Query.select false [.column .b .space, .column .b .name]
      (.derived base .b)).ReturnsPairs db (datasets.map CatalogDataset.key) := by
    rw [Query.ReturnsPairs, List.map_map]
    exact returns_select (h.returns.gives_derived .b) rfl (fun _ _ => nofun) fun _ _ _ => rfl
  cases recursively with
  | true =>
      obtain ⟨below, hbelow, hmem⟩ := exists_returnsPairs_closure hnamed
      refine ⟨below, hbelow, fun pair => (hmem pair).trans ?_⟩
      simp [Catalog.IsBelow]
  | false =>
      have hchildren := returns_childrenOf CatalogDataset.key (h.returns.gives_derived .p) nofun
        (fun _ _ => rfl) fun _ _ => rfl
      obtain ⟨below, hbelow, hmem⟩ := exists_union_pairFields .childSpace .childName
        (datasets.map CatalogDataset.key) (edgeEnds db.catalog.datasetEdges CatalogDataset.key
          datasets)
      refine ⟨below, ?_, fun pair => (hmem pair).trans ?_⟩
      · rw [Query.ReturnsPairs, ← hbelow]
        exact hnamed.combined hchildren .union
      · rw [mem_edgeEnds, List.mem_map, ← exists_or]
        simp only [Catalog.IsBelow, Bool.false_eq_true, if_false, and_or_left, @eq_comm _ pair]

def Catalog.named (c : Catalog) (dialect : Dialect) (space : String)
    (selector : DatasetSelector) : List CatalogDataset :=
  c.datasets.filter fun d => decide (d.space = space) && nameMatches dialect selector d.name

/-- A selector stands for the dataset: it is named, or below a named one if the selector asks for
those. -/
def Catalog.StandsFor (c : Catalog) (dialect : Dialect) (space : String)
    (selector : DatasetSelector) (d : CatalogDataset) : Prop :=
  if selector.withChildren then
    c.IsBelow selector.recursively (c.named dialect space selector) d.key
  else d ∈ c.named dialect space selector

/-- The datasets that a selector stands for are the rows of the table that it stands for, each of
them once. -/
theorem returnsDatasets_selectedDatasets (dialect : Dialect) (space : String)
    (selector : DatasetSelector) :
    ∃ keep : CatalogDataset → Bool,
      (selectedDatasets dialect space selector).ReturnsDatasets db
        (db.catalog.datasets.filter keep) ∧
      ∀ d ∈ db.catalog.datasets, keep d = true ↔
        db.catalog.StandsFor dialect space selector d := by
  have hbase : (namedDatasets dialect space selector).ReturnsDatasets db _ :=
    returnsDatasets_namedDatasets dialect space selector
  unfold selectedDatasets Catalog.StandsFor
  cases selector.withChildren with
  | false =>
      refine ⟨_, hbase, fun d hd => ?_⟩
      rw [if_neg Bool.false_ne_true, Catalog.named, List.mem_filter]
      exact (and_iff_right hd).symm
  | true =>
      obtain ⟨below, hbelow, hmem⟩ :=
        exists_returnsPairs_withDescendants hbase selector.recursively
      have hsame (scope : Scope) (d : CatalogDataset) (pair : String × String) :
          ((Expr.equal (.column .x .space) (.column .d .space)).and
            (.equal (.column .x .name) (.column .d .name))).Selects db
              ((.x, Database.pairFields .space .name pair) ::
                (.d, Database.datasetFields d) :: scope) false (decide (pair = d.key)) := by
        rw [decide_eq_decide.mpr Prod.ext_iff, Bool.decide_and]
        exact (selects_sameText rfl rfl).and (selects_sameText rfl rfl)
      refine ⟨fun d => below.any fun pair => decide (pair = d.key),
        returnsDatasets_selectWhere fun scope d _ => selects_existsWhere
          ((hbelow.gives_derived .x).eval_map _) fun pair _ => hsame scope d pair, fun d _ => ?_⟩
      rw [List.any_eq_true, if_pos rfl, Catalog.named, ← hmem]
      simp

/-- The evaluation of the query raises no error. -/
def Query.IsAnswered (db : Database) (q : Query) : Prop :=
  ∃ made, q.eval db [] = some made

theorem exists_of_keepWhere {condition : Scope → Option Value} {scopes kept : List Scope}
    (h : keepWhere condition scopes = some kept) :
    ∀ scope ∈ scopes, ∃ t, (condition scope).bind Value.truth? = some t := by
  induction scopes generalizing kept with
  | nil => exact nofun
  | cons scope rest ih =>
      simp only [keepWhere, Option.bind_eq_bind, Option.bind_eq_some_iff] at h
      obtain ⟨v, hv, t, ht, others, hrest, -⟩ := h
      refine List.forall_mem_cons.mpr ⟨⟨t, ?_⟩, ih hrest⟩
      rw [hv]
      exact ht

section Answered

variable {inner : Query} {condition : Expr}

theorem Query.IsAnswered.of_datasetsHaving (h : (datasetsHaving inner condition).IsAnswered db) :
    inner.IsAnswered db := by
  obtain ⟨made, hmade⟩ := h
  simp only [datasetsHaving, Query.eval, Source.eval, Option.bind_eq_bind,
    Option.bind_eq_some_iff] at hmade
  obtain ⟨_, ⟨rows, hrows, -⟩, -⟩ := hmade
  exact ⟨rows, hrows⟩

/-- A condition on datasets has a truth value for each of them. -/
theorem Query.IsAnswered.exists_truth (h : (datasetsHaving inner condition).IsAnswered db)
    {datasets : List CatalogDataset} (hinner : inner.ReturnsDatasets db datasets)
    {d : CatalogDataset} (hd : d ∈ datasets) :
    ∃ t, condition.truth db [(.d, Database.datasetFields d)] = some t := by
  obtain ⟨made, hmade⟩ := h
  simp only [datasetsHaving, Query.eval, Option.bind_eq_bind,
    (hinner.returns.gives_derived .d).eval_map, Option.bind_some,
    Option.bind_eq_some_iff] at hmade
  obtain ⟨kept, hkept, -⟩ := hmade
  exact exists_of_keepWhere hkept _ (List.mem_map_of_mem hd)

end Answered

theorem exists_datasetsHaving {inner : Query} {datasets : List CatalogDataset}
    (h : inner.ReturnsDatasets db datasets) {p : Predicate} {form : Dnf} {condition : Expr}
    (hnormal : p.normalize = .ok form)
    (hcondition : condition? db.dialect datasetMetadata form = .ok condition)
    (hanswered : (datasetsHaving inner condition).IsAnswered db) :
    ∃ having, (datasetsHaving inner condition).ReturnsDatasets db having := by
  obtain ⟨rfl, haddress⟩ := isAddressable_of_condition? hcondition
  have hvalid := Predicate.isValid_of_normalize hnormal
  choose members hmembers using CatalogDataset.isObject
  have hfields (d : CatalogDataset) (scope : Scope) :
      Location.FindsFields db ((.d, Database.datasetFields d) :: scope) datasetMetadata
        (members d) :=
    Location.findsFields_of_object rfl (congrArg some (hmembers d))
  have hselects (scope : Scope) (d : CatalogDataset) (hd : d ∈ datasets) :
      (Sql.condition db.dialect datasetMetadata form).Selects db
        ((.d, Database.datasetFields d) :: scope) false (form.holds (members d)) := by
    have htruth := hanswered.exists_truth h hd
    have hreach := (exists_truth_condition_iff (hfields d []) hvalid haddress).mp htruth
    exact selects_condition (hfields d scope) hvalid haddress hreach
  refine ⟨datasets.filter fun d => form.holds (members d), ?_, rfl,
    fun d hd => h.mem d (List.mem_of_mem_filter hd)⟩
  exact returns_selectWhere (h.returns.gives_derived .d) hselects rfl (fun _ _ => nofun)
    fun _ _ _ => rfl

theorem returnsDatasets_operandRows {q : Query} {datasets : List CatalogDataset}
    (h : q.ReturnsDatasets db datasets) (i : Nat) :
    (operandRows q i).ReturnsDatasets db datasets where
  returns := returns_select (h.returns.gives_derived (.u i)) rfl (fun _ _ => nofun)
    fun _ d _ => by simp [project, Item.eval]
  names := by simp [operandRows, h.names]
  mem := h.mem

theorem exists_union {left right : Query} {datasets others : List CatalogDataset}
    (hleft : left.ReturnsDatasets db datasets) (hright : right.ReturnsDatasets db others) :
    ∃ all, (Query.combined .union left right).ReturnsDatasets db all := by
  have hrows : ∀ row ∈ SetOperation.union.apply (datasets.map Database.datasetFields)
      (others.map Database.datasetFields), ∃ d, d ∈ db.catalog.datasets ∧
        relabel [some .space, some .name, some .metadata] row = Database.datasetFields d := by
    intro row hrow
    rcases mem_of_mem_union hrow with hmem | hmem
    · obtain ⟨d, hd, rfl⟩ := List.mem_map.mp hmem
      exact ⟨d, hleft.mem d hd, rfl⟩
    · obtain ⟨d, hd, rfl⟩ := List.mem_map.mp hmem
      exact ⟨d, hright.mem d hd, rfl⟩
  obtain ⟨all, hall, hmem⟩ := exists_map_eq hrows
  refine ⟨all, ?_, hleft.names, hmem⟩
  rw [← hall, ← hleft.names]
  exact hleft.returns.combined hright.returns .union

theorem Query.IsAnswered.of_operandRows {q : Query} {i : Nat}
    (h : (operandRows q i).IsAnswered db) : q.IsAnswered db := by
  obtain ⟨made, hmade⟩ := h
  simp only [operandRows, Query.eval, Source.eval, Option.bind_eq_bind,
    Option.bind_eq_some_iff] at hmade
  obtain ⟨_, ⟨rows, hrows, -⟩, -⟩ := hmade
  exact ⟨rows, hrows⟩

theorem Query.IsAnswered.of_combined {op : SetOperation} {left right : Query}
    (h : (Query.combined op left right).IsAnswered db) :
    left.IsAnswered db ∧ right.IsAnswered db := by
  obtain ⟨made, hmade⟩ := h
  simp only [Query.eval, Option.bind_eq_bind, Option.bind_eq_some_iff] at hmade
  obtain ⟨lefts, hlefts, rights, hrights, -⟩ := hmade
  exact ⟨⟨lefts, hlefts⟩, rights, hrights⟩

theorem Query.IsAnswered.of_foldl_union {queries : List Query} {q : Query} {n : Nat}
    (h : ((queries.zipIdx n).foldl
      (fun q operand => .combined .union q (operandRows operand.1 operand.2)) q).IsAnswered db) :
    q.IsAnswered db ∧ ∀ other ∈ queries, other.IsAnswered db := by
  induction queries generalizing q n with
  | nil => exact ⟨h, nofun⟩
  | cons first rest ih =>
      obtain ⟨hunion, hrest⟩ := ih h
      obtain ⟨hq, hfirst⟩ := hunion.of_combined
      exact ⟨hq, List.forall_mem_cons.mpr ⟨hfirst.of_operandRows, hrest⟩⟩

/-- Each operand of a union that is answered is answered. -/
theorem Query.IsAnswered.of_datasetUnion {first : Query} {rest : List Query}
    (h : (datasetUnion first rest).IsAnswered db) :
    ∀ q ∈ first :: rest, q.IsAnswered db := by
  obtain ⟨hfirst, hrest⟩ := Query.IsAnswered.of_foldl_union h
  exact List.forall_mem_cons.mpr ⟨hfirst.of_operandRows, hrest⟩

def AllReturnDatasets (db : Database) (queries : List Query) : Prop :=
  ∀ q ∈ queries, ∃ datasets, q.ReturnsDatasets db datasets

theorem exists_foldl_union {queries : List Query} (h : AllReturnDatasets db queries) {q : Query}
    {datasets : List CatalogDataset} (hq : q.ReturnsDatasets db datasets) (n : Nat) :
    ∃ all, ((queries.zipIdx n).foldl
      (fun q operand => .combined .union q (operandRows operand.1 operand.2)) q).ReturnsDatasets
        db all := by
  induction queries generalizing q datasets n with
  | nil => exact ⟨datasets, hq⟩
  | cons first rest ih =>
      obtain ⟨others, hfirst⟩ := h first List.mem_cons_self
      obtain ⟨all, hall⟩ := exists_union hq (returnsDatasets_operandRows hfirst n)
      exact ih (fun next hnext => h next (List.mem_cons_of_mem first hnext)) hall (n + 1)

theorem exists_datasetUnion {first : Query} {rest : List Query}
    (h : AllReturnDatasets db (first :: rest)) :
    ∃ all, (datasetUnion first rest).ReturnsDatasets db all := by
  obtain ⟨datasets, hfirst⟩ := h first List.mem_cons_self
  exact exists_foldl_union (fun q hq => h q (List.mem_cons_of_mem first hq))
    (returnsDatasets_operandRows hfirst 0) 1

section Compiled

variable {e : Engine} {o : Options}

theorem dataset_of_mismatch {node : Node} {q : Query} {p : Prop}
    (h : Engine.mismatch .dataset node = Except.ok q) : p := by
  cases h

mutual

/-- What a query for datasets becomes returns datasets of the catalog if it is answered. -/
theorem exists_of_compileDatasets (hdialect : db.dialect = e.dialect) :
    ∀ (node : Node) {q : Query}, e.compileDatasets o node = .ok q → q.IsAnswered db →
      ∃ datasets, q.ReturnsDatasets db datasets
  | .datasets selector, q, h, _ => by
      rw [Engine.compileDatasets] at h
      obtain ⟨space, -, hq⟩ := bind_eq_ok_iff.mp h
      cases hq
      obtain ⟨_, hreturns, -⟩ := returnsDatasets_selectedDatasets e.dialect space selector
      exact ⟨_, hreturns⟩
  | .datasetsHaving query predicate, q, h, hanswered => by
      rw [Engine.compileDatasets] at h
      obtain ⟨inner, hinner, h⟩ := bind_eq_ok_iff.mp h
      obtain ⟨form, hform, h⟩ := bind_eq_ok_iff.mp h
      split at h
      · cases h
        exact exists_of_compileDatasets hdialect query hinner hanswered
      · obtain ⟨condition, hcondition, hq⟩ := bind_eq_ok_iff.mp h
        cases hq
        obtain ⟨datasets, hdatasets⟩ :=
          exists_of_compileDatasets hdialect query hinner hanswered.of_datasetsHaving
        rw [← hdialect] at hcondition
        exact exists_datasetsHaving hdatasets hform hcondition hanswered
  | .datasetUnion parts, q, h, hanswered => by
      rw [Engine.compileDatasets] at h
      obtain ⟨queries, hqueries, h⟩ := bind_eq_ok_iff.mp h
      have hall := allReturnDatasets_of_compileDatasetParts hdialect parts hqueries
      split at h
      · cases h
      · cases h
        exact hall (List.forall_mem_singleton.mpr hanswered) _ List.mem_cons_self
      · cases h
        exact exists_datasetUnion (hall hanswered.of_datasetUnion)
  | .everyFile, q, h, _ => dataset_of_mismatch h
  | .filesOf _, q, h, _ => dataset_of_mismatch h
  | .named _ _, q, h, _ => dataset_of_mismatch h
  | .list _, q, h, _ => dataset_of_mismatch h
  | .union _, q, h, _ => dataset_of_mismatch h
  | .join _, q, h, _ => dataset_of_mismatch h
  | .minus _ _, q, h, _ => dataset_of_mismatch h
  | .parentsOf _, q, h, _ => dataset_of_mismatch h
  | .childrenOf _, q, h, _ => dataset_of_mismatch h
  | .limit _ _, q, h, _ => dataset_of_mismatch h
  | .skip _ _, q, h, _ => dataset_of_mismatch h
  | .metaFilter _ _, q, h, _ => dataset_of_mismatch h
  | .filter _ _, q, h, _ => dataset_of_mismatch h
  | .namedQueries _ _, q, h, _ => dataset_of_mismatch h

/-- What the parts of a union become returns datasets of the catalog if each is answered. -/
theorem allReturnDatasets_of_compileDatasetParts (hdialect : db.dialect = e.dialect) :
    ∀ (parts : List Node) {queries : List Query}, e.compileDatasetParts o parts = .ok queries →
      (∀ q ∈ queries, q.IsAnswered db) → AllReturnDatasets db queries
  | [], queries, h, _ => by
      cases h
      exact nofun
  | part :: rest, queries, h, hanswered => by
      rw [Engine.compileDatasetParts] at h
      obtain ⟨first, hfirst, h⟩ := bind_eq_ok_iff.mp h
      obtain ⟨others, hothers, h⟩ := bind_eq_ok_iff.mp h
      cases h
      obtain ⟨hq, hrest⟩ := List.forall_mem_cons.mp hanswered
      exact List.forall_mem_cons.mpr ⟨exists_of_compileDatasets hdialect part hfirst hq,
        allReturnDatasets_of_compileDatasetParts hdialect rest hothers hrest⟩

end

end Compiled

end CatalogQuery.Sql
