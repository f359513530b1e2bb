/-
Rows of selections.  A query that stands inside another one is evaluated for each row of
the outer one.  Most queries return the same rows wherever they stand, and a selection from
such a query returns what its condition selects of these rows.
-/
import CatalogQuery.Proofs.Sql.Kinds
import Mathlib.Data.List.ProdSigma

namespace CatalogQuery.Sql

variable {α β : Type} {db : Database} {a other : Alias}

theorem mapM_eq_some {f : α → Option β} {g : α → β} {xs : List α}
    (h : ∀ x ∈ xs, f x = some (g x)) : xs.mapM f = some (xs.map g) := by
  induction xs with
  | nil => rfl
  | cons x rest ih =>
      rw [List.mapM_cons, h x List.mem_cons_self, ih fun y hy => h y (List.mem_cons_of_mem x hy)]
      rfl

/-- The rows of a selection that returns something of each row. -/
theorem returnedRows_map {items : List Item} {scopeOf : α → Scope} {fields : α → Fields}
    (hitems : items.any Item.isTotal = false) (hkeys : ∀ a c, items ≠ [.objectKeys a c])
    {xs : List α} (h : ∀ x ∈ xs, project (scopeOf x) items = some (fields x)) :
    returnedRows items (xs.map scopeOf) = some (xs.map fun x => (scopeOf x, fields x)) := by
  unfold returnedRows
  split
  · rename_i a c
    exact absurd rfl (hkeys a c)
  · simp only [hitems, Bool.false_eq_true, if_false, List.mapM_map]
    apply mapM_eq_some
    intro x hx
    simp [h x hx]

theorem keepWhere_map {condition : Expr} {scopeOf : α → Scope} {keep : α → Bool} {xs : List α}
    (h : ∀ x ∈ xs, condition.Selects db (scopeOf x) false (keep x)) :
    keepWhere (fun inner => condition.eval db inner) (xs.map scopeOf) =
      some ((xs.filter keep).map scopeOf) := by
  induction xs with
  | nil => rfl
  | cons x rest ih =>
      have hrest := ih fun y hy => h y (List.mem_cons_of_mem x hy)
      obtain ⟨t, ht, hkeep, -⟩ := h x List.mem_cons_self
      obtain ⟨v, hv, hvt⟩ := Option.bind_eq_some_iff.mp ht
      simp only [List.map_cons, keepWhere, hv, hvt, hrest, Option.bind_eq_bind, Option.bind_some,
        List.filter_cons, ← hkeep]
      cases t <;> rfl

/-- Comparing two columns that hold texts. -/
theorem selects_sameText {scope : Scope} {e f : Expr} {s t : String} {known : Bool}
    (he : e.eval db scope = some (.text s)) (hf : f.eval db scope = some (.text t)) :
    (e.equal f).Selects db scope known (decide (s = t)) := by
  apply Expr.Selects.of_truth
  apply Expr.truth_of_eval_truth
  simp [Expr.equal, Expr.eval, he, hf, BinaryOp.apply, compareValues_text]

section Distinct

variable {cells : α → Row}

theorem mem_of_mem_addDistinct {kept : List α} {row other : α}
    (h : other ∈ addDistinct cells kept row) : other ∈ kept ∨ other = row := by
  unfold addDistinct at h
  split at h
  · exact Or.inl h
  · simpa using h

theorem mem_map_addDistinct (kept : List α) (row : α) (c : Row) :
    c ∈ (addDistinct cells kept row).map cells ↔ c ∈ kept.map cells ∨ c = cells row := by
  unfold addDistinct
  split
  · rename_i hany
    obtain ⟨other, hother, hcells⟩ := List.any_eq_true.mp hany
    have hrow : cells row ∈ kept.map cells := by
      rw [← beq_iff_eq.mp hcells]
      exact List.mem_map_of_mem hother
    constructor
    · exact Or.inl
    · rintro (hmem | rfl)
      · exact hmem
      · exact hrow
  · rw [List.map_append, List.mem_append]
    simp

theorem mem_foldl_addDistinct {rows kept : List α} {other : α}
    (h : other ∈ rows.foldl (addDistinct cells) kept) : other ∈ kept ∨ other ∈ rows := by
  induction rows generalizing kept with
  | nil => exact Or.inl h
  | cons row rest ih =>
      rcases ih h with hkept | hrest
      · rcases mem_of_mem_addDistinct hkept with hmem | rfl
        · exact Or.inl hmem
        · exact Or.inr List.mem_cons_self
      · exact Or.inr (List.mem_cons_of_mem row hrest)

theorem mem_map_foldl_addDistinct (rows kept : List α) (c : Row) :
    c ∈ (rows.foldl (addDistinct cells) kept).map cells ↔
      c ∈ kept.map cells ∨ c ∈ rows.map cells := by
  induction rows generalizing kept with
  | nil => simp
  | cons row rest ih =>
      rw [List.foldl_cons, ih, mem_map_addDistinct, List.map_cons, List.mem_cons, or_assoc]

theorem mem_of_mem_distinctOn {rows : List α} {row : α} (h : row ∈ distinctOn cells rows) :
    row ∈ rows := by
  rcases mem_foldl_addDistinct h with hnil | hrow
  · cases hnil
  · exact hrow

/-- A row is left out only for another one with the same cells. -/
theorem exists_mem_distinctOn {rows : List α} {row : α} (h : row ∈ rows) :
    ∃ other ∈ distinctOn cells rows, cells other = cells row := by
  have hcells : cells row ∈ (distinctOn cells rows).map cells :=
    (mem_map_foldl_addDistinct rows [] _).mpr (Or.inr (List.mem_map_of_mem h))
  exact List.mem_map.mp hcells

end Distinct

theorem mem_of_mem_union {left right : List Fields} {row : Fields}
    (h : row ∈ SetOperation.union.apply left right) : row ∈ left ∨ row ∈ right :=
  List.mem_append.mp (mem_of_mem_distinctOn h)

/-- The source has these rows wherever it stands. -/
def Source.Gives (db : Database) (a : Alias) (source : Source) (rows : List Fields) : Prop :=
  ∀ scope, source.eval db scope = some (withRows scope a rows)

/-- The query returns these rows wherever it stands. -/
def Query.Returns (db : Database) (q : Query) (rows : List Fields) : Prop :=
  ∀ scope, ∃ made, q.eval db scope = some made ∧ made.map Prod.snd = rows

theorem Source.Gives.eval_map {source : Source} {xs : List α} {f : α → Fields}
    (h : source.Gives db a (xs.map f)) (scope : Scope) :
    source.eval db scope = some (xs.map fun x => (a, f x) :: scope) := by
  rw [h scope, withRows, List.map_map]
  rfl

theorem gives_table (db : Database) (t : Table) (a : Alias) :
    (Source.table t a).Gives db a (db.rows t) := by
  intro scope
  simp only [Source.eval]

theorem Query.Returns.gives_derived {q : Query} {rows : List Fields} (h : q.Returns db rows)
    (a : Alias) : (Source.derived q a).Gives db a rows := by
  intro scope
  obtain ⟨made, hmade, hrows⟩ := h scope
  simp only [Source.eval, hmade, Option.bind_eq_bind, Option.bind_some, hrows]
  rfl

theorem Query.Returns.combined {left right : Query} {lefts rights : List Fields}
    (hleft : left.Returns db lefts) (hright : right.Returns db rights) (op : SetOperation) :
    (Query.combined op left right).Returns db
      ((op.apply lefts rights).map (relabel left.names)) := by
  intro scope
  obtain ⟨madeLeft, hmadeLeft, rfl⟩ := hleft scope
  obtain ⟨madeRight, hmadeRight, rfl⟩ := hright scope
  refine ⟨(op.apply (madeLeft.map Prod.snd) (madeRight.map Prod.snd)).map fun fields =>
    ([], relabel left.names fields), ?_, ?_⟩
  · simp only [Query.eval, hmadeLeft, hmadeRight, Option.bind_eq_bind, Option.bind_some,
      Option.pure_def]
  · rw [List.map_map]
    rfl

section Selections

variable {source : Source} {items : List Item} {condition : Expr} {xs : List α} {ys : List β}
  {f g : α → Fields}

theorem eval_select {scope : Scope} {scopeOf : α → Scope}
    (hsource : source.eval db scope = some (xs.map scopeOf))
    (hitems : items.any Item.isTotal = false) (hkeys : ∀ a c, items ≠ [.objectKeys a c])
    (hproject : ∀ x ∈ xs, project (scopeOf x) items = some (g x)) :
    (Query.select false items source).eval db scope =
      some (xs.map fun x => (scopeOf x, g x)) := by
  simp only [Query.eval, hsource, Option.bind_eq_bind, Option.bind_some,
    returnedRows_map hitems hkeys hproject, Bool.false_eq_true, if_false, Option.pure_def]

theorem returns_select (h : source.Gives db a (xs.map f))
    (hitems : items.any Item.isTotal = false) (hkeys : ∀ a c, items ≠ [.objectKeys a c])
    (hproject : ∀ scope, ∀ x ∈ xs, project ((a, f x) :: scope) items = some (g x)) :
    (Query.select false items source).Returns db (xs.map g) := by
  intro scope
  refine ⟨_, eval_select (h.eval_map scope) hitems hkeys (hproject scope), ?_⟩
  rw [List.map_map]
  rfl

theorem eval_selectWhere {scope : Scope} {scopeOf : α → Scope} {keep : α → Bool}
    (hsource : source.eval db scope = some (xs.map scopeOf))
    (hcondition : ∀ x ∈ xs, condition.Selects db (scopeOf x) false (keep x))
    (hitems : items.any Item.isTotal = false) (hkeys : ∀ a c, items ≠ [.objectKeys a c])
    (hproject : ∀ x ∈ xs, project (scopeOf x) items = some (g x)) :
    (Query.selectWhere items source condition).eval db scope =
      some ((xs.filter keep).map fun x => (scopeOf x, g x)) := by
  have hrows := returnedRows_map hitems hkeys fun x (hx : x ∈ xs.filter keep) =>
    hproject x (List.mem_of_mem_filter hx)
  simp only [Query.eval, hsource, Option.bind_eq_bind, Option.bind_some,
    keepWhere_map hcondition, hrows]

/-- Whether there is a row that a condition is true of. -/
theorem selects_existsWhere {scope : Scope} {scopeOf : α → Scope} {keep : α → Bool}
    {known : Bool} (hsource : source.eval db scope = some (xs.map scopeOf))
    (hcondition : ∀ x ∈ xs, condition.Selects db (scopeOf x) false (keep x)) :
    (Expr.exists_ (.selectWhere [.one] source condition)).Selects db scope known
      (xs.any keep) := by
  have hrows : (Query.selectWhere [.one] source condition).eval db scope =
      some ((xs.filter keep).map fun x => (scopeOf x, [(none, .int 1)])) :=
    eval_selectWhere hsource hcondition rfl (fun _ _ => nofun) fun _ _ => rfl
  have hany : xs.any keep = !(xs.filter keep).isEmpty := by
    rw [Bool.eq_iff_iff, List.any_eq_true, Bool.not_eq_true', ← Bool.not_eq_true,
      List.isEmpty_iff, List.filter_eq_nil_iff]
    simp
  rw [hany]
  apply Expr.Selects.of_truth
  apply Expr.truth_of_eval_truth
  simp only [Expr.eval, hrows, Option.bind_eq_bind, Option.bind_some, Option.pure_def,
    List.isEmpty_map]

theorem returns_selectWhere {keep : α → Bool} (h : source.Gives db a (xs.map f))
    (hcondition : ∀ scope, ∀ x ∈ xs,
      condition.Selects db ((a, f x) :: scope) false (keep x))
    (hitems : items.any Item.isTotal = false) (hkeys : ∀ a c, items ≠ [.objectKeys a c])
    (hproject : ∀ scope, ∀ x ∈ xs, project ((a, f x) :: scope) items = some (g x)) :
    (Query.selectWhere items source condition).Returns db ((xs.filter keep).map g) := by
  intro scope
  refine ⟨_, eval_selectWhere (h.eval_map scope) (hcondition scope) hitems hkeys
    (hproject scope), ?_⟩
  rw [List.map_map]
  rfl

/-- A join has the pairs of rows that its condition selects. -/
theorem eval_join {left right : Source} {k : β → Fields} (keep : α → β → Bool) {scope : Scope}
    (hleft : left.Gives db a (xs.map f)) (hright : right.Gives db other (ys.map k))
    (hcondition : ∀ x ∈ xs, ∀ y ∈ ys,
      condition.Selects db ((other, k y) :: (a, f x) :: scope) false (keep x y)) :
    (Source.join left right condition).eval db scope =
      some (((xs ×ˢ ys).filter fun pair => keep pair.1 pair.2).map fun pair =>
        (other, k pair.2) :: (a, f pair.1) :: scope) := by
  have hpairs : (xs.map fun x => (a, f x) :: scope).mapM (fun inner => right.eval db inner) =
      some (xs.map fun x => ys.map fun y => (other, k y) :: (a, f x) :: scope) := by
    rw [List.mapM_map]
    apply mapM_eq_some
    intro x _
    exact hright.eval_map _
  have hflat : (xs.map fun x => ys.map fun y => (other, k y) :: (a, f x) :: scope).flatten =
      (xs ×ˢ ys).map fun pair => (other, k pair.2) :: (a, f pair.1) :: scope := by
    simp only [SProd.sprod, List.product, List.map_flatMap, List.map_map]
    rfl
  simp only [Source.eval, hleft.eval_map, Option.bind_eq_bind, Option.bind_some, hpairs, hflat]
  apply keepWhere_map
  rintro ⟨x, y⟩ hxy
  obtain ⟨hx, hy⟩ := List.pair_mem_product.mp hxy
  exact hcondition x hx y hy

end Selections

end CatalogQuery.Sql
