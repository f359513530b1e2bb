/-
The optional columns that queries read.  A query for files fills the metadata and the
provenance of its rows only where they are needed and leaves `null` in their place
otherwise.  A query is well scoped if each of those columns that it reads is read from a
relation that fills it, at every depth of its subqueries.  The condition of a normal form
reads nothing but the document that it is about.
-/
import CatalogQuery.Proofs.Sql.Composition
import Mathlib.Logic.Function.Basic

namespace CatalogQuery.Sql

/-- The columns that a query for files does not always fill. -/
def Column.IsOptional : Column → Prop
  | .metadata | .parents | .children => True
  | _ => False

def Table.Fills (c : Column) : Table → Prop
  | .files | .datasets => c = .metadata
  | .filesWithProvenance => c.IsOptional
  | _ => False

mutual

/-- The query returns the column with what a relation has in it. -/
def Query.Fills (c : Column) : Query → Prop
  | .select _ items source | .selectWhere items source _ =>
    (∃ a, .column a c ∈ items) ∨ (.everything ∈ items ∧ source.Fills c)
  | .ordered q _ _ => q.Fills c
  | .combined _ left right => left.Fills c ∧ right.Fills c
  | .closure _ _ | .verbatim _ => False

def Source.Fills (c : Column) : Source → Prop
  | .table t _ => t.Fills c
  | .derived q _ => q.Fills c
  | .join left right _ | .cross left right => left.Fills c ∨ right.Fills c
  | .jsonItems _ _ _ | .jsonMembers _ _ | .jsonbItems _ _ => False

end

/-- Which optional columns the relation of a name fills, at some place of a query. -/
abbrev Reach := Alias → Column → Prop

def Reach.nothing : Reach := fun _ _ => False

/-- The columns in reach behind a source.  A relation hides one of the same name. -/
def Source.reach (outer : Reach) : Source → Reach
  | .table t a => Function.update outer a fun c => t.Fills c
  | .derived q a => Function.update outer a fun c => q.Fills c
  | .join left right _ | .cross left right => right.reach (left.reach outer)
  | .jsonItems _ _ a | .jsonMembers _ a | .jsonbItems _ a => Function.update outer a fun _ => False

/-- A returned column is filled where it is optional. -/
def Item.IsWellScoped (reach : Reach) : Item → Prop
  | .column a c | .total a c | .objectKeys a c => c.IsOptional → reach a c
  | .bare c => ¬c.IsOptional
  | .missing _ | .everything | .one | .rowCount => True

/-- Rows are not ordered by an optional column. -/
def OrderKey.IsWellScoped : OrderKey → Prop
  | .column _ c => ¬c.IsOptional
  | .firstItem => True

mutual

/-- Each optional column that the expression reads is filled. -/
def Expr.IsWellScoped (reach : Reach) : Expr → Prop
  | .column a c => c.IsOptional → reach a c
  | .text _ | .integer _ | .real _ | .boolean _ => True
  | .binary _ left right | .guarded left right =>
    left.IsWellScoped reach ∧ right.IsWellScoped reach
  | .group e | .not e | .isNull e | .isNotNull e | .like e _ | .oneOf e _ | .jsonType e _
  | .jsonExtract e _ | .jsonArrayLength e _ | .jsonbMember e _ | .jsonbItem e _ | .jsonbType e
  | .jsonbText e | .jsonbCast e _ | .jsonbArrayLength e => e.IsWellScoped reach
  | .within e q => e.IsWellScoped reach ∧ q.IsWellScoped reach
  | .exists_ q => q.IsWellScoped reach

/-- Each optional column that the source reads is filled. -/
def Source.IsWellScoped (reach : Reach) : Source → Prop
  | .table _ _ => True
  | .derived q _ => q.IsWellScoped reach
  | .join left right condition =>
    left.IsWellScoped reach ∧ right.IsWellScoped (left.reach reach) ∧
      condition.IsWellScoped (right.reach (left.reach reach))
  | .cross left right => left.IsWellScoped reach ∧ right.IsWellScoped (left.reach reach)
  | .jsonItems e _ _ | .jsonMembers e _ | .jsonbItems e _ => e.IsWellScoped reach

/-- Each optional column that the query reads is filled.  What a text reads is not known,
so a query that is given as one is not well scoped. -/
def Query.IsWellScoped (reach : Reach) : Query → Prop
  | .select _ items source =>
    source.IsWellScoped reach ∧ ∀ item ∈ items, item.IsWellScoped (source.reach reach)
  | .selectWhere items source condition =>
    source.IsWellScoped reach ∧ (∀ item ∈ items, item.IsWellScoped (source.reach reach)) ∧
      condition.IsWellScoped (source.reach reach)
  | .ordered q key _ => q.IsWellScoped reach ∧ key.IsWellScoped
  | .combined _ left right => left.IsWellScoped reach ∧ right.IsWellScoped reach
  | .closure base step => base.IsWellScoped reach ∧ step.IsWellScoped reach
  | .verbatim _ => False

end

theorem isWellScoped_literal (reach : Reach) (c : Constant) : (literal c).IsWellScoped reach := by
  cases c <;> trivial

theorem isWellScoped_truth (reach : Reach) (dialect : Dialect) (b : Bool) :
    (truth dialect b).IsWellScoped reach := by
  cases dialect <;> cases b <;> trivial

/-- What is read of an item of an array is no optional column. -/
theorem IsElement.isWellScoped {e : Expr} (h : IsElement e) (reach : Reach) :
    e.IsWellScoped reach := by
  cases h <;> exact nofun

/-- A selection that returns nothing but a constant. -/
theorem isWellScoped_exists {source : Source} {condition : Expr} {reach : Reach}
    (h : source.IsWellScoped reach) (hcondition : condition.IsWellScoped (source.reach reach)) :
    (Expr.exists_ (.selectWhere [.one] source condition)).IsWellScoped reach := by
  refine ⟨h, fun item hitem => ?_, hcondition⟩
  rw [List.mem_singleton.mp hitem]
  trivial

/-- What is built from well scoped parts is well scoped. -/
theorem Expr.IsBuiltFrom.isWellScoped {p : Expr → Prop} {e : Expr} (h : e.IsBuiltFrom p)
    {reach : Reach} (hp : ∀ e, p e → e.IsWellScoped reach) : e.IsWellScoped reach := by
  induction h generalizing reach with
  | part h => exact hp _ h
  | text s => trivial
  | literal c => exact isWellScoped_literal reach c
  | truth dialect b => exact isWellScoped_truth reach dialect b
  | binary op _ _ ihleft ihright => exact ⟨ihleft hp, ihright hp⟩
  | guarded _ _ ihguard ihtest => exact ⟨ihguard hp, ihtest hp⟩
  | someJsonItem _ _ _ ih ihcondition | someJsonbItem _ _ ih ihcondition =>
      exact isWellScoped_exists (ih hp) (ihcondition fun e he => he.isWellScoped _)
  | group _ ih | not _ ih | isNull _ ih | isNotNull _ ih | jsonbType _ ih | jsonbText _ ih
  | jsonbArrayLength _ ih => exact ih hp
  | oneOf _ _ ih | jsonType _ _ ih | jsonExtract _ _ ih | jsonArrayLength _ _ ih
  | jsonbMember _ _ ih | jsonbItem _ _ ih | jsonbCast _ _ ih => exact ih hp

/-- The condition of a normal form reads the document and no other optional column. -/
theorem isWellScoped_condition {reach : Reach} {document : Expr}
    (h : document.IsWellScoped reach) (dialect : Dialect) (form : Dnf) :
    (condition dialect document form).IsWellScoped reach := by
  apply (isBuiltFrom_condition dialect document form).isWellScoped
  rintro e rfl
  exact h

end CatalogQuery.Sql
