/-
What a caller writes into a query stays inside of the literals of its text.  The words of a
query's text keep parentheses balanced and begin no comment, and everything that comes from
outside, such as the name of a dataset, a key of a path or a pattern, is a piece of its own that
is quoted.  The one form of a query that is not made of such pieces, a text that is taken as it
is, does not occur in what a tree is compiled to.
-/
import CatalogQuery.Proofs.ColumnContract
import CatalogQuery.Proofs.Sql.Outside

namespace CatalogQuery.Sql

section Labels

variable (a : Alias) (c : Column)

theorem isInert_tableLabel (t : Table) : IsInert t.label.toList := by
  cases t <;> decide

theorem isInert_columnLabel : IsInert c.label.toList := by
  cases c <;> decide

theorem isInert_aliasLabel : IsInert a.label.toList := by
  cases a with
  | u i =>
      have hletter : IsInert "u".toList := by decide
      rw [Alias.label, String.toList_append, toList_toString_nat]
      exact hletter.append (isInert_toDigits i)
  | _ => decide

theorem isInert_qualified : IsInert (qualified a c).toList := by
  rw [qualified, String.toList_append, String.toList_append]
  exact ((isInert_aliasLabel a).append (by decide)).append (isInert_columnLabel c)

theorem plain_qualified (d : Nat) : Plain d d (qualified a c).toList :=
  (isInert_qualified a c).plain d

theorem plain_operator (op : BinaryOp) : Plain 0 0 (" " ++ op.name ++ " ").toList := by
  cases op with
  | matching ignoreCase negated => cases ignoreCase <;> cases negated <;> decide
  | _ => decide

theorem plain_setOperator (op : SetOperation) : Plain 0 0 (" " ++ op.name ++ " ").toList := by
  cases op <;> decide

end Labels

theorem plain_item (item : Item) : Plain 0 0 item.write.toList := by
  cases item with
  | column a c => exact plain_qualified a c 0
  | bare c => exact (isInert_columnLabel c).plain 0
  | missing c =>
      have hwrite : (Item.missing c).write = "null as " ++ c.label := rfl
      have hnull : IsInert "null as ".toList := by decide
      rw [hwrite, String.toList_append]
      exact (hnull.append (isInert_columnLabel c)).plain 0
  | everything => decide
  | one => decide
  | rowCount => decide
  | total a c =>
      have hwrite : (Item.total a c).write = "coalesce(sum(" ++ qualified a c ++ "), 0)" := rfl
      have hopen : Plain 0 2 "coalesce(sum(".toList := by decide
      rw [hwrite, String.toList_append, String.toList_append]
      exact (hopen.append (plain_qualified a c 2)).append (by decide)
  | objectKeys a c =>
      have hwrite : (Item.objectKeys a c).write =
          "jsonb_object_keys(" ++ qualified a c ++ ") as key" := rfl
      have hopen : Plain 0 1 "jsonb_object_keys(".toList := by decide
      rw [hwrite, String.toList_append, String.toList_append]
      exact (hopen.append (plain_qualified a c 1)).append (by decide)

theorem plain_intercalate {separator : String} (hseparator : Plain 0 0 separator.toList)
    {texts : List String} (h : ∀ s ∈ texts, Plain 0 0 s.toList) :
    Plain 0 0 (separator.intercalate texts).toList := by
  induction texts with
  | nil =>
      rw [String.intercalate_nil]
      exact .nil 0
  | cons s rest ih =>
      obtain ⟨hs, hrest⟩ := List.forall_mem_cons.mp h
      cases rest with
      | nil =>
          rw [String.intercalate_singleton]
          exact hs
      | cons s' rest =>
          rw [String.intercalate_cons_cons, String.toList_append, String.toList_append]
          exact (hs.append hseparator).append (ih hrest)

theorem plain_writeSelect (distinct : Bool) (items : List Item) :
    Plain 0 0 (writeSelect distinct items).toList := by
  have hitems : Plain 0 0 (", ".intercalate (items.map Item.write)).toList := by
    apply plain_intercalate (by decide)
    intro s hs
    obtain ⟨item, -, rfl⟩ := List.mem_map.mp hs
    exact plain_item item
  have hselect : Plain 0 0 (if distinct then "select distinct " else "select ").toList := by
    split <;> decide
  rw [writeSelect, String.toList_append, String.toList_append]
  exact (hselect.append hitems).append (by decide)

theorem plain_orderKey (key : OrderKey) : Plain 0 0 (" order by " ++ key.write).toList := by
  cases key with
  | column a c =>
      have horder : IsInert " order by ".toList := by decide
      rw [OrderKey.write, String.toList_append]
      exact (horder.append (isInert_qualified a c)).plain 0
  | firstItem => decide

namespace Plain

variable {a b c : Nat} {s opening : String} {ps qs : List Piece}

theorem word (hs : Plain a b s.toList) (h : Plain b c (outsideOf ps)) :
    Plain a c (outsideOf (.word s :: ps)) :=
  hs.append h

theorem integer (n : Int) (h : Plain a b (outsideOf ps)) :
    Plain a b (outsideOf (.integer n :: ps)) :=
  (plain_toString_int n a).append h

theorem pieces (h : Plain a b (outsideOf ps)) (h' : Plain b c (outsideOf qs)) :
    Plain a c (outsideOf (ps ++ qs)) := by
  rw [outsideOf, List.flatMap_append]
  exact h.append h'

/-- Plain pieces stand between one word and what ends the parenthesis that the word opens. -/
theorem bracketed (h : Plain 0 0 (outsideOf ps)) (hopening : Plain 0 1 opening.toList)
    (hclosing : Plain 1 c (outsideOf qs)) : Plain 0 c (outsideOf (.word opening :: (ps ++ qs))) :=
  word hopening ((h.shift 1).pieces hclosing)

end Plain

theorem plain_closing {s : String} (h : Plain 1 0 s.toList) : Plain 1 0 (outsideOf [.word s]) :=
  h.word (.nil 0)

theorem plain_named (a : Alias) : Plain 1 0 (outsideOf [.word (") " ++ a.label)]) := by
  have hclose : Plain 1 0 ") ".toList := by decide
  apply plain_closing
  rw [String.toList_append]
  exact hclose.append ((isInert_aliasLabel a).plain 0)

/-- The second argument of a function is a path, whatever its keys are. -/
theorem plain_path {path : List PathStep} {s : String} (h : Plain 1 0 s.toList) :
    Plain 1 0 (outsideOf [.word ", ", .text (writePath path), .word s]) := by
  have hcomma : Plain 1 1 ", ".toList := by decide
  exact hcomma.word (plain_closing h)

theorem plain_separated {separator : String} (hseparator : Plain 0 0 separator.toList)
    {rows : List (List Piece)} (h : ∀ ps ∈ rows, Plain 0 0 (outsideOf ps)) :
    Plain 0 0 (outsideOf (separated separator rows)) := by
  fun_induction separated separator rows with
  | case1 => exact .nil 0
  | case2 ps => exact h ps List.mem_cons_self
  | case3 ps qs rest ih =>
      obtain ⟨hps, hrest⟩ := List.forall_mem_cons.mp h
      exact hps.pieces (hseparator.word (ih hrest))

theorem plain_window (window : Window) : Plain 0 0 (outsideOf window.pieces) := by
  have hlimit : Plain 0 0 " limit ".toList := by decide
  have hoffset : Plain 0 0 " offset ".toList := by decide
  cases window with
  | all => exact .nil 0
  | first count => exact hlimit.word (.integer _ (.nil 0))
  | after count => exact hoffset.word (.integer _ (.nil 0))
  | afterUnlimited count => exact hlimit.word (.integer _ (hoffset.word (.integer _ (.nil 0))))

mutual

/-- The pieces of a well scoped expression are plain outside of literals. -/
theorem plain_expr : ∀ (e : Expr) {reach : Reach}, e.IsWellScoped reach →
    Plain 0 0 (outsideOf e.pieces)
  | .column a c, _, _ => (plain_qualified a c 0).word (.nil 0)
  | .text _, _, _ => .nil 0
  | .integer n, _, _ => .integer n (.nil 0)
  | .real x, _, _ => (plain_write x 0).append (.nil 0)
  | .boolean b, _, _ => by
      cases b
      · decide
      · decide
  | .group e, _, h => (plain_expr e h).bracketed (by decide) (plain_closing (by decide))
  | .binary op left right, _, h =>
      (plain_expr left h.1).pieces ((plain_operator op).word (plain_expr right h.2))
  | .not e, _, h => .word (by decide) (plain_expr e h)
  | .isNull e, _, h => (plain_expr e h).pieces (by decide)
  | .isNotNull e, _, h => (plain_expr e h).pieces (by decide)
  | .like e pattern, _, h => by
      have hescape : Plain 0 0 (outsideOf [.word " like ", .text pattern, .word " escape ",
          .text "\\"]) := by
        have hlike : Plain 0 0 " like ".toList := by decide
        have hword : Plain 0 0 " escape ".toList := by decide
        exact hlike.word (hword.word (.nil 0))
      exact (plain_expr e h).pieces hescape
  | .oneOf e values, _, h => by
      have hvalues : Plain 0 0 (outsideOf (separated ", " (values.map fun v => [.text v]))) := by
        apply plain_separated (by decide)
        intro ps hps
        obtain ⟨v, -, rfl⟩ := List.mem_map.mp hps
        exact .nil 0
      exact (plain_expr e h).pieces (hvalues.bracketed (by decide) (plain_closing (by decide)))
  | .within e q, _, h =>
      (plain_expr e h.1).pieces
        ((plain_query q h.2).bracketed (by decide) (plain_closing (by decide)))
  | .exists_ q, _, h => (plain_query q h).bracketed (by decide) (plain_closing (by decide))
  | .guarded guard test, _, h =>
      .word (by decide) ((plain_expr guard h.1).pieces
        (.word (by decide) ((plain_expr test h.2).pieces (by decide))))
  | .jsonType document _, _, h =>
      (plain_expr document h).bracketed (by decide) (plain_path (by decide))
  | .jsonExtract document _, _, h =>
      (plain_expr document h).bracketed (by decide) (plain_path (by decide))
  | .jsonArrayLength document _, _, h =>
      (plain_expr document h).bracketed (by decide) (plain_path (by decide))
  | .jsonbMember e key, _, h => by
      have hkey : Plain 1 0 (outsideOf [.word " -> ", .text key, .word ")"]) := by
        have harrow : Plain 1 1 " -> ".toList := by decide
        exact harrow.word (plain_closing (by decide))
      exact (plain_expr e h).bracketed (by decide) hkey
  | .jsonbItem e i, _, h => by
      have harrow : Plain 1 1 " -> ".toList := by decide
      exact (plain_expr e h).bracketed (by decide)
        (harrow.word (.integer i (plain_closing (by decide))))
  | .jsonbType e, _, h => (plain_expr e h).bracketed (by decide) (plain_closing (by decide))
  | .jsonbText e, _, h => (plain_expr e h).bracketed (by decide) (by decide)
  | .jsonbCast e type, _, h =>
      (plain_expr e h).bracketed (by decide) (plain_closing (by cases type <;> decide))
  | .jsonbArrayLength e, _, h =>
      (plain_expr e h).bracketed (by decide) (plain_closing (by decide))

/-- The pieces of a well scoped source are plain outside of literals. -/
theorem plain_source : ∀ (source : Source) {reach : Reach}, source.IsWellScoped reach →
    Plain 0 0 (outsideOf source.pieces)
  | .table t a, _, _ => by
      have htable : Plain 0 0 (t.label ++ " " ++ a.label).toList := by
        rw [String.toList_append, String.toList_append]
        exact (((isInert_tableLabel t).append (by decide)).append (isInert_aliasLabel a)).plain 0
      exact htable.word (.nil 0)
  | .derived q a, _, h => (plain_query q h).bracketed (by decide) (plain_named a)
  | .join left right condition, _, h =>
      (plain_source left h.1).pieces (.word (by decide) ((plain_source right h.2.1).pieces
        (.word (by decide) (plain_expr condition h.2.2))))
  | .cross left right, _, h =>
      (plain_source left h.1).pieces (.word (by decide) (plain_source right h.2))
  | .jsonItems document path a, _, h => by
      have hcomma : Plain 1 1 ", ".toList := by decide
      exact (plain_expr document h).bracketed (by decide) (hcomma.word (plain_named a))
  | .jsonMembers document a, _, h => (plain_expr document h).bracketed (by decide) (plain_named a)
  | .jsonbItems e a, _, h => by
      have hclose : Plain 1 0 (") " ++ a.label ++ "(v)").toList := by
        have hname : Plain 1 0 ") ".toList := by decide
        rw [String.toList_append, String.toList_append]
        exact (hname.append ((isInert_aliasLabel a).plain 0)).append (by decide)
      exact (plain_expr e h).bracketed (by decide) (plain_closing hclose)

/-- The pieces of a well scoped query are plain outside of literals.  A text that is taken as it
is could be anything, but it is not well scoped. -/
theorem plain_query : ∀ (q : Query) {reach : Reach}, q.IsWellScoped reach →
    Plain 0 0 (outsideOf q.pieces)
  | .select distinct items source, _, h =>
      (plain_writeSelect distinct items).word (plain_source source h.1)
  | .selectWhere items source condition, _, h =>
      (plain_writeSelect false items).word ((plain_source source h.1).pieces
        (.word (by decide) (plain_expr condition h.2.2)))
  | .ordered q key window, _, h =>
      (plain_query q h.1).pieces ((plain_orderKey key).word (plain_window window))
  | .combined op left right, _, h =>
      (plain_query left h.1).pieces ((plain_setOperator op).word (plain_query right h.2))
  | .closure base step, _, h => by
      have hstep : Plain 1 0 (outsideOf (.word " union " ::
          (step.pieces ++ [.word ") select namespace, name from closure"]))) :=
        .word (by decide) (((plain_query step h.2).shift 1).pieces (plain_closing (by decide)))
      exact (plain_query base h.1).bracketed (by decide) hstep
  | .verbatim _, _, h => h.elim

end

theorem isContained_text {q : Query} {reach : Reach} (h : q.IsWellScoped reach) :
    IsContained q.text :=
  (plain_query q h).isContained

end CatalogQuery.Sql

namespace CatalogQuery

/-- The text of every query that a tree is compiled to stays in its form, for files as for
datasets, whatever characters there are in the texts of the tree and of the stored queries. -/
theorem isContained_of_compile (e : Engine) (o : Options) (node : Node) :
    (∀ needs f, e.compileFiles o node needs = .ok (.query f) → Sql.IsContained f.text) ∧
      ∀ q, e.compileDatasets o node = .ok q → Sql.IsContained q.text := by
  refine ⟨fun needs f h => ?_, fun q h => ?_⟩
  · have hhas : (Compiled.query f).Has needs :=
      has_compileCall ((compileCall_root needs node).trans h)
    exact Sql.isContained_text (hhas.isWellScoped .nothing)
  · have hgives := givesDatasets_of_compileDatasets.1 node q h
    exact Sql.isContained_text (hgives.isWellScoped .nothing)

/-- A text that would end a literal and a condition, and begin comments, if it were not quoted. -/
def hostileText : String := "') or 1 = 1; -- \" /*"

def hostileDatasets : Node :=
  .datasets ⟨some hostileText, hostileText, true, true, true⟩

/-- Files whose identifiers, datasets, fields, keys and values are hostile. -/
def hostileFiles : Node :=
  .metaFilter (.union [.list (.ids [hostileText]), .filesOf hostileDatasets])
    (.leaf (.compare ⟨hostileText, .key hostileText⟩ (.order .eq) (.text hostileText)))

theorem isContained_of_compile_hostile : ∃ f q,
    bareEngine.compileFiles {} hostileFiles .ids = .ok (.query f) ∧ Sql.IsContained f.text ∧
      bareEngine.compileDatasets {} hostileDatasets = .ok q ∧ Sql.IsContained q.text := by
  obtain ⟨f, hf⟩ : ∃ f, bareEngine.compileFiles {} hostileFiles .ids = .ok (.query f) := ⟨_, rfl⟩
  obtain ⟨q, hq⟩ : ∃ q, bareEngine.compileDatasets {} hostileDatasets = .ok q := ⟨_, rfl⟩
  exact ⟨f, q, hf, (isContained_of_compile bareEngine {} hostileFiles).1 .ids f hf, hq,
    (isContained_of_compile bareEngine {} hostileDatasets).2 q hq⟩

end CatalogQuery
