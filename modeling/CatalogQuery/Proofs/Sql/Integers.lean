/-
The integers of a query.  Constants and positions in a document are integers of the conditions
they stand in, windows count rows, and some selections and orders are written with a number of
their own.  The text of a query has these integers outside of its literals and no others.
-/
import CatalogQuery.Proofs.Sql.Numerals
import CatalogQuery.Proofs.Sql.Scopes

namespace CatalogQuery.Sql

def Item.integers : Item → List Int
  | .one => [1]
  | .total _ _ => [0]
  | .column _ _ | .bare _ | .missing _ | .everything | .rowCount | .objectKeys _ _ => []

def OrderKey.integers : OrderKey → List Int
  | .column _ _ => []
  | .firstItem => [1]

def Window.integers : Window → List Int
  | .all => []
  | .first count | .after count => [count.toNat]
  | .afterUnlimited count => [-1, count.toNat]

mutual

def Expr.integers : Expr → List Int
  | .integer n => [n]
  | .column _ _ | .text _ | .real _ | .boolean _ => []
  | .binary _ left right | .guarded left right => left.integers ++ right.integers
  | .group e | .not e | .isNull e | .isNotNull e | .like e _ | .oneOf e _ | .jsonType e _
  | .jsonExtract e _ | .jsonArrayLength e _ | .jsonbMember e _ | .jsonbType e | .jsonbText e
  | .jsonbCast e _ | .jsonbArrayLength e => e.integers
  | .jsonbItem e i => e.integers ++ [i]
  | .within e q => e.integers ++ q.integers
  | .exists_ q => q.integers

def Source.integers : Source → List Int
  | .table _ _ => []
  | .derived q _ => q.integers
  | .join left right condition => left.integers ++ (right.integers ++ condition.integers)
  | .cross left right => left.integers ++ right.integers
  | .jsonItems e _ _ | .jsonMembers e _ | .jsonbItems e _ => e.integers

/-- The integers of a query.  A text that is taken as it is has none of its own. -/
def Query.integers : Query → List Int
  | .select _ items source => items.flatMap Item.integers ++ source.integers
  | .selectWhere items source condition =>
    items.flatMap Item.integers ++ (source.integers ++ condition.integers)
  | .ordered q key window => q.integers ++ (key.integers ++ window.integers)
  | .combined _ left right => left.integers ++ right.integers
  | .closure base step => base.integers ++ step.integers
  | .verbatim _ => []

end

section Labels

variable (a : Alias) (c : Column)

theorem isWord_tableLabel (t : Table) : IsWord t.label.toList := by
  cases t <;> decide

theorem isWord_columnLabel : IsWord c.label.toList := by
  cases c <;> decide

theorem isWord_aliasLabel : IsWord a.label.toList := by
  cases a with
  | u i =>
      have hletter : IsWord "u".toList := by decide
      rw [Alias.label, String.toList_append, toList_toString_nat]
      exact hletter.append (areDigits_toDigits i).goesOn
  | _ => decide

theorem isWord_qualified : IsWord (qualified a c).toList := by
  have hpoint : GoesOn ".".toList := by decide
  have hcolumn : GoesOn c.label.toList := by cases c <;> decide
  rw [qualified, String.toList_append, String.toList_append, List.append_assoc]
  exact (isWord_aliasLabel a).append (hpoint.append hcolumn)

end Labels

/-- Characters between two others that belong to neither, and have no integer in them. -/
def IsJoint (cs : List Char) : Prop := Closes cs [] ∧ IsApart cs ∧ cs ≠ []

instance (cs : List Char) : Decidable (IsJoint cs) := inferInstanceAs (Decidable (_ ∧ _ ∧ _))

theorem isJoint_operator (op : BinaryOp) : IsJoint (" " ++ op.name ++ " ").toList := by
  cases op with
  | matching ignoreCase negated => cases ignoreCase <;> cases negated <;> decide
  | _ => decide

theorem isJoint_setOperator (op : SetOperation) : IsJoint (" " ++ op.name ++ " ").toList := by
  cases op <;> decide

/-- Characters that stand between two rows. -/
theorem Reads.joined {cs ds joint : List Char} {is js : List Int} (h : Reads cs is)
    (hjoint : IsJoint joint) (h' : Reads ds js) : Reads (cs ++ (joint ++ ds)) (is ++ js) :=
  h.append (hjoint.1.reads_append h') (hjoint.2.1.append hjoint.2.2 ds)

theorem reads_item (item : Item) : Reads item.write.toList item.integers := by
  cases item with
  | column a c => exact (isWord_qualified a c).reads
  | bare c => exact (isWord_columnLabel c).reads
  | missing c =>
      have hwrite : (Item.missing c).write = "null as " ++ c.label := rfl
      have hnull : Closes "null as ".toList [] := by decide
      rw [hwrite, String.toList_append]
      exact hnull.reads_append (isWord_columnLabel c).reads
  | everything => decide
  | one => decide
  | rowCount => decide
  | total a c =>
      have hwrite : (Item.total a c).write = "coalesce(sum(" ++ qualified a c ++ "), 0)" := rfl
      have hopen : Closes "coalesce(sum(".toList [] := by decide
      have hzero : Reads "), 0)".toList [0] := by decide
      rw [hwrite, String.toList_append, String.toList_append]
      exact (hopen.reads_append (isWord_qualified a c).reads).append hzero (by decide)
  | objectKeys a c =>
      have hwrite : (Item.objectKeys a c).write =
          "jsonb_object_keys(" ++ qualified a c ++ ") as key" := rfl
      have hopen : Closes "jsonb_object_keys(".toList [] := by decide
      have hname : Reads ") as key".toList [] := by decide
      rw [hwrite, String.toList_append, String.toList_append]
      exact (hopen.reads_append (isWord_qualified a c).reads).append hname (by decide)

theorem reads_items (items : List Item) :
    Reads (", ".intercalate (items.map Item.write)).toList (items.flatMap Item.integers) := by
  induction items with
  | nil =>
      rw [List.map_nil, String.intercalate_nil]
      decide
  | cons item rest ih =>
      cases rest with
      | nil =>
          rw [List.map_singleton, String.intercalate_singleton, List.flatMap_singleton]
          exact reads_item item
      | cons other rest =>
          rw [List.map_cons, List.map_cons, String.intercalate_cons_cons, String.toList_append,
            String.toList_append, List.append_assoc, List.flatMap_cons]
          exact (reads_item item).joined (by decide) ih

theorem closes_writeSelect (distinct : Bool) (items : List Item) :
    Closes (writeSelect distinct items).toList (items.flatMap Item.integers) := by
  have hselect : Closes (if distinct then "select distinct " else "select ").toList [] := by
    split <;> decide
  have hfrom : Closes " from ".toList [] := by decide
  have hall := (hselect.reads_append (reads_items items)).closes hfrom (by decide) (by decide)
  rw [List.append_nil] at hall
  rw [writeSelect, String.toList_append, String.toList_append]
  exact hall

theorem reads_orderKey (key : OrderKey) :
    Reads (" order by " ++ key.write).toList key.integers := by
  have horder : Closes " order by ".toList [] := by decide
  rw [String.toList_append]
  cases key with
  | column a c => exact horder.reads_append (isWord_qualified a c).reads
  | firstItem => decide

/-- The text of the pieces has these integers. -/
def Says (ps : List Piece) (is : List Int) : Prop := Reads (writePieces ps).toList is

/-- The text of the pieces has these integers, and may stand behind anything. -/
def Trails (ps : List Piece) (is : List Int) : Prop :=
  Says ps is ∧ IsApart (writePieces ps).toList

section Pieces

variable {ps qs : List Piece} {is js : List Int} {w : String}

theorem says_piece {p : Piece} (h : Reads p.write.toList is) : Says [p] is := by
  have htext : (writePieces [p]).toList = p.write.toList := by
    rw [toList_writePieces_cons]
    exact List.append_nil _
  rw [Says, htext]
  exact h

theorem Says.word (h : Says ps js) (hw : Closes w.toList is) :
    Says (.word w :: ps) (is ++ js) := by
  rw [Says, toList_writePieces_cons]
  exact hw.reads_append h

theorem Says.opened (h : Says ps is) (hw : Closes w.toList []) : Says (.word w :: ps) is :=
  h.word hw

theorem Says.text (h : Says ps is) (s : String) : Says (.text s :: ps) is := by
  rw [Says, toList_writePieces_cons]
  exact (closes_quoteText s).reads_append h

theorem Says.append (h : Says ps is) (h' : Trails qs js) : Says (ps ++ qs) (is ++ js) := by
  rw [Says, toList_writePieces_append]
  exact Reads.append h h'.1 h'.2

theorem Says.append_nil (h : Says ps is) (h' : Trails qs []) : Says (ps ++ qs) is := by
  have hall := h.append h'
  rw [List.append_nil] at hall
  exact hall

theorem Says.trails (h : Says ps is) (hw : IsJoint w.toList) : Trails (.word w :: ps) is := by
  refine ⟨h.word hw.1, ?_⟩
  rw [toList_writePieces_cons]
  exact hw.2.1.append hw.2.2 _

theorem trails_last (h : Reads w.toList is) (hw : IsApart w.toList) : Trails [.word w] is := by
  refine ⟨says_piece h, ?_⟩
  rw [toList_writePieces_cons]
  exact (List.append_nil w.toList).symm ▸ hw

theorem says_nil : Says [] [] := ⟨[], .gap false, rfl, nofun, rfl⟩

/-- Pieces between one word and what ends the parenthesis that the word opens. -/
theorem Says.bracketed (h : Says ps is) (hopening : Closes w.toList []) (h' : Trails qs []) :
    Says (.word w :: (ps ++ qs)) is :=
  (h.append_nil h').opened hopening

theorem Says.joined (h : Says ps is) (hw : IsJoint w.toList) (h' : Says qs js) :
    Says (ps ++ .word w :: qs) (is ++ js) :=
  h.append (h'.trails hw)

theorem trails_named (a : Alias) : Trails [.word (") " ++ a.label)] [] := by
  have hclose : Closes ") ".toList [] := by decide
  have hapart : IsApart ") ".toList := by decide
  have htext : (") " ++ a.label).toList = ") ".toList ++ a.label.toList := String.toList_append
  exact trails_last (htext ▸ hclose.reads_append (isWord_aliasLabel a).reads)
    (htext ▸ hapart.append (by decide) _)

/-- The second argument of a function is a path, whatever its keys are. -/
theorem trails_path {path : List PathStep} (h : Trails qs []) :
    Trails (.word ", " :: .text (writePath path) :: qs) [] :=
  (h.1.text _).trails (by decide)

theorem says_separated {separator : String} (hseparator : IsJoint separator.toList)
    {rows : List (List Piece)} (h : ∀ ps ∈ rows, Says ps []) :
    Says (separated separator rows) [] := by
  fun_induction separated separator rows with
  | case1 => exact says_nil
  | case2 ps => exact h ps List.mem_cons_self
  | case3 ps qs rest ih =>
      obtain ⟨hps, hrest⟩ := List.forall_mem_cons.mp h
      exact hps.joined hseparator (ih hrest)

theorem says_integer (n : Int) : Says [.integer n] [n] := says_piece (reads_toString_int n)

theorem trails_window (window : Window) : Trails window.pieces window.integers := by
  cases window with
  | all => exact ⟨says_nil, by decide⟩
  | first count => exact (says_integer _).trails (by decide)
  | after count => exact (says_integer _).trails (by decide)
  | afterUnlimited count =>
      exact ((says_integer (-1)).append ((says_integer _).trails (by decide))).trails (by decide)

theorem trails_order (key : OrderKey) (window : Window) :
    Trails (.word (" order by " ++ key.write) :: window.pieces)
      (key.integers ++ window.integers) := by
  have hapart : IsApart " order by ".toList := by decide
  refine ⟨(says_piece (p := .word _) (reads_orderKey key)).append (trails_window window), ?_⟩
  rw [toList_writePieces_cons, Piece.write, String.toList_append, List.append_assoc]
  exact hapart.append (by decide) _

end Pieces

theorem trails_closing : Trails [.word ")"] [] := trails_last (by decide) (by decide)

mutual

/-- The text of a well scoped expression has the integers of the expression. -/
theorem says_expr : ∀ (e : Expr) {reach : Reach}, e.IsWellScoped reach → Says e.pieces e.integers
  | .column a c, _, _ => says_piece (isWord_qualified a c).reads
  | .text s, _, _ => says_piece (closes_quoteText s).reads
  | .integer n, _, _ => says_integer n
  | .real x, _, _ => says_piece (reads_write x)
  | .boolean b, _, _ => by
      apply says_piece
      cases b <;> decide
  | .group e, _, h => (says_expr e h).bracketed (by decide) trails_closing
  | .binary op left right, _, h =>
      (says_expr left h.1).joined (isJoint_operator op) (says_expr right h.2)
  | .not e, _, h => (says_expr e h).opened (by decide)
  | .isNull e, _, h => (says_expr e h).append_nil (trails_last (by decide) (by decide))
  | .isNotNull e, _, h => (says_expr e h).append_nil (trails_last (by decide) (by decide))
  | .like e pattern, _, h => by
      have hescape : Says [.word " escape ", .text "\\"] [] :=
        (says_nil.text _).opened (by decide)
      exact (says_expr e h).append_nil ((hescape.text pattern).trails (by decide))
  | .oneOf e values, _, h => by
      have hvalues : Says (separated ", " (values.map fun v => [.text v])) [] := by
        apply says_separated (by decide)
        intro ps hps
        obtain ⟨v, -, rfl⟩ := List.mem_map.mp hps
        exact says_nil.text v
      exact (says_expr e h).append_nil ((hvalues.append_nil trails_closing).trails (by decide))
  | .within e q, _, h =>
      (says_expr e h.1).joined (by decide) ((says_query q h.2).append_nil trails_closing)
  | .exists_ q, _, h => (says_query q h).bracketed (by decide) trails_closing
  | .guarded guard test, _, h => by
      have htest := (says_expr test h.2).append_nil
        (trails_last (w := " else false end") (by decide) (by decide))
      exact ((says_expr guard h.1).joined (by decide) htest).opened (by decide)
  | .jsonType document _, _, h =>
      (says_expr document h).bracketed (by decide) (trails_path trails_closing)
  | .jsonExtract document _, _, h =>
      (says_expr document h).bracketed (by decide) (trails_path trails_closing)
  | .jsonArrayLength document _, _, h =>
      (says_expr document h).bracketed (by decide) (trails_path trails_closing)
  | .jsonbMember e key, _, h =>
      (says_expr e h).bracketed (by decide) ((trails_closing.1.text key).trails (by decide))
  | .jsonbItem e i, _, h => by
      have hitem := ((says_integer i).append_nil trails_closing).trails
        (w := " -> ") (by decide)
      exact ((says_expr e h).append hitem).opened (by decide)
  | .jsonbType e, _, h => (says_expr e h).bracketed (by decide) trails_closing
  | .jsonbText e, _, h =>
      (says_expr e h).bracketed (by decide) ((trails_closing.1.text _).trails (by decide))
  | .jsonbCast e type, _, h => by
      have htype : Trails [.word (")::" ++ type.name)] [] := by
        cases type <;> exact trails_last (by decide) (by decide)
      exact (says_expr e h).bracketed (by decide) htype
  | .jsonbArrayLength e, _, h => (says_expr e h).bracketed (by decide) trails_closing

/-- The text of a well scoped source has the integers of the source. -/
theorem says_source : ∀ (source : Source) {reach : Reach}, source.IsWellScoped reach →
    Says source.pieces source.integers
  | .table t a, _, _ => by
      apply says_piece
      have hname : Reads (t.label.toList ++ (" ".toList ++ a.label.toList)) [] :=
        (isWord_tableLabel t).reads.joined (by decide) (isWord_aliasLabel a).reads
      rw [Piece.write, String.toList_append, String.toList_append, List.append_assoc]
      exact hname
  | .derived q a, _, h => (says_query q h).bracketed (by decide) (trails_named a)
  | .join left right condition, _, h =>
      (says_source left h.1).joined (by decide)
        ((says_source right h.2.1).joined (by decide) (says_expr condition h.2.2))
  | .cross left right, _, h =>
      (says_source left h.1).joined (by decide) (says_source right h.2)
  | .jsonItems document _ a, _, h =>
      (says_expr document h).bracketed (by decide) (trails_path (trails_named a))
  | .jsonMembers document a, _, h => (says_expr document h).bracketed (by decide) (trails_named a)
  | .jsonbItems e a, _, h => by
      have hclose : Closes ") ".toList [] := by decide
      have hcolumn : Reads "(v)".toList [] := by decide
      have htext : (") " ++ a.label ++ "(v)").toList =
          ") ".toList ++ (a.label.toList ++ "(v)".toList) := by
        rw [String.toList_append, String.toList_append, List.append_assoc]
      have hreads : Reads (") " ++ a.label ++ "(v)").toList [] :=
        htext ▸ hclose.reads_append ((isWord_aliasLabel a).reads.append hcolumn (by decide))
      have hapart : IsApart ") ".toList := by decide
      have hitems : Trails [.word (") " ++ a.label ++ "(v)")] [] :=
        trails_last hreads (htext ▸ hapart.append (by decide) _)
      exact (says_expr e h).bracketed (by decide) hitems

/-- The text of a well scoped query has the integers of the query.  A text that is taken as it is
could have any, but it is not well scoped. -/
theorem says_query : ∀ (q : Query) {reach : Reach}, q.IsWellScoped reach →
    Says q.pieces q.integers
  | .select distinct items source, _, h =>
      (says_source source h.1).word (closes_writeSelect distinct items)
  | .selectWhere items source condition, _, h =>
      ((says_source source h.1).joined (by decide) (says_expr condition h.2.2)).word
        (closes_writeSelect false items)
  | .ordered q key window, _, h => (says_query q h.1).append (trails_order key window)
  | .combined op left right, _, h =>
      (says_query left h.1).joined (isJoint_setOperator op) (says_query right h.2)
  | .closure base step, _, h => by
      have hstep := (says_query step h.2).append_nil
        (trails_last (w := ") select namespace, name from closure") (by decide) (by decide))
      exact ((says_query base h.1).joined (by decide) hstep).opened (by decide)
  | .verbatim _, _, h => h.elim

end

/-- The integers that a reader finds in the text of a well scoped query are those of the query,
in their order. -/
theorem integerLiterals_text {q : Query} {reach : Reach} (h : q.IsWellScoped reach) :
    integerLiterals q.text = q.integers :=
  integerLiterals_of_reads (says_query q h)

end CatalogQuery.Sql
