/-
Rows in the order of identifiers.  A query for files returns the identifier of the relation
that a row was made of in front of everything else.  Where such a query is put in order by that
identifier, its rows come in increasing order of their identifiers, whatever a window leaves of
them; and its text says so behind everything else, outside of brackets and literals.
-/
import CatalogQuery.Proofs.Containment
import CatalogQuery.Proofs.Sql.FileRows

namespace CatalogQuery.Sql

variable {db : Database} {columns : ColumnSet} {a other : Alias}

/-- The row was made of a relation of this identifier, and returns it first. -/
def BeginsWithId (a : Alias) (id : String) (row : Scope × Fields) : Prop :=
  row.1.column? a .id = some (.text id) ∧ row.2.head? = some (some .id, .text id)

/-- Each row of the query was made of a relation with an identifier, which it returns first. -/
def Query.KeepsIds (db : Database) (a : Alias) (q : Query) : Prop :=
  ∀ scope made, q.eval db scope = some made → ∀ row ∈ made, ∃ id, BeginsWithId a id row

/-- Each row of the source has a relation of this name with an identifier. -/
def Source.HasIds (db : Database) (a : Alias) (source : Source) : Prop :=
  ∀ scope scopes, source.eval db scope = some scopes →
    ∀ inner ∈ scopes, ∃ id, inner.column? a .id = some (.text id)

theorem exists_of_mem_mapM {α β : Type} {f : α → Option β} {xs : List α} {ys : List β}
    (h : xs.mapM f = some ys) : ∀ y ∈ ys, ∃ x ∈ xs, f x = some y := by
  induction xs generalizing ys with
  | nil =>
      cases h
      exact nofun
  | cons x rest ih =>
      rw [List.mapM_cons] at h
      obtain ⟨y, hy, h⟩ := Option.bind_eq_some_iff.mp h
      obtain ⟨others, hothers, h⟩ := Option.bind_eq_some_iff.mp h
      cases h
      intro z hz
      rcases List.mem_cons.mp hz with rfl | hrest
      · exact ⟨x, List.mem_cons_self, hy⟩
      · obtain ⟨w, hw, hfw⟩ := ih hothers z hrest
        exact ⟨w, List.mem_cons_of_mem x hw, hfw⟩

theorem mem_of_mem_keepWhere {condition : Scope → Option Value} {scopes kept : List Scope}
    (h : keepWhere condition scopes = some kept) : ∀ inner ∈ kept, inner ∈ scopes := by
  induction scopes generalizing kept with
  | nil =>
      cases h
      exact nofun
  | cons scope rest ih =>
      rw [keepWhere] at h
      obtain ⟨v, -, h⟩ := Option.bind_eq_some_iff.mp h
      obtain ⟨t, -, h⟩ := Option.bind_eq_some_iff.mp h
      obtain ⟨others, hothers, h⟩ := Option.bind_eq_some_iff.mp h
      cases h
      intro inner hinner
      split at hinner
      · rcases List.mem_cons.mp hinner with rfl | hrest
        · exact List.mem_cons_self
        · exact List.mem_cons_of_mem scope (ih hothers inner hrest)
      · exact List.mem_cons_of_mem scope (ih hothers inner hinner)

/-- A projection returns the identifier first. -/
theorem head?_of_project {scope : Scope} {fields : Fields} {id : String}
    (h : project scope (columns.projection a) = some fields)
    (hid : scope.column? a .id = some (.text id)) : fields.head? = some (some .id, .text id) := by
  obtain ⟨parts, hparts, rfl⟩ := Option.map_eq_some_iff.mp h
  rw [ColumnSet.projection, List.mapM_cons, Item.eval, hid, Option.map_some] at hparts
  obtain ⟨first, hfirst, hparts⟩ := Option.bind_eq_some_iff.mp hparts
  obtain ⟨others, -, hparts⟩ := Option.bind_eq_some_iff.mp hparts
  cases hfirst
  cases hparts
  rfl

theorem returnedRows_projection (scopes : List Scope) :
    returnedRows (columns.projection a) scopes = scopes.mapM fun scope =>
      (project scope (columns.projection a)).map fun fields => (scope, fields) := by
  unfold returnedRows
  split
  · rename_i own c hitems
    exact absurd hitems (projection_ne_objectKeys columns a own c)
  · simp only [any_isTotal_projection, Bool.false_eq_true, if_false]

theorem exists_beginsWithId {scopes : List Scope} {made : List (Scope × Fields)}
    (h : returnedRows (columns.projection a) scopes = some made)
    (hids : ∀ inner ∈ scopes, ∃ id, inner.column? a .id = some (.text id)) :
    ∀ row ∈ made, ∃ id, BeginsWithId a id row := by
  rw [returnedRows_projection] at h
  intro row hrow
  obtain ⟨scope, hscope, hmade⟩ := exists_of_mem_mapM h row hrow
  obtain ⟨fields, hfields, rfl⟩ := Option.map_eq_some_iff.mp hmade
  obtain ⟨id, hid⟩ := hids scope hscope
  exact ⟨id, hid, head?_of_project hfields hid⟩

section Sources

variable {source : Source} {q : Query}

theorem hasIds_filesTable (db : Database) (columns : ColumnSet) :
    (Source.table columns.table .f).HasIds db .f := by
  intro scope scopes h
  cases eval_filesTable.symm.trans h
  intro inner hinner
  obtain ⟨f, -, rfl⟩ := List.mem_map.mp hinner
  exact ⟨f.id, column?_id f⟩

theorem Query.KeepsIds.hasIds_derived (h : q.KeepsIds db other) (a : Alias) :
    (Source.derived q a).HasIds db a := by
  intro scope scopes hscopes
  rw [Source.eval] at hscopes
  obtain ⟨made, hmade, hscopes⟩ := Option.bind_eq_some_iff.mp hscopes
  cases hscopes
  intro inner hinner
  obtain ⟨fields, hfields, rfl⟩ := List.mem_map.mp hinner
  obtain ⟨row, hrow, rfl⟩ := List.mem_map.mp hfields
  obtain ⟨id, -, hhead⟩ := h scope made hmade row hrow
  obtain ⟨rest, hrest⟩ := List.head?_eq_some_iff.mp hhead
  refine ⟨id, ?_⟩
  simp [Scope.column?, Fields.get?, hrest]

theorem Source.HasIds.keepsIds_select (h : source.HasIds db a) (columns : ColumnSet) :
    (Query.select false (columns.projection a) source).KeepsIds db a := by
  intro scope made hmade
  rw [Query.eval] at hmade
  obtain ⟨scopes, hscopes, hmade⟩ := Option.bind_eq_some_iff.mp hmade
  obtain ⟨rows, hrows, hmade⟩ := Option.bind_eq_some_iff.mp hmade
  cases hmade
  exact exists_beginsWithId hrows (h scope scopes hscopes)

theorem Source.HasIds.keepsIds_selectWhere (h : source.HasIds db a) (columns : ColumnSet)
    (condition : Expr) :
    (Query.selectWhere (columns.projection a) source condition).KeepsIds db a := by
  intro scope made hmade
  rw [Query.eval] at hmade
  obtain ⟨scopes, hscopes, hmade⟩ := Option.bind_eq_some_iff.mp hmade
  obtain ⟨kept, hkept, hmade⟩ := Option.bind_eq_some_iff.mp hmade
  apply exists_beginsWithId hmade
  intro inner hinner
  exact h scope scopes hscopes inner (mem_of_mem_keepWhere hkept inner hinner)

end Sources

theorem mayPrecede_text (s t : String) : mayPrecede (.text s) (.text t) = decide (s ≤ t) := by
  have hcompare : compare s t = compareOfLessAndEq s t := rfl
  simp only [mayPrecede, hcompare, compareOfLessAndEq]
  by_cases hlt : s < t
  · have hle : s ≤ t := (String.le_total s t).resolve_right (String.not_le.mpr hlt)
    simp [hlt, hle]
  · by_cases heq : s = t
    · subst heq
      simp
    · have hle : ¬s ≤ t := fun hle => heq (String.le_antisymm hle (String.not_lt.mp hlt))
      simp [hlt, heq, hle]

theorem Window.apply_map {α β : Type} (f : α → β) (rows : List α) (w : Window) :
    w.apply (rows.map f) = (w.apply rows).map f := by
  cases w <;> simp [Window.apply]

theorem Window.apply_sublist {α : Type} (rows : List α) (w : Window) :
    (w.apply rows).Sublist rows := by
  cases w with
  | all => exact List.Sublist.refl rows
  | first count => exact List.take_sublist _ rows
  | after count | afterUnlimited count => exact List.drop_sublist _ rows

/-- Rows with the identifiers that they begin with. -/
theorem exists_ids {made : List (Scope × Fields)} (h : ∀ row ∈ made, ∃ id, BeginsWithId a id row) :
    ∃ keyed : List (String × (Scope × Fields)),
      keyed.map Prod.snd = made ∧ ∀ p ∈ keyed, BeginsWithId a p.1 p.2 := by
  induction made with
  | nil => exact ⟨[], rfl, nofun⟩
  | cons row rest ih =>
      obtain ⟨hrow, hrest⟩ := List.forall_mem_cons.mp h
      obtain ⟨id, hid⟩ := hrow
      obtain ⟨keyed, rfl, hkeyed⟩ := ih hrest
      exact ⟨(id, row) :: keyed, rfl, List.forall_mem_cons.mpr ⟨hid, hkeyed⟩⟩

/-- Rows that begin with identifiers, in increasing order of these. -/
def InIdOrder (a : Alias) (made : List (Scope × Fields)) : Prop :=
  ∃ keyed : List (String × (Scope × Fields)), keyed.map Prod.snd = made ∧
    (∀ p ∈ keyed, BeginsWithId a p.1 p.2) ∧ keyed.Pairwise fun p q => p.1 ≤ q.1

theorem InIdOrder.window {made : List (Scope × Fields)} (h : InIdOrder a made) (w : Window) :
    InIdOrder a (w.apply made) := by
  obtain ⟨keyed, rfl, hids, hsorted⟩ := h
  have hsublist := w.apply_sublist keyed
  refine ⟨w.apply keyed, (w.apply_map Prod.snd keyed).symm, ?_, hsorted.sublist hsublist⟩
  exact fun p hp => hids p (hsublist.subset hp)

theorem inIdOrder_orderRows {made sorted : List (Scope × Fields)}
    (h : ∀ row ∈ made, ∃ id, BeginsWithId a id row)
    (hsorted : orderRows (.column a .id) made = some sorted) : InIdOrder a sorted := by
  obtain ⟨keyed, rfl, hkeyed⟩ := exists_ids h
  let named (p : String × (Scope × Fields)) : Value × (Scope × Fields) := (.text p.1, p.2)
  have hkeys : (keyed.map Prod.snd).mapM
      (fun row => ((OrderKey.column a .id).eval row).map fun v => (v, row)) =
        some (keyed.map named) := by
    rw [List.mapM_map]
    apply mapM_eq_some
    intro p hp
    simp only [Function.comp_apply, OrderKey.eval, (hkeyed p hp).1, Option.map_some, named]
  have hsort : (keyed.map named).mergeSort (fun p q => mayPrecede p.1 q.1) =
      (keyed.mergeSort fun p q => decide (p.1 ≤ q.1)).map named := by
    symm
    apply List.map_mergeSort
    intro p _ q _
    exact (mayPrecede_text p.1 q.1).symm
  simp only [orderRows, hkeys, Option.bind_eq_bind, Option.bind_some, hsort, Option.pure_def,
    Option.some.injEq] at hsorted
  subst hsorted
  refine ⟨keyed.mergeSort fun p q => decide (p.1 ≤ q.1), ?_, fun p hp => ?_, ?_⟩
  · rw [List.map_map]
    rfl
  · exact hkeyed p (List.mem_mergeSort.mp hp)
  · have hsort := fun htrans htotal =>
      @List.pairwise_mergeSort _ (fun p q => decide (p.1 ≤ q.1)) htrans htotal keyed
    refine (hsort ?_ ?_).imp fun h => of_decide_eq_true h
    · intro p q r hpq hqr
      exact decide_eq_true (String.le_trans (of_decide_eq_true hpq) (of_decide_eq_true hqr))
    · intro p q
      simpa using String.le_total p.1 q.1

/-- Rows in order of the identifier of the relation they were made of, wherever the query
stands and whatever the window is. -/
theorem Query.KeepsIds.inIdOrder {q : Query} (h : q.KeepsIds db a) {window : Window}
    {scope : Scope} {made : List (Scope × Fields)}
    (hmade : (Query.ordered q (.column a .id) window).eval db scope = some made) :
    InIdOrder a made := by
  rw [Query.eval] at hmade
  obtain ⟨rows, hrows, hmade⟩ := Option.bind_eq_some_iff.mp hmade
  obtain ⟨sorted, hsorted, hmade⟩ := Option.bind_eq_some_iff.mp hmade
  cases hmade
  exact (inIdOrder_orderRows (h scope rows hrows) hsorted).window window

theorem InIdOrder.exists_beginsWithId {made : List (Scope × Fields)} (h : InIdOrder a made) :
    ∀ row ∈ made, ∃ id, BeginsWithId a id row := by
  obtain ⟨keyed, rfl, hids, -⟩ := h
  intro row hrow
  obtain ⟨p, hp, rfl⟩ := List.mem_map.mp hrow
  exact ⟨p.1, hids p hp⟩

theorem Query.KeepsIds.ordered {q : Query} (h : q.KeepsIds db a) (window : Window) :
    (Query.ordered q (.column a .id) window).KeepsIds db a :=
  fun _ _ hmade => (h.inIdOrder hmade).exists_beginsWithId

/-- The text ends with an order by the identifiers of a relation, or with the window behind it.
The order is that of the outermost selection: it stands outside of brackets and literals. -/
def EndsInIdOrder (text : String) : Prop :=
  ∃ (body : String) (a : Alias) (window : Window), IsContained body ∧
    text = body ++ " order by " ++ qualified a .id ++ writePieces window.pieces

theorem text_ordered (q : Query) (key : OrderKey) (window : Window) :
    (Query.ordered q key window).text =
      q.text ++ " order by " ++ key.write ++ writePieces window.pieces := by
  simp [Query.text, writePieces, Query.pieces, Piece.write, String.join_append, String.join_cons,
    String.append_assoc]

theorem endsInIdOrder_ordered {q : Query} {reach : Reach} (h : q.IsWellScoped reach) (a : Alias)
    (window : Window) : EndsInIdOrder (Query.ordered q (.column a .id) window).text :=
  ⟨q.text, a, window, isContained_text h, text_ordered q _ window⟩

/-- The last two characters in front of the digits that a text ends with, from behind. -/
def endOf (text : String) : List Char := (text.toList.reverse.dropWhile Char.isDigit).take 2

theorem endOf_append_number (s : String) (n : Nat) : endOf (s ++ toString (n : Int)) = endOf s := by
  have htext : (toString (n : Int)).toList = Nat.toDigits 10 n := toList_toString_nat n
  rw [endOf, String.toList_append, htext, List.reverse_append, List.dropWhile_append_of_pos]
  · rfl
  · intro c hc
    exact Nat.isDigit_of_mem_toDigits (by decide) (by decide) (List.mem_reverse.mp hc)

/-- Where a text does not end with a digit only its last characters count. -/
theorem endOf_append {s t : String} {c d : Char} {rest : List Char}
    (ht : t.toList.reverse = c :: d :: rest) (hc : c.isDigit = false) :
    endOf (s ++ t) = [c, d] := by
  rw [endOf, String.toList_append, List.reverse_append, ht, List.cons_append,
    List.dropWhile_cons_of_neg (by simp [hc])]
  rfl

theorem head?_endOf_append {s t : String} {c : Char} {rest : List Char}
    (ht : t.toList.reverse = c :: rest) (hc : c.isDigit = false) :
    (endOf (s ++ t)).head? = some c := by
  rw [endOf, String.toList_append, List.reverse_append, ht, List.cons_append,
    List.dropWhile_cons_of_neg (by simp [hc])]
  rfl

theorem endOf_word_number (s t : String) {c d : Char} {rest : List Char} (n : Nat)
    (ht : t.toList.reverse = c :: d :: rest) (hc : c.isDigit = false) :
    endOf (s ++ writePieces [.word t, .integer n]) = [c, d] := by
  have htext : s ++ writePieces [.word t, .integer n] = s ++ t ++ toString (n : Int) := by
    simp [writePieces, Piece.write, String.join_cons, String.append_assoc]
  rw [htext, endOf_append_number, endOf_append ht hc]

theorem endOf_of_endsInIdOrder {text : String} (h : EndsInIdOrder text) :
    endOf text = ['d', 'i'] ∨ endOf text = [' ', 't'] := by
  obtain ⟨body, a, window, -, rfl⟩ := h
  cases window with
  | all =>
      left
      have htext : body ++ " order by " ++ qualified a .id ++ writePieces Window.all.pieces =
          body ++ " order by " ++ a.label ++ "." ++ "id" := by
        simp [writePieces, Window.pieces, qualified, Column.label, String.append_assoc]
      rw [htext]
      exact endOf_append rfl rfl
  | first count | after count => exact Or.inr (endOf_word_number _ _ _ rfl rfl)
  | afterUnlimited count =>
      right
      have hpieces : (Window.afterUnlimited count).pieces =
          [.word " limit ", .integer (-1)] ++ [.word " offset ", .integer count.toNat] := rfl
      have hsplit : writePieces (Window.afterUnlimited count).pieces =
          writePieces [.word " limit ", .integer (-1)] ++
            writePieces [.word " offset ", .integer count.toNat] := by
        rw [hpieces, writePieces, List.map_append, String.join_append]
        rfl
      rw [hsplit, ← String.append_assoc]
      exact endOf_word_number _ _ _ rfl rfl

theorem exists_pieces_joined_groups (op : BinaryOp) (none : Expr) :
    ∀ {es : List Expr}, es ≠ [] → ∃ front,
      (Slot.joined op none (es.map .group)).pieces = front ++ [.word ")"]
  | [], h => absurd rfl h
  | [e], _ => ⟨.word "(" :: e.pieces, rfl⟩
  | e :: f :: rest, _ => by
      obtain ⟨front, hfront⟩ := exists_pieces_joined_groups op none (List.cons_ne_nil f rest)
      refine ⟨(Expr.group e).pieces ++ .word (" " ++ op.name ++ " ") :: front, ?_⟩
      simp only [List.map_cons] at hfront
      simp only [List.map_cons, Slot.joined, Expr.pieces, hfront, List.append_assoc,
        List.cons_append]

/-- The condition of a normal form is a truth value or ends with a bracket. -/
theorem condition_ends (dialect : Dialect) (document : Expr) (d : Dnf) :
    (∃ b, condition dialect document d = truth dialect b) ∨
      ∃ front, (condition dialect document d).pieces = front ++ [.word ")"] := by
  cases d with
  | always => exact Or.inl ⟨true, rfl⟩
  | never => exact Or.inl ⟨false, rfl⟩
  | anyOf conjunctions =>
      cases conjunctions with
      | nil => exact Or.inl ⟨false, rfl⟩
      | cons first rest =>
          right
          let each (atoms : List Atom) : Expr :=
            Slot.joined .and (truth dialect true) (atoms.map (atomCondition dialect document))
          have hne : (first :: rest).map each ≠ [] := List.cons_ne_nil _ _
          have hgroups := exists_pieces_joined_groups .or (truth dialect false) hne
          rw [List.map_map] at hgroups
          exact hgroups

theorem text_filtered (condition : Expr) (inner : Fragment) (columns : ColumnSet) :
    ∃ front, (inner.filtered condition columns).text =
      front ++ " where " ++ writePieces condition.pieces := by
  let front : List Piece :=
    .word (writeSelect false (columns.projection .t)) :: (inner.as .t).pieces
  refine ⟨writePieces front, ?_⟩
  simp [Fragment.text, Fragment.filtered, Query.text, Query.pieces, writePieces, Piece.write,
    String.join_append, String.join_cons, String.append_assoc, front]

/-- A filtered fragment does not end with an order. -/
theorem not_endsInIdOrder_filtered (dialect : Dialect) (document : Expr) (d : Dnf)
    (inner : Fragment) (columns : ColumnSet) :
    ¬EndsInIdOrder (inner.filtered (condition dialect document d) columns).text := by
  intro h
  have hend := endOf_of_endsInIdOrder h
  obtain ⟨text, htext⟩ := text_filtered (condition dialect document d) inner columns
  rw [htext] at hend
  rcases condition_ends dialect document d with ⟨b, hb⟩ | ⟨front, hfront⟩
  · have hwhere : endOf (text ++ " where " ++ writePieces (truth dialect b).pieces) ∈
        [[' ', 'e'], ['e', 'u'], ['e', 's']] := by
      cases dialect with
      | sqlite =>
          have hnumber (n : Nat) :
              endOf (text ++ " where " ++ toString (n : Int)) = [' ', 'e'] := by
            rw [endOf_append_number]
            exact endOf_append rfl rfl
          cases b with
          | true => exact List.mem_cons.mpr (Or.inl (hnumber 1))
          | false => exact List.mem_cons.mpr (Or.inl (hnumber 0))
      | postgres =>
          cases b with
          | true =>
              have htrue : endOf (text ++ " where " ++ "true") = ['e', 'u'] :=
                endOf_append rfl rfl
              simp [truth, Expr.pieces, writePieces, Piece.write, htrue]
          | false =>
              have hfalse : endOf (text ++ " where " ++ "false") = ['e', 's'] :=
                endOf_append rfl rfl
              simp [truth, Expr.pieces, writePieces, Piece.write, hfalse]
    rw [hb] at hend
    rcases hend with hend | hend <;> simp [hend] at hwhere
  · have hbracket : (endOf (text ++ " where " ++ writePieces (front ++ [.word ")"]))).head? =
        some ')' := by
      have hsplit : writePieces (front ++ [.word ")"]) = writePieces front ++ ")" := by
        simp [writePieces, Piece.write, String.join_append]
      rw [hsplit, ← String.append_assoc]
      exact head?_endOf_append rfl rfl
    rw [hfront] at hend
    rcases hend with hend | hend <;> simp [hend] at hbracket

end CatalogQuery.Sql
