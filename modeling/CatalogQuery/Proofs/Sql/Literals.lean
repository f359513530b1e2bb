/-
What the literals in a query's text say.  A quote begins a literal and the next one ends it, but
two of them in a row are a quote that the literal says.  A reader who collects what literals say
gets each text that was written as one back, in order, as long as something stands between any two
of them; so the text of a list of files tells which files were asked for.
-/
import CatalogQuery.Proofs.Containment

namespace CatalogQuery.Sql

/-- Where a reader is in a text who collects what its literals say. -/
inductive LiteralPlace
  | between
  /-- In a literal that has said this so far. -/
  | within (said : List Char)
  /-- After a quote in a literal, which ends it unless another one follows. -/
  | quote (said : List Char)

/-- What the literals of a text say from a place on, if it does not end in one of them. -/
def literalsFrom? : LiteralPlace → List Char → Option (List String)
  | .between, [] => some []
  | .within _, [] => none
  | .quote said, [] => some [String.ofList said]
  | .between, c :: cs => literalsFrom? (if c = '\x27' then .within [] else .between) cs
  | .within said, c :: cs =>
    literalsFrom? (if c = '\x27' then .quote said else .within (said ++ [c])) cs
  | .quote said, c :: cs =>
    if c = '\x27' then literalsFrom? (.within (said ++ [c])) cs
    else (literalsFrom? .between cs).map (String.ofList said :: ·)

/-- What the literals of a text say, from left to right. -/
def literals? (text : String) : Option (List String) := literalsFrom? .between text.toList

example : literals? "f.id in ('it''s', '', '''')" = some ["it's", "", "'"] := by decide

theorem literalsFrom?_append_of_noQuote {front : List Char} (h : '\x27' ∉ front) (cs : List Char) :
    literalsFrom? .between (front ++ cs) = literalsFrom? .between cs := by
  induction front with
  | nil => rfl
  | cons c rest ih =>
      obtain ⟨hc, hrest⟩ := not_or.mp (List.mem_cons.not.mp h)
      rw [List.cons_append, literalsFrom?, if_neg (Ne.symm hc), ih hrest]

theorem literalsFrom?_doubled (said text cs : List Char) :
    literalsFrom? (.within said)
        ((text.flatMap fun c => if c = '\x27' then ['\x27', '\x27'] else [c]) ++ cs) =
      literalsFrom? (.within (said ++ text)) cs := by
  induction text generalizing said with
  | nil => simp
  | cons c rest ih =>
      rw [List.flatMap_cons, List.append_assoc]
      by_cases hc : c = '\x27'
      · simp [hc, literalsFrom?, ih]
      · simp [hc, literalsFrom?, ih]

/-- A text that is written as a literal is said by it, unless another quote follows. -/
theorem literalsFrom?_quoteText (s : String) {cs : List Char} (h : cs.head? ≠ some '\x27') :
    literalsFrom? .between ((quoteText s).toList ++ cs) =
      (literalsFrom? .between cs).map (s :: ·) := by
  have htext : (quoteText s).toList ++ cs = '\x27' ::
      ((s.toList.flatMap fun c => if c = '\x27' then ['\x27', '\x27'] else [c]) ++
        ('\x27' :: cs)) := by
    simp [quoteText, doubled]
  have hend : literalsFrom? (.quote s.toList) cs = (literalsFrom? .between cs).map (s :: ·) := by
    cases cs with
    | nil => rw [literalsFrom?, literalsFrom?, String.ofList_toList, Option.map_some]
    | cons c rest =>
        have hc : c ≠ '\x27' := fun heq => h (congrArg some heq)
        rw [literalsFrom?, literalsFrom?, if_neg hc, if_neg hc, String.ofList_toList]
  rw [htext, literalsFrom?, if_pos rfl, literalsFrom?_doubled, List.nil_append, literalsFrom?,
    if_pos rfl, hend]

/-- The literals of the pieces say these texts, unless a quote follows. -/
def Tells (ps : List Piece) (texts : List String) : Prop :=
  ∀ cs : List Char, cs.head? ≠ some '\x27' →
    literalsFrom? .between ((writePieces ps).toList ++ cs) =
      (literalsFrom? .between cs).map (texts ++ ·)

section Pieces

variable {ps qs : List Piece} {ss ts : List String} {w : String}

theorem Tells.literals? (h : Tells ps ss) : literals? (writePieces ps) = some ss := by
  have hall := h [] nofun
  rw [List.append_nil] at hall
  rw [Sql.literals?, hall, literalsFrom?, Option.map_some, List.append_nil]

theorem tells_nil : Tells [] [] := fun _ _ => (congrFun Option.map_id _).symm

theorem tells_text (s : String) : Tells [.text s] [s] := by
  intro cs hcs
  rw [toList_writePieces_cons, List.append_assoc]
  exact literalsFrom?_quoteText s hcs

theorem Tells.word (h : Tells ps ss) (hw : '\x27' ∉ w.toList) : Tells (.word w :: ps) ss := by
  intro cs hcs
  rw [toList_writePieces_cons, List.append_assoc, Piece.write,
    literalsFrom?_append_of_noQuote hw, h cs hcs]

/-- A word between them keeps the literals on both sides apart. -/
theorem Tells.joined (h : Tells ps ss) (hempty : w.toList ≠ []) (hw : '\x27' ∉ w.toList)
    (h' : Tells qs ts) : Tells (ps ++ .word w :: qs) (ss ++ ts) := by
  intro cs hcs
  have happart : ((writePieces (.word w :: qs)).toList ++ cs).head? ≠ some '\x27' := by
    rw [toList_writePieces_cons, Piece.write, List.append_assoc,
      List.head?_append_of_ne_nil _ hempty]
    exact fun hhead => hw (List.mem_of_mem_head? hhead)
  rw [toList_writePieces_append, List.append_assoc, h _ happart, h'.word hw cs hcs,
    Option.map_map]
  congr 1
  funext texts
  exact (List.append_assoc ss ts texts).symm

theorem Tells.closed (h : Tells ps ss) (hempty : w.toList ≠ []) (hw : '\x27' ∉ w.toList) :
    Tells (ps ++ [.word w]) ss := by
  have hall := h.joined hempty hw tells_nil
  rwa [List.append_nil] at hall

theorem tells_separated {separator : String} (hempty : separator.toList ≠ [])
    (hseparator : '\x27' ∉ separator.toList) (texts : List String) :
    Tells (separated separator (texts.map fun s => [.text s])) texts := by
  induction texts with
  | nil => exact tells_nil
  | cons s rest ih =>
      cases rest with
      | nil => exact tells_text s
      | cons t rest => exact (tells_text s).joined hempty hseparator ih

end Pieces

theorem Plain.noQuote {a b : Nat} {cs : List Char} (h : Plain a b cs) : '\x27' ∉ cs :=
  fun hmem => h.allowed _ hmem List.mem_cons_self

theorem tells_column (a : Alias) (c : Column) : Tells (Expr.column a c).pieces [] :=
  tells_nil.word (plain_qualified a c 0).noQuote

theorem tells_oneOf (a : Alias) (c : Column) (values : List String) :
    Tells (Expr.oneOf (.column a c) values).pieces values := by
  have hvalues : Tells (separated ", " (values.map fun s => [.text s])) values :=
    tells_separated (by decide) (by decide) values
  exact (tells_column a c).joined (by decide) (by decide) (hvalues.closed (by decide) (by decide))

theorem tells_equal (a : Alias) (c : Column) (s : String) :
    Tells (Expr.equal (.column a c) (.text s)).pieces [s] :=
  (tells_column a c).joined (by decide) (by decide) (tells_text s)

theorem tells_named (did : String × String) :
    Tells (Fragment.named did).pieces [did.1, did.2] :=
  (((tells_equal .f .space did.1).joined (by decide) (by decide)
    (tells_equal .f .name did.2)).closed (by decide) (by decide)).word (by decide)

theorem tells_anyNamed (first : String × String) (rest : List (String × String)) :
    Tells (Fragment.anyNamed first rest).pieces
      ((first :: rest).flatMap fun did => [did.1, did.2]) := by
  induction rest generalizing first with
  | nil => exact tells_named first
  | cons next rest ih => exact (tells_named first).joined (by decide) (by decide) (ih next)

section Selections

variable {columns : ColumnSet} {condition : Expr} {q : Query} {ss : List String}

theorem tells_selectWhere (items : List Item) (t : Table) (a : Alias)
    (h : Tells condition.pieces ss) :
    Tells (Query.selectWhere items (.table t a) condition).pieces ss := by
  have htable : '\x27' ∉ (t.label ++ " " ++ a.label).toList := by
    rw [String.toList_append, String.toList_append]
    exact (((isInert_tableLabel t).append (by decide)).append (isInert_aliasLabel a)).plain 0
      |>.noQuote
  exact ((h.word (by decide)).word htable).word (plain_writeSelect false items).noQuote

theorem tells_selectFrom (items : List Item) (a : Alias) (h : Tells q.pieces ss) :
    Tells (Query.select false items (.derived q a)).pieces ss := by
  have hclosing : '\x27' ∉ (") " ++ a.label).toList := by
    have hclose : IsInert a.label.toList := isInert_aliasLabel a
    rw [String.toList_append, List.mem_append]
    exact not_or.mpr ⟨by decide, (hclose.plain 0).noQuote⟩
  exact ((h.closed (by simp) hclosing).word (by decide)).word
    (plain_writeSelect false items).noQuote

theorem tells_within (a : Alias) (c : Column) (h : Tells q.pieces ss) :
    Tells (Expr.within (.column a c) q).pieces ss :=
  (tells_column a c).joined (by decide) (by decide) (h.closed (by decide) (by decide))

theorem tells_filesWhere (h : Tells condition.pieces ss) :
    Tells (columns.filesWhere condition).pieces ss :=
  (tells_selectWhere _ _ _ h).closed (by decide) (by decide)

end Selections

theorem Query.literals?_text {q : Query} {ss : List String} (h : Tells q.pieces ss) :
    literals? q.text = some ss :=
  h.literals?

theorem tells_ofIds (ids : List String) (columns : ColumnSet) :
    Tells (Fragment.ofIds ids columns).query.pieces ids :=
  tells_filesWhere (tells_oneOf .f .id ids)

/-- The literals of the query for some identifiers say these. -/
theorem literals?_ofIds (ids : List String) (columns : ColumnSet) :
    literals? (Fragment.ofIds ids columns).text = some ids :=
  Query.literals?_text (tells_ofIds ids columns)

/-- The literals of the query for some pairs of a namespace and a name say these. -/
theorem literals?_ofDids (first : String × String) (rest : List (String × String))
    (columns : ColumnSet) :
    literals? (Fragment.ofDids first rest columns).text =
      some ((first :: rest).flatMap fun did => [did.1, did.2]) := by
  have htells : Tells (Fragment.ofDids first rest columns).query.pieces
      ((first :: rest).flatMap fun did => [did.1, did.2]) :=
    tells_filesWhere (tells_anyNamed first rest)
  exact Query.literals?_text htells

/-- What is looked up for a step from some files are these. -/
theorem literals?_step_ofIds (direction : Direction) (ids : List String)
    (inner columns : ColumnSet) :
    literals? ((Fragment.ofIds ids inner).step direction columns).text = some ids := by
  have hknown : Tells (Query.select false [.column .c .id]
      ((Fragment.ofIds ids inner).as .c)).pieces ids :=
    tells_selectFrom _ _ (tells_ofIds ids inner)
  have htells : Tells ((Fragment.ofIds ids inner).step direction columns).query.pieces ids :=
    tells_filesWhere (tells_within .f .id (tells_selectWhere _ _ _ (tells_within .pc _ hknown)))
  exact Query.literals?_text htells

/-- What is looked up for a total size are the files. -/
theorem literals?_totalSize (ids : List String) : literals? (totalSize ids).text = some ids := by
  have htells : Tells (totalSize ids).pieces ids :=
    tells_selectWhere _ _ _ (tells_oneOf .f .id ids)
  exact Query.literals?_text htells

end CatalogQuery.Sql
