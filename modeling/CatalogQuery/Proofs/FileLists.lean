/-
Lists of files and their statements.  The statement of a list asks for exactly the files that are
listed: its literals say them, in order, whatever characters they are made of.  So lists have the
same statement just if they ask for the same, with the default namespace where none is given, and
what is looked up for some files is looked up for these.
-/
import CatalogQuery.FileSet.Summary
import CatalogQuery.Proofs.Meaning
import CatalogQuery.Proofs.Sql.Literals
import CatalogQuery.Proofs.Turns
import Mathlib.Data.List.Forall2

namespace CatalogQuery

open Sql (ColumnSet Direction Fragment literals?)

/-- The files that a list asks for: by their identifiers, or by a namespace and a name each. -/
inductive Wanted
  | byId (ids : List String)
  | byName (first : String × String) (rest : List (String × String))

/-- The pair is what a text identifies files by. -/
def Options.IdentifiesPair (o : Options) (did : String) (pair : String × String) : Prop :=
  o.Identifies did pair.1 pair.2

/-- What a list asks for, once the default namespace stands wherever none is given. -/
inductive FileList.Wants (o : Options) : FileList → Wanted → Prop
  | ids (ids : List String) : Wants o (.ids ids) (.byId ids)
  | dids {dids : List String} {first : String × String} {rest : List (String × String)}
      (h : List.Forall₂ o.IdentifiesPair dids (first :: rest)) :
      Wants o (.dids dids) (.byName first rest)
  | names {space : Option String} {own : String} {names : List String} {first : String × String}
      {rest : List (String × String)} (hspace : (space <|> o.defaultNamespace) = some own)
      (h : names.map (own, ·) = first :: rest) :
      Wants o (.names space names) (.byName first rest)

namespace Wanted

/-- Identifiers, or namespaces and names in turn. -/
def texts : Wanted → List String
  | .byId ids => ids
  | .byName first rest => (first :: rest).flatMap fun did => [did.1, did.2]

/-- The query for the files. -/
def fragment (columns : ColumnSet) : Wanted → Fragment
  | .byId ids => .ofIds ids columns
  | .byName first rest => .ofDids first rest columns

theorem literals?_fragment (w : Wanted) (columns : ColumnSet) :
    literals? (w.fragment columns).text = some w.texts := by
  cases w with
  | byId ids => exact Sql.literals?_ofIds ids columns
  | byName first rest => exact Sql.literals?_ofDids first rest columns

end Wanted

theorem flatMap_pairs_injective {α : Type} {pairs others : List (α × α)}
    (h : (pairs.flatMap fun p => [p.1, p.2]) = others.flatMap fun p => [p.1, p.2]) :
    pairs = others := by
  induction pairs generalizing others with
  | nil =>
      cases others with
      | nil => rfl
      | cons p rest => cases h
  | cons p rest ih =>
      cases others with
      | nil => cases h
      | cons q more =>
          obtain ⟨hfirst, hrest⟩ := List.cons.inj h
          obtain ⟨hsecond, hrest⟩ := List.cons.inj hrest
          rw [Prod.ext hfirst hsecond, ih hrest]

/-- Queries from the table of files are written in the same way up to their conditions. -/
theorem toList_filesWhere (columns : ColumnSet) : ∃ front back, ∀ condition : Sql.Expr,
    (columns.filesWhere condition).text.toList =
      front ++ ((Sql.writePieces condition.pieces).toList ++ back) := by
  refine ⟨(Sql.writeSelect false (columns.projection .f)).toList ++
    ((columns.table.label ++ " " ++ Sql.Alias.f.label).toList ++ " where ".toList),
    (" order by " ++ (Sql.OrderKey.column .f .id).write).toList, fun condition => ?_⟩
  simp [ColumnSet.filesWhere, Sql.Query.text, Sql.Query.pieces, Sql.Source.pieces,
    Sql.Window.pieces, Sql.Piece.write, Sql.writePieces]

theorem head?_oneOf (ids : List String) (back : List Char) :
    ((Sql.writePieces (Sql.Expr.oneOf (.column .f .id) ids).pieces).toList ++ back).head? =
      some 'f' := by
  rw [Sql.Expr.pieces, Sql.Expr.pieces, List.singleton_append, Sql.toList_writePieces_cons]
  rfl

theorem head?_anyNamed (first : String × String) (rest : List (String × String))
    (back : List Char) :
    ((Sql.writePieces (Fragment.anyNamed first rest).pieces).toList ++ back).head? =
      some '(' := by
  cases rest with
  | nil =>
      rw [Fragment.anyNamed, Fragment.named, Sql.Expr.pieces, Sql.toList_writePieces_cons]
      rfl
  | cons next rest =>
      rw [Fragment.anyNamed, Fragment.named, Sql.Expr.pieces, Sql.Expr.pieces, List.cons_append,
        Sql.toList_writePieces_cons]
      rfl

/-- Identifiers are looked for in a column, and namespaces and names in parentheses. -/
theorem text_ofIds_ne_ofDids (ids : List String) (first : String × String)
    (rest : List (String × String)) (columns : ColumnSet) :
    (Fragment.ofIds ids columns).text ≠ (Fragment.ofDids first rest columns).text := by
  intro h
  obtain ⟨front, back, htext⟩ := toList_filesWhere columns
  have hconditions := (htext (.oneOf (.column .f .id) ids)).symm.trans
    ((congrArg String.toList h).trans (htext (Fragment.anyNamed first rest)))
  have hheads := congrArg List.head? (List.append_cancel_left hconditions)
  rw [head?_oneOf, head?_anyNamed] at hheads
  cases hheads

/-- The query for some files tells which files they are. -/
theorem Wanted.text_injective {w other : Wanted} {columns : ColumnSet}
    (h : (w.fragment columns).text = (other.fragment columns).text) : w = other := by
  have htexts : w.texts = other.texts := by
    have hsaid := w.literals?_fragment columns
    rw [h, other.literals?_fragment] at hsaid
    exact (Option.some.inj hsaid).symm
  rcases w with ids | ⟨first, rest⟩ <;> rcases other with others | ⟨next, more⟩
  · exact congrArg byId htexts
  · exact absurd h (text_ofIds_ne_ofDids ids next more columns)
  · exact absurd h.symm (text_ofIds_ne_ofDids others first rest columns)
  · obtain ⟨rfl, rfl⟩ := List.cons.inj (flatMap_pairs_injective htexts)
    rfl

variable {o : Options} {files others : FileList}

theorem rightUnique_identifiesPair : Relator.RightUnique o.IdentifiesPair := by
  intro did p q h h'
  rw [Options.IdentifiesPair, ← readDid_eq_ok_iff] at h h'
  exact Except.ok.inj (h.symm.trans h')

/-- A list asks for one thing. -/
theorem FileList.Wants.unique {w other : Wanted} (h : files.Wants o w) (h' : files.Wants o other) :
    w = other := by
  cases h with
  | ids ids =>
      cases h'
      rfl
  | dids hpairs =>
      cases h' with
      | dids hothers =>
          cases List.right_unique_forall₂' rightUnique_identifiesPair hpairs hothers
          rfl
  | names hspace hnames =>
      cases h' with
      | names hother hothers =>
          rw [hspace] at hother
          cases hother
          cases hnames.symm.trans hothers
          rfl

/-- A list becomes the query for what it asks for. -/
theorem exists_wants {needs : ColumnSet} {f : Fragment}
    (h : Engine.compileList o needs files = .ok f) :
    ∃ w, files.Wants o w ∧ f = w.fragment needs := by
  cases files with
  | ids ids =>
      rw [Engine.compileList] at h
      split at h
      · cases h
      · cases h
        exact ⟨_, .ids ids, rfl⟩
  | dids dids =>
      rw [Engine.compileList] at h
      obtain ⟨pairs, hpairs, h⟩ := bind_eq_ok_iff.mp h
      have hdids : List.Forall₂ o.IdentifiesPair dids pairs :=
        (forall₂_of_mapM hpairs).imp fun did (pair : String × String) =>
          (readDid_eq_ok_iff o did pair.1 pair.2).mp
      cases pairs with
      | nil => cases h
      | cons first rest =>
          cases h
          exact ⟨_, .dids hdids, rfl⟩
  | names space names =>
      cases names with
      | nil => cases h
      | cons first rest =>
          rw [Engine.compileList] at h
          obtain ⟨own, hown, h⟩ := bind_eq_ok_iff.mp h
          cases h
          refine ⟨.byName (own, first) (rest.map (own, ·)), .names ?_ rfl, rfl⟩
          unfold Options.requireSpace at hown
          split at hown
          · rename_i given hgiven
            cases hown
            exact hgiven
          · cases hown

/-- Both lists become queries, and these have the same text. -/
def Engine.SameStatement (e : Engine) (o : Options) (needs : ColumnSet) (files others : FileList) :
    Prop :=
  ∃ f g, e.compileFiles o (.list files) needs = .ok (.query f) ∧
    e.compileFiles o (.list others) needs = .ok (.query g) ∧ f.text = g.text

theorem exists_wants_of_compileFiles {e : Engine} {needs : ColumnSet} {f : Fragment}
    (h : e.compileFiles o (.list files) needs = .ok (.query f)) :
    ∃ w, files.Wants o w ∧ f = w.fragment needs := by
  unfold Engine.compileFiles at h
  rw [Engine.compileNode] at h
  obtain ⟨fragment, hfragment, hf⟩ := bind_eq_ok_iff.mp h
  cases hf
  exact exists_wants hfragment

/-- The query of a list is the one for what it asks for. -/
theorem FileList.Wants.eq_fragment {e : Engine} {needs : ColumnSet} {f : Fragment} {w : Wanted}
    (h : files.Wants o w) (hf : e.compileFiles o (.list files) needs = .ok (.query f)) :
    f = w.fragment needs := by
  obtain ⟨other, hother, rfl⟩ := exists_wants_of_compileFiles hf
  rw [h.unique hother]

theorem Engine.SameStatement.exists_wants {e : Engine} {needs : ColumnSet}
    (h : e.SameStatement o needs files others) : ∃ w, files.Wants o w ∧ others.Wants o w := by
  obtain ⟨f, g, hf, hg, htext⟩ := h
  obtain ⟨w, hw, rfl⟩ := exists_wants_of_compileFiles hf
  obtain ⟨other, hother, rfl⟩ := exists_wants_of_compileFiles hg
  rw [Wanted.text_injective htext] at hw
  exact ⟨other, hw, hother⟩

section LookUps

variable {σ : Type} (stores : Stores σ) (state : σ)

/-- The program asks the catalog once and nothing else, and the literals of its statement say
these texts. -/
def AsksFor {α ρ : Type} (flow : Flow α ρ) (texts : List String) : Prop :=
  ∃ statement, (flow.play stores state).trace.exchanges =
      [.executed .catalog statement (stores.execute state .catalog statement).1] ∧
    literals? statement.text = some texts

theorem asksFor_lookUp (direction : Direction) (columns : ColumnSet) (debug : Bool) (seen : IdSet)
    (ids : List String) :
    AsksFor stores state (RecordStream.lookUp direction columns debug seen ids) ids := by
  refine ⟨.query ((Fragment.ofIds ids .ids).step direction columns).query, ?_,
    Sql.literals?_step_ofIds direction ids .ids columns⟩
  unfold RecordStream.lookUp
  simp only [Sql.Query.rows, Flow.bind, Flow.play, Trace.exchanges_exchange]
  congr 1
  split
  · rfl
  · rw [Flow.play_bind, Flow.play_ofList]
    exact (Trace.exchanges_append _ _).trans (List.append_eq_nil_iff.mpr
      ⟨Trace.exchanges_map_inr _, rfl⟩)

theorem asksFor_lookUpSize (ids : List String) (debug : Bool) :
    AsksFor stores state (FileSet.lookUpSize ids debug) ids :=
  ⟨.query (Sql.totalSize ids), rfl, Sql.literals?_totalSize ids⟩

end LookUps

/-- The literals of the statement of a list say just what the list asks for, in order and whatever
characters it is made of.  Two lists have the same statement exactly if they ask for the same, with
the default namespace where none is given; so two lists of identifiers, or of names, are the same
list then.  What is looked up for some files, provenance or sizes, is looked up for these. -/
theorem literals?_listed (e : Engine) (o : Options) (needs : ColumnSet) :
    (∀ ids columns, literals? (Fragment.ofIds ids columns).text = some ids) ∧
      (∀ first rest columns, literals? (Fragment.ofDids first rest columns).text =
        some ((first :: rest).flatMap fun did => [did.1, did.2])) ∧
      (∀ files f, e.compileFiles o (.list files) needs = .ok (.query f) →
        ∃ w, files.Wants o w ∧ literals? f.text = some w.texts) ∧
      (∀ files others f g w other, e.compileFiles o (.list files) needs = .ok (.query f) →
        e.compileFiles o (.list others) needs = .ok (.query g) →
        files.Wants o w → others.Wants o other → (f.text = g.text ↔ w = other)) ∧
      (∀ ids others, e.SameStatement o needs (.ids ids) (.ids others) → ids = others) ∧
      (∀ space own names others,
        e.SameStatement o needs (.names space names) (.names own others) → names = others) ∧
      ∀ (σ : Type) (stores : Stores σ) (state : σ) (ids : List String) (debug : Bool),
        (∀ direction columns seen,
          AsksFor stores state (RecordStream.lookUp direction columns debug seen ids) ids) ∧
          AsksFor stores state (FileSet.lookUpSize ids debug) ids := by
  refine ⟨Sql.literals?_ofIds, Sql.literals?_ofDids, fun files f h => ?_,
    fun files others f g w other hf hg hw hother => ?_, fun ids others h => ?_,
    fun space own names others h => ?_,
    fun σ stores state ids debug => ⟨fun direction columns seen =>
      asksFor_lookUp stores state direction columns debug seen ids,
      asksFor_lookUpSize stores state ids debug⟩⟩
  · obtain ⟨w, hw, rfl⟩ := exists_wants_of_compileFiles h
    exact ⟨w, hw, w.literals?_fragment needs⟩
  · rw [hw.eq_fragment hf, hother.eq_fragment hg]
    exact ⟨Wanted.text_injective, fun hsame => hsame ▸ rfl⟩
  · obtain ⟨w, hids, hothers⟩ := h.exists_wants
    cases hids
    cases hothers
    rfl
  · obtain ⟨w, hnames, hothers⟩ := h.exists_wants
    cases hnames with
    | names _ hpairs =>
        cases hothers with
        | names _ hpairs' =>
            have hsame := congrArg (List.map Prod.snd) (hpairs.trans hpairs'.symm)
            simpa using hsame

/-- Texts with quotes, one of them without a namespace. -/
def quotedDids : FileList := .dids ["it's", "a:''"]

/-- The names that they stand for where `a` is the default namespace. -/
def quotedNames : FileList := .names none ["it's", "''"]

theorem literals?_listed_quoted :
    let o : Options := { defaultNamespace := some "a" }
    let w : Wanted := .byName ("a", "it's") [("a", "''")]
    (∃ f g, bareEngine.compileFiles o (.list quotedDids) .ids = .ok (.query f) ∧
        bareEngine.compileFiles o (.list quotedNames) .ids = .ok (.query g) ∧
        quotedDids.Wants o w ∧ quotedNames.Wants o w ∧ literals? f.text = some w.texts ∧
        f.text = g.text) ∧
      (bareEngine.SameStatement o .ids (.ids ["'"]) (.ids ["'"]) ∧ ["'"] = ["'"]) ∧
      bareEngine.SameStatement o .ids quotedNames (.names (some "a") ["it's", "''"]) ∧
        ["it's", "''"] = ["it's", "''"] := by
  intro o w
  obtain ⟨-, -, hliterals, hsame, hids, hnames, -⟩ := literals?_listed bareEngine o .ids
  obtain ⟨f, hf⟩ : ∃ f, bareEngine.compileFiles o (.list quotedDids) .ids = .ok (.query f) :=
    ⟨_, rfl⟩
  obtain ⟨g, hg⟩ : ∃ g, bareEngine.compileFiles o (.list quotedNames) .ids = .ok (.query g) :=
    ⟨_, rfl⟩
  have hdids : quotedDids.Wants o w :=
    .dids (.cons ((readDid_eq_ok_iff o _ _ _).mp rfl)
      (.cons ((readDid_eq_ok_iff o _ _ _).mp rfl) .nil))
  have hquoted : quotedNames.Wants o w := .names rfl rfl
  obtain ⟨v, hv, hsaid⟩ := hliterals _ f hf
  rw [hv.unique hdids] at hsaid
  have hsingle : bareEngine.SameStatement o .ids (.ids ["'"]) (.ids ["'"]) := ⟨_, _, rfl, rfl, rfl⟩
  have hspaces : bareEngine.SameStatement o .ids quotedNames (.names (some "a") ["it's", "''"]) :=
    ⟨_, _, rfl, rfl, rfl⟩
  exact ⟨⟨f, g, hf, hg, hdids, hquoted, hsaid, (hsame _ _ f g w w hf hg hdids hquoted).mpr rfl⟩,
    ⟨hsingle, hids _ _ hsingle⟩, hspaces, hnames _ _ _ _ hspaces⟩

/-- With a default namespace, different lists of texts have the same statement, and so have lists
of names. -/
theorem sameStatement_default_namespace :
    let o : Options := { defaultNamespace := some "a" }
    (bareEngine.SameStatement o .ids (.dids ["x"]) (.dids ["a:x"]) ∧
        FileList.dids ["x"] ≠ .dids ["a:x"]) ∧
      bareEngine.SameStatement o .ids (.names none ["x"]) (.names (some "a") ["x"]) ∧
        FileList.names none ["x"] ≠ .names (some "a") ["x"] :=
  ⟨⟨⟨_, _, rfl, rfl, rfl⟩, nofun⟩, ⟨_, _, rfl, rfl, rfl⟩, nofun⟩

end CatalogQuery
