/-
The order of rows that compiled queries promise.  Every query for files puts its rows in the
order of their identifiers and says so at the end of its text, but for one: where a condition is
put on the metadata of another query's rows nothing orders what is left.  References to stored
queries, set operations on a single operand and conditions that always hold are no queries of
their own and end as what they pass on to.
-/
import CatalogQuery.Proofs.Backing
import CatalogQuery.Proofs.ColumnContract
import CatalogQuery.Proofs.Provenance
import CatalogQuery.Proofs.Sql.IdOrder

namespace CatalogQuery

open Sql (Column ColumnSet Database Direction EndsInIdOrder Expr Fragment Query SetOperation)

variable {e : Engine} {o : Options}

/-- The fragment puts the rows of a selection in order of the identifiers they begin with. -/
def Sql.Fragment.IsOrdered (f : Fragment) : Prop :=
  ∃ q a window, f.query = .ordered q (.column a .id) window ∧ ∀ db, q.KeepsIds db a

/-- Each row of the fragment begins with its identifier. -/
def Sql.Fragment.KeepsIds (f : Fragment) : Prop := ∃ a, ∀ db, f.query.KeepsIds db a

namespace Sql.Fragment

variable {f inner : Fragment} {columns : ColumnSet}

theorem IsOrdered.keepsIds (h : f.IsOrdered) : f.KeepsIds := by
  obtain ⟨q, a, window, hquery, hkeeps⟩ := h
  exact ⟨a, fun db => hquery ▸ (hkeeps db).ordered window⟩

theorem isOrdered_filesWhere (columns : ColumnSet) (condition : Expr) :
    IsOrdered ⟨columns.filesWhere condition, columns⟩ :=
  ⟨_, .f, .all, rfl, fun db =>
    (Sql.hasIds_filesTable db columns).keepsIds_selectWhere columns condition⟩

theorem isOrdered_everyFile (dialect : Sql.Dialect) (datasets : Option Query)
    (includeRetired : Bool) (columns : ColumnSet) :
    (everyFile dialect datasets includeRetired columns).IsOrdered := by
  cases datasets with
  | none =>
      cases includeRetired with
      | true =>
          exact ⟨_, .f, .all, rfl, fun db =>
            (Sql.hasIds_filesTable db columns).keepsIds_select columns⟩
      | false => exact isOrdered_filesWhere columns _
  | some q => cases includeRetired <;> exact isOrdered_filesWhere columns _

theorem KeepsIds.isOrdered_windowed (h : inner.KeepsIds) (window : Sql.Window)
    (columns : ColumnSet) : (inner.windowed window columns).IsOrdered := by
  obtain ⟨a, hkeeps⟩ := h
  exact ⟨_, .t, window, rfl, fun db => ((hkeeps db).hasIds_derived .t).keepsIds_select columns⟩

theorem KeepsIds.filtered (h : inner.KeepsIds) (condition : Expr) (columns : ColumnSet) :
    (inner.filtered condition columns).KeepsIds := by
  obtain ⟨a, hkeeps⟩ := h
  exact ⟨.t, fun db => ((hkeeps db).hasIds_derived .t).keepsIds_selectWhere columns condition⟩

end Sql.Fragment

theorem isOrdered_compileList {needs : ColumnSet} {files : FileList} {f : Fragment}
    (h : Engine.compileList o needs files = .ok f) : f.IsOrdered := by
  cases files with
  | ids ids =>
      rw [Engine.compileList] at h
      split at h
      · cases h
      · cases h
        exact Fragment.isOrdered_filesWhere needs _
  | dids dids =>
      obtain ⟨pairs, -, h⟩ := bind_eq_ok_iff.mp h
      cases pairs with
      | nil => cases h
      | cons first rest =>
          cases h
          exact Fragment.isOrdered_filesWhere needs _
  | names space names =>
      cases names with
      | nil => cases h
      | cons first rest =>
          obtain ⟨own, -, h⟩ := bind_eq_ok_iff.mp h
          cases h
          exact Fragment.isOrdered_filesWhere needs _

/-- The tree puts a condition on the metadata of files, and the condition is one that they may
fail to meet. -/
def Node.FiltersMetadata (node : Node) : Prop :=
  ∃ query predicate form, node = .metaFilter query predicate ∧ predicate.normalize = .ok form ∧
    form ≠ .always

/-- The operand that a tree stands for, if there is nothing else to the tree: that of a set
operation on a single operand, or of a condition that always holds. -/
def Node.passedOn? : Node → Option Node
  | .union [query] | .join [query] => some query
  | .metaFilter query predicate =>
    match predicate.normalize with
    | .ok .always => some query
    | _ => none
  | _ => none

/-- What a tree becomes once its operands are compiled: an ordered query that reads the table of
files, a window on the rows of its only operand, or a condition on them. -/
inductive Made (needs : ColumnSet) (node : Node) : List Compiled → Fragment → Prop
  | read {cs : List Compiled} {f : Fragment} (hf : f.IsOrdered) (hnode : ¬node.FiltersMetadata) :
      Made needs node cs f
  | windowed {inner : Fragment} (window : Sql.Window) (hnode : ¬node.FiltersMetadata) :
      Made needs node [.query inner] (inner.windowed window needs)
  | filtered {inner : Fragment} (dialect : Sql.Dialect) (form : Dnf)
      (hnode : node.FiltersMetadata) :
      Made needs node [.query inner]
        (inner.filtered (Sql.condition dialect Fragment.metadataColumn form) needs)

/-- Several operands that are combined become an ordered query. -/
theorem isOrdered_of_combine {op : SetOperation} {needs : ColumnSet} {first : Compiled}
    {rest : List Compiled} {f : Fragment} (hrest : rest ≠ [])
    (h : e.combine o op needs first rest = .query f) : f.IsOrdered := by
  unfold Engine.combine at h
  rw [if_neg (by simpa using hrest)] at h
  split at h
  · cases h
    exact Fragment.isOrdered_filesWhere needs _
  · cases h

theorem isOrdered_of_combineAll {op : SetOperation} {needs : ColumnSet} {subject : String}
    {cs : List Compiled} {f : Fragment} (hcs : cs.length ≠ 1)
    (h : e.combineAll o op needs subject cs = .ok (.query f)) : f.IsOrdered := by
  cases cs with
  | nil => cases h
  | cons first rest =>
      have hcombine : e.combine o op needs first rest = .query f := Except.ok.inj h
      have hrest : rest ≠ [] := by
        rintro rfl
        exact hcs rfl
      exact isOrdered_of_combine hrest hcombine

theorem isOrdered_of_step {direction : Direction} {needs : ColumnSet} {c : Compiled} {f : Fragment}
    (h : c.step direction needs = .query f) : f.IsOrdered := by
  cases c with
  | query inner =>
      cases h
      exact Fragment.isOrdered_filesWhere needs _
  | records files => cases h

theorem length_eachWith (needs later : ColumnSet) (operands : List Node) :
    (eachWith needs later operands).length = operands.length := by
  rw [← List.length_map Prod.snd, map_snd_eachWith]

theorem Node.not_filtersMetadata {node : Node}
    (h : ∀ query predicate, node ≠ .metaFilter query predicate) : ¬node.FiltersMetadata := by
  rintro ⟨query, predicate, form, hnode, -⟩
  exact h query predicate hnode

/-- A tree that does not stand for its operand alone makes a query of its own. -/
theorem made_of_finish {needs : ColumnSet} {node : Node} {cs : List Compiled} {f : Fragment}
    (hown : node.passedOn? = none) (hlength : cs.length = (node.operands e needs).length)
    (h : e.finish o needs node cs = .ok (.query f)) : Made needs node cs f := by
  cases node with
  | everyFile =>
      cases h
      exact .read (Fragment.isOrdered_everyFile _ _ _ _) (Node.not_filtersMetadata (by simp))
  | filesOf query =>
      obtain ⟨datasets, -, h⟩ := bind_eq_ok_iff.mp h
      cases h
      exact .read (Fragment.isOrdered_everyFile _ _ _ _) (Node.not_filtersMetadata (by simp))
  | list files =>
      obtain ⟨fragment, hfragment, h⟩ := bind_eq_ok_iff.mp h
      cases h
      exact .read (isOrdered_compileList hfragment) (Node.not_filtersMetadata (by simp))
  | union operands | join operands =>
      rw [Node.operands, length_eachWith] at hlength
      refine .read (isOrdered_of_combineAll ?_ h) (Node.not_filtersMetadata (by simp))
      intro hone
      obtain ⟨query, rfl⟩ := List.length_eq_one_iff.mp (hlength.symm.trans hone)
      cases hown
  | minus left right =>
      refine .read (isOrdered_of_combineAll ?_ h) (Node.not_filtersMetadata (by simp))
      rw [hlength]
      simp [Node.operands]
  | parentsOf query | childrenOf query =>
      obtain ⟨c, rfl, hc⟩ := exists_of_onlyOne h
      exact .read (isOrdered_of_step (Except.ok.inj hc)) (Node.not_filtersMetadata (by simp))
  | limit query count | skip query count =>
      obtain ⟨c, rfl, hc⟩ := exists_of_onlyOne h
      cases c with
      | records files => cases hc
      | query inner =>
          cases hc
          exact .windowed _ (Node.not_filtersMetadata (by simp))
  | metaFilter query predicate =>
      obtain ⟨form, hform, h⟩ := bind_eq_ok_iff.mp h
      by_cases halways : form = .always
      · subst halways
        simp [Node.passedOn?, hform] at hown
      · have hfilters : (Node.metaFilter query predicate).FiltersMetadata :=
          ⟨query, predicate, form, rfl, hform, halways⟩
        have hfiltered : Engine.onlyOne (e.compileCondition predicate form needs) cs =
            .ok (.query f) := by
          cases form with
          | always => exact absurd rfl halways
          | never | anyOf conjunctions => exact h
        obtain ⟨c, rfl, hc⟩ := exists_of_onlyOne hfiltered
        cases c with
        | records files =>
            obtain ⟨kept, -, hc⟩ := bind_eq_ok_iff.mp hc
            cases hc
        | query inner =>
            obtain ⟨condition, hcondition, hc⟩ := bind_eq_ok_iff.mp hc
            cases hc
            obtain ⟨rfl, -⟩ := Sql.isAddressable_of_condition? hcondition
            exact .filtered _ form hfilters
  | filter call inputs =>
      rw [Engine.finish] at h
      split at h
      · cases h
      · cases h
  | named space name | datasets selector | datasetsHaving query predicate | datasetUnion parts
  | namedQueries space pattern => cases h

/-- The first call becomes what the second one becomes, and does nothing else: its tree stands for
its operand, or refers to the stored query that the second one is about. -/
inductive Engine.PassesTo (e : Engine) (o : Options) : Call → Call → Prop
  | operand {c : Call} {query : Node} (h : c.node.passedOn? = some query) :
    PassesTo e o c ⟨c.expanding, c.needs, query⟩
  | expansion {c : Call} {name : QueryName} {node : Node} (hname : c.RefersTo o name)
    (hfresh : name.text ∉ c.chain) (hnode : e.queries.resolve name = .ok node)
    (htype : node.type = .file) : PassesTo e o c ⟨c.expanding ++ [name], c.needs, node⟩

section Passing

variable {node query : Node} {needs : ColumnSet} {c d : Call} {f : Fragment}

theorem passedOn?_metaFilter {predicate : Predicate}
    (h : (Node.metaFilter query predicate).passedOn? = some node) :
    predicate.normalize = .ok .always ∧ query = node := by
  simp only [Node.passedOn?] at h
  split at h
  · rename_i halways
    exact ⟨halways, Option.some.inj h⟩
  · cases h

theorem operands_of_passedOn? (h : node.passedOn? = some query) :
    node.operands e needs = [(needs, query)] := by
  match node with
  | .union [_] | .join [_] =>
      cases h
      rfl
  | .metaFilter _ predicate =>
      obtain ⟨halways, rfl⟩ := passedOn?_metaFilter h
      simp only [Node.operands, halways]

theorem finish_of_passedOn? (h : node.passedOn? = some query) (r : Compiled) :
    e.finish o needs node [r] = .ok r := by
  match node with
  | .union [_] | .join [_] => rfl
  | .metaFilter _ predicate =>
      obtain ⟨halways, rfl⟩ := passedOn?_metaFilter h
      simp only [Engine.finish, halways]
      rfl

theorem not_filtersMetadata_of_passedOn? (h : node.passedOn? = some query) :
    ¬node.FiltersMetadata := by
  rintro ⟨inner, predicate, form, rfl, hform, hne⟩
  obtain ⟨halways, -⟩ := passedOn?_metaFilter h
  cases hform.symm.trans halways
  exact hne rfl

theorem Engine.PassesTo.calls (h : e.PassesTo o c d) : e.Calls o c d := by
  cases h with
  | operand h =>
      have hsplit : c.node.operands e c.needs = [] ++ [(c.needs, _)] := operands_of_passedOn? h
      exact .operand hsplit nofun
  | expansion hname hfresh hnode htype => exact .expansion hname hfresh hnode htype

theorem Engine.PassesTo.compileCall_eq (h : e.PassesTo o c d) :
    e.compileCall o c = e.compileCall o d := by
  cases h with
  | @operand query h =>
      have hnode : ∀ space own, c.node ≠ .named space own := by
        intro space own hnamed
        rw [hnamed] at h
        cases h
      rw [CatalogQuery.compileCall_eq hnode, operands_of_passedOn? h, List.mapM_cons, List.mapM_nil]
      cases e.compileCall o ⟨c.expanding, c.needs, query⟩ with
      | error failure => rfl
      | ok r => exact finish_of_passedOn? h r
  | expansion hname hfresh hnode htype => exact compileCall_of_not_mem hname hfresh hnode htype

theorem Engine.PassesTo.not_filtersMetadata (h : e.PassesTo o c d) :
    ¬c.node.FiltersMetadata := by
  cases h with
  | operand h => exact not_filtersMetadata_of_passedOn? h
  | expansion hname =>
      obtain ⟨space, hnode, -⟩ := hname
      rw [hnode]
      exact nofun

/-- A call passes on to one other call at most. -/
theorem Engine.PassesTo.unique {other : Call} (h : e.PassesTo o c d) (h' : e.PassesTo o c other) :
    d = other := by
  cases h with
  | operand h =>
      cases h' with
      | operand h' =>
          cases h.symm.trans h'
          rfl
      | expansion hname =>
          obtain ⟨space, hnode, -⟩ := hname
          rw [hnode] at h
          cases h
  | expansion hname _ hresolve _ =>
      cases h' with
      | operand h' =>
          obtain ⟨space, hnode, -⟩ := hname
          rw [hnode] at h'
          cases h'
      | expansion hname' _ hresolve' _ =>
          cases hname.eq hname'
          cases hresolve.symm.trans hresolve'
          rfl

/-- A call that does not pass on makes a query of its own, of those that its operands became. -/
theorem made_of_compileCall (h : e.compileCall o c = .ok (.query f))
    (hlast : ∀ d, ¬e.PassesTo o c d) :
    ∃ cs, Made c.needs c.node cs f ∧
      ∀ inner, cs = [.query inner] →
        ∃ d, e.Calls o c d ∧ e.compileCall o d = .ok (.query inner) := by
  have hnode : ∀ space own, c.node ≠ .named space own := by
    intro space own hnamed
    rcases compileCall_of_named (e := e) (o := o) hnamed with ⟨failure, hfails, -⟩ | ⟨d, hcall, -⟩
    · cases h.symm.trans hfails
    · cases hcall with
      | operand hsplit =>
          rw [hnamed] at hsplit
          simp [Node.operands] at hsplit
      | expansion hname hfresh hresolve htype =>
          exact hlast _ (.expansion hname hfresh hresolve htype)
  have hown : c.node.passedOn? = none := by
    cases hpass : c.node.passedOn? with
    | none => rfl
    | some query => exact absurd (.operand hpass) (hlast _)
  rw [compileCall_eq hnode] at h
  obtain ⟨cs, hcs, hfinish⟩ := bind_eq_ok_iff.mp h
  refine ⟨cs, made_of_finish hown (length_of_mapM hcs) hfinish, ?_⟩
  rintro inner rfl
  obtain ⟨p, hp, hcompile⟩ := exists_of_mapM_eq_singleton hcs
  have hsplit : c.node.operands e c.needs = [] ++ [p] := hp
  exact ⟨_, .operand hsplit (by simp), hcompile⟩

end Passing

section Calls

variable {c : Call} {f : Fragment}

/-- Each row of a query that a call becomes begins with its identifier. -/
theorem keepsIds_of_compileCall (h : e.compileCall o c = .ok (.query f)) : f.KeepsIds := by
  induction c using (wellFounded_calls e o).induction generalizing f with
  | _ c ih =>
      by_cases hpass : ∃ d, e.PassesTo o c d
      · obtain ⟨d, hd⟩ := hpass
        exact ih d hd.calls (hd.compileCall_eq.symm.trans h)
      · obtain ⟨cs, hmade, hcs⟩ := made_of_compileCall h (not_exists.mp hpass)
        cases hmade with
        | read hf _ => exact hf.keepsIds
        | windowed window _ =>
            obtain ⟨d, hd, hinner⟩ := hcs _ rfl
            exact ((ih d hd hinner).isOrdered_windowed window c.needs).keepsIds
        | filtered dialect form _ =>
            obtain ⟨d, hd, hinner⟩ := hcs _ rfl
            exact (ih d hd hinner).filtered _ c.needs

/-- The calls that a call passes on to, itself included. -/
abbrev Engine.LeadsTo (e : Engine) (o : Options) : Call → Call → Prop :=
  Relation.ReflTransGen (e.PassesTo o)

/-- A query that a call becomes is ordered if and only if no condition on metadata is what the
call passes on to; otherwise its text does not end with an order. -/
theorem isOrdered_or_of_compileCall (h : e.compileCall o c = .ok (.query f)) :
    (f.IsOrdered ∧ ∀ d, e.LeadsTo o c d → ¬d.node.FiltersMetadata) ∨
      (¬EndsInIdOrder f.text ∧ ∃ d, e.LeadsTo o c d ∧ d.node.FiltersMetadata) := by
  induction c using (wellFounded_calls e o).induction with
  | _ c ih =>
      by_cases hpass : ∃ d, e.PassesTo o c d
      · obtain ⟨d, hd⟩ := hpass
        rcases ih d hd.calls (hd.compileCall_eq.symm.trans h) with hordered | hfiltered
        · refine Or.inl ⟨hordered.1, fun last hlast => ?_⟩
          rcases hlast.cases_head with rfl | ⟨next, hnext, hrest⟩
          · exact hd.not_filtersMetadata
          · exact hordered.2 last (hd.unique hnext ▸ hrest)
        · obtain ⟨hend, last, hlast, hfilters⟩ := hfiltered
          exact Or.inr ⟨hend, last, .head hd hlast, hfilters⟩
      · have hlast := not_exists.mp hpass
        have honly (d : Call) (hd : e.LeadsTo o c d) : d = c := by
          rcases hd.cases_head with rfl | ⟨next, hnext, -⟩
          · rfl
          · exact absurd hnext (hlast next)
        obtain ⟨cs, hmade, hcs⟩ := made_of_compileCall h hlast
        cases hmade with
        | read hf hnode => exact Or.inl ⟨hf, fun d hd => honly d hd ▸ hnode⟩
        | windowed window hnode =>
            obtain ⟨d, hd, hinner⟩ := hcs _ rfl
            have hordered := (keepsIds_of_compileCall hinner).isOrdered_windowed window c.needs
            exact Or.inl ⟨hordered, fun d hd => honly d hd ▸ hnode⟩
        | filtered dialect form hnode =>
            exact Or.inr ⟨Sql.not_endsInIdOrder_filtered dialect _ form _ c.needs, c, .refl, hnode⟩

end Calls

/-- The identifiers of the records among some items of a stream. -/
def idsIn (items : List StreamItem) : List String :=
  items.filterMap fun item => item.toOption.map Record.id

theorem idsIn_map_ok (records : List Record) : idsIn (records.map .ok) = idsOf records := by
  rw [idsIn, idsOf, List.filterMap_map]
  exact congrFun List.filterMap_eq_map records

/-- A record has the identifier that its row begins with. -/
theorem id_of_ofRow {context id : String} {row : Row} {record : Record}
    (hrow : row.head? = some (.text id)) (h : Record.ofRow context row = .ok record) :
    record.id = id := by
  obtain ⟨_, _, _, _, _, _, _, rfl, hid, -⟩ := Record.exists_columns_of_ofRow h
  cases hrow
  cases hid
  rfl

theorem idsIn_sublist (context : String) {a : Sql.Alias}
    {keyed : List (String × (Sql.Scope × Sql.Fields))}
    (h : ∀ p ∈ keyed, Sql.BeginsWithId a p.1 p.2) :
    (idsIn (keyed.map fun p => Record.ofRow context p.2.2.cells)).Sublist
      (keyed.map Prod.fst) := by
  induction keyed with
  | nil => exact .slnil
  | cons p rest ih =>
      obtain ⟨hp, hrest⟩ := List.forall_mem_cons.mp h
      have hcells : p.2.2.cells.head? = some (.text p.1) := by
        rw [Sql.Fields.cells, List.head?_map, hp.2]
        rfl
      simp only [List.map_cons, idsIn, List.filterMap_cons]
      cases hrecord : Record.ofRow context p.2.2.cells with
      | error failure => exact (ih hrest).cons p.1
      | ok record =>
          simp only [Except.toOption, Option.map_some, id_of_ofRow hcells hrecord]
          exact (ih hrest).cons_cons p.1

/-- The records of an ordered query come in increasing order of their identifiers. -/
theorem pairwise_idsIn_ofQuery {f : Fragment} (hf : f.IsOrdered) {db : Database}
    {store : Responses} (hstore : store.Answers db) {rows : List Row}
    (hrows : db.answer f.query = some rows) (context : String) (debug : Bool) :
    (idsIn ((RecordStream.ofQuery f.query context debug).run store).1).Pairwise (· ≤ ·) := by
  obtain ⟨q, a, window, hquery, hkeeps⟩ := hf
  obtain ⟨cursor, hcursor, hcursorRows⟩ := hstore.openCursor hrows
  obtain ⟨made, hmade, rfl⟩ := Option.map_eq_some_iff.mp hrows
  rw [hquery] at hmade
  obtain ⟨keyed, rfl, hids, hsorted⟩ := (hkeeps db).inIdOrder hmade
  simp only [RecordStream.ofQuery, Flow.run, hcursor, run_ofCursor, hcursorRows, List.map_map]
  exact (List.pairwise_map.mpr hsorted).sublist (idsIn_sublist context hids)

/-- The text of a query for files ends with an order by the identifiers of its outermost selection
unless what the query stands for, once references and operations on single operands are taken
away, is a condition on metadata that files may fail to meet.  Where it does, a stream over the
query yields its records in that order. -/
theorem endsInIdOrder_compileFiles_iff {node : Node} {needs : ColumnSet} {f : Fragment}
    (h : e.compileFiles o node needs = .ok (.query f)) :
    (EndsInIdOrder f.text ↔
        ∀ c, e.LeadsTo o (.root needs node) c → ¬c.node.FiltersMetadata) ∧
      (EndsInIdOrder f.text → ∀ (db : Database) (store : Responses) (rows : List Row),
        store.Answers db → db.answer f.query = some rows → ∀ context,
          (idsIn ((((Compiled.query f).files e o context).stream).run store).1).Pairwise
            (· ≤ ·)) := by
  have hcall : e.compileCall o (.root needs node) = .ok (.query f) := h
  have hwell : f.query.IsWellScoped .nothing := (has_compileCall hcall).isWellScoped .nothing
  rcases isOrdered_or_of_compileCall hcall with ⟨hordered, hnone⟩ | ⟨hend, c, hc, hfilters⟩
  · have hends : EndsInIdOrder f.text := by
      obtain ⟨q, a, window, hquery, -⟩ := hordered
      rw [hquery] at hwell
      rw [Fragment.text, hquery]
      exact Sql.endsInIdOrder_ordered hwell.1 a window
    exact ⟨⟨fun _ => hnone, fun _ => hends⟩, fun _ db store rows hstore hrows context =>
      pairwise_idsIn_ofQuery hordered hstore hrows context o.debug⟩
  · exact ⟨⟨fun hends => absurd hends hend, fun hnone => absurd hfilters (hnone c hc)⟩,
      fun hends => absurd hends hend⟩

theorem endsInIdOrder_compileFiles_iff_family : ∃ f,
    familyEngine.compileFiles {} (.union [.everyFile]) .ids = .ok (.query f) ∧
      EndsInIdOrder f.text ∧
      (idsIn ((((Compiled.query f).files familyEngine {} "union").stream).run
        familyStore.responses).1).Pairwise (· ≤ ·) ∧
      ∀ id, id ∈ idsIn ((((Compiled.query f).files familyEngine {} "union").stream).run
        familyStore.responses).1 ↔ id = "a" ∨ id = "b" := by
  have hcompile : familyEngine.compileFiles {} (.union [.everyFile]) .ids =
      .ok (.query (.everyFile .sqlite none false .ids)) := rfl
  have hpasses : familyEngine.PassesTo {} (.root .ids (.union [.everyFile]))
      ⟨[], .ids, .everyFile⟩ := .operand rfl
  have hnone : ∀ c, familyEngine.LeadsTo {} (.root .ids (.union [.everyFile])) c →
      ¬c.node.FiltersMetadata := by
    intro c hc
    rcases hc.cases_head with rfl | ⟨next, hnext, hrest⟩
    · exact nofun
    · cases hpasses.unique hnext
      rcases hrest.cases_head with rfl | ⟨last, hlast, -⟩
      · exact nofun
      · cases hlast with
        | operand h => cases h
        | expansion hname =>
            obtain ⟨space, hnode, -⟩ := hname
            cases hnode
  obtain ⟨hiff, hstream⟩ := endsInIdOrder_compileFiles_iff hcompile
  have hselects : (Fragment.everyFile .sqlite none false .ids).Selects familyStore
      (familyStore.catalog.idsWhere (Sql.CatalogFile.isVisible false)) :=
    Sql.selects_everyFile false
  obtain ⟨rows, -, hrows, -⟩ := exists_answer hselects "union"
  have hsorted := hstream (hiff.mpr hnone) familyStore familyStore.responses rows
    familyStore.responses_answers hrows "union"
  refine ⟨_, hcompile, hiff.mpr hnone, hsorted, fun id => ?_⟩
  obtain ⟨records, hyields, -, hids⟩ :=
    denotes_ofQuery familyStore.responses_answers hselects "union" false
  have hrun : (((Compiled.query (.everyFile .sqlite none false .ids)).files familyEngine {}
      "union").stream).run familyStore.responses = (records.map .ok, ()) := hyields
  rw [hrun, idsIn_map_ok, hids]
  have hmem : id ∈ familyStore.catalog.idsWhere (Sql.CatalogFile.isVisible false) ↔
      "a" = id ∨ "b" = id := by
    simp [Sql.Catalog.idsWhere, Sql.CatalogFile.isVisible, familyStore, plainFile]
  rw [hmem, eq_comm, @eq_comm _ "b"]

def filesWithField : Node := .metaFilter .everyFile (.leaf (.present "x"))

theorem not_endsInIdOrder_filesWithField : ∃ f,
    bareEngine.compileFiles {} filesWithField .ids = .ok (.query f) ∧
      f.text = "select t.id, t.namespace, t.name, null as metadata, null as parents, " ++
        "null as children from (select f.id, f.namespace, f.name, f.metadata, " ++
        "null as parents, null as children from files f where not f.retired " ++
        "order by f.id) t where ((jsonb_typeof((t.metadata -> 'x')) is not null))" ∧
      ¬EndsInIdOrder f.text := by
  let form : Dnf := .anyOf [[⟨"x", .present⟩]]
  let f : Fragment := (Fragment.everyFile .postgres none false (.withMetadata .ids)).filtered
    (Sql.condition .postgres Fragment.metadataColumn form) .ids
  have hcompile : bareEngine.compileFiles {} filesWithField .ids = .ok (.query f) := rfl
  have htext : f.text = "select t.id, t.namespace, t.name, null as metadata, null as parents, " ++
      "null as children from (select f.id, f.namespace, f.name, f.metadata, " ++
      "null as parents, null as children from files f where not f.retired " ++
      "order by f.id) t where ((jsonb_typeof((t.metadata -> 'x')) is not null))" := by
    decide +kernel
  exact ⟨f, hcompile, htext, Sql.not_endsInIdOrder_filtered .postgres _ form _ .ids⟩

end CatalogQuery
