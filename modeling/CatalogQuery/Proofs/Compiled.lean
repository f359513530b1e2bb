/-
Compiled queries.  A compiled query is a query of the store or a set of records; combined
with others, or one step further, it has the files that the operands determine, whichever of
the two each operand is.
-/
import CatalogQuery.Filter.Sampling
import CatalogQuery.Proofs.SetAlgebra

namespace CatalogQuery

open Sql (ColumnSet Database Direction Fragment SetOperation)

variable {db : Database} {store : Responses} {e : Engine} {o : Options}

namespace Compiled

/-- What was compiled has the files with these identifiers. -/
def Denotes (db : Database) (store : Responses) (c : Compiled) (ids : Set String) : Prop :=
  match c with
  | .query fragment => fragment.Selects db ids
  | .records files => files.Denotes db store ids

/-- Each of some compiled queries has the identifiers at its place. -/
abbrev DenoteAll (db : Database) (store : Responses) (cs : List Compiled)
    (sets : List (Set String)) : Prop :=
  List.Forall₂ (fun c ids => c.Denotes db store ids) cs sets

variable {c first : Compiled} {rest : List Compiled} {ids : Set String}
  {sets : List (Set String)}

theorem Denotes.files (h : c.Denotes db store ids) (context : String) :
    (c.files e o context).Denotes db store ids := by
  cases c with
  | query fragment => exact h
  | records files => exact h

theorem DenoteAll.files (h : DenoteAll db store rest sets) (context : String) :
    FileSet.DenoteAll db store (rest.map (Compiled.files e o context)) sets := by
  induction h with
  | nil => exact .nil
  | cons hfirst _ ih => exact .cons (hfirst.files context) ih

theorem Denotes.selects {fragment : Fragment} (h : c.Denotes db store ids)
    (hfragment : c.fragment? = some fragment) : fragment.Selects db ids := by
  cases c with
  | query own =>
      cases hfragment
      exact h
  | records files => cases hfragment

/-- Combined operands have what the operation makes of their sets, whatever the backings. -/
theorem Denotes.combine (hstore : store.Answers db) (hfirst : first.Denotes db store ids)
    (hrest : DenoteAll db store rest sets) (op : SetOperation) (needs : ColumnSet) :
    (e.combine o op needs first rest).Denotes db store (sets.foldl op.onSets ids) := by
  unfold Engine.combine
  split
  · rename_i hempty
    cases hrest with
    | nil => exact hfirst
    | cons _ _ => cases hempty
  · split
    · rename_i hfragment hfragments
      exact Sql.selects_combine (hfirst.selects hfragment)
        (selectAll_of_mapM (fun h => h.selects) hrest hfragments)
    · have hfirst' := hfirst.files (e := e) (o := o) (Engine.operationName op)
      have hrest' := hrest.files (e := e) (o := o) (Engine.operationName op)
      cases op with
      | union => exact hfirst'.union hstore hrest'
      | intersect => exact hfirst'.intersect hstore hrest'
      | except => exact hfirst'.foldl_difference hstore hrest'

end Compiled

/-- The files one step away from those of a compiled query. -/
def Compiled.step (direction : Direction) (columns : ColumnSet) : Compiled → Compiled
  | .query inner => .query (inner.step direction columns)
  | .records files => .records (files.step direction columns)

theorem Compiled.Denotes.step (hstore : store.Answers db) {c : Compiled} {ids : Set String}
    (h : c.Denotes db store ids) (direction : Direction) (columns : ColumnSet) :
    (c.step direction columns).Denotes db store
      (RecordStream.reached (db.catalog.Steps direction) ids) := by
  cases c with
  | query fragment => exact Sql.Fragment.Selects.step h direction columns
  | records files => exact FileSet.Denotes.step hstore h direction columns

/-- Under a condition two compiled queries both have the files with these identifiers. -/
def BothDenote (db : Database) (store : Responses) (p : Prop) (ids : Set String)
    (c d : Compiled) : Prop :=
  p → c.Denotes db store ids ∧ d.Denotes db store ids

/-- Two rows of compiled queries, as long as a row of sets, both have the identifiers at their
places under a condition. -/
structure AllDenote (db : Database) (store : Responses) (p : Prop) (sets : List (Set String))
    (cs ds : List Compiled) : Prop where
  length_left : cs.length = sets.length
  length_right : ds.length = sets.length
  denote : p → Compiled.DenoteAll db store cs sets ∧ Compiled.DenoteAll db store ds sets

theorem AllDenote.cons {p q : Prop} {ids : Set String} {sets : List (Set String)}
    {c d : Compiled} {cs ds : List Compiled} (hfirst : BothDenote db store p ids c d)
    (hrest : AllDenote db store q sets cs ds) :
    AllDenote db store (p ∧ q) (ids :: sets) (c :: cs) (d :: ds) where
  length_left := congrArg Nat.succ hrest.length_left
  length_right := congrArg Nat.succ hrest.length_right
  denote h :=
    have hboth := hfirst h.1
    have hall := hrest.denote h.2
    ⟨.cons hboth.1 hall.1, .cons hboth.2 hall.2⟩

/-- Some operands are combined, or there is none and both are rejected. -/
theorem agree_combineAll (hstore : store.Answers db) (op : SetOperation) {p : Prop}
    {ids : Set String} {sets : List (Set String)} {needs others : ColumnSet}
    {cs ds : List Compiled} {f : Failure}
    (hids : ∀ first rest, sets = first :: rest → ids = rest.foldl op.onSets first) :
    AllDenote db store p sets cs ds → Agree (sets ≠ []) (BothDenote db store p ids)
      (match cs with
        | [] => .error f
        | first :: rest => .ok (e.combine o op needs first rest))
      (match ds with
        | [] => .error f
        | second :: more => .ok (e.combine o op others second more)) := by
  rintro ⟨hcs, hds, hall⟩
  match sets, cs, ds with
  | [], [], [] => exact .error (fun h => h rfl) f
  | first :: sets, c :: cs, d :: ds =>
      refine .ok nofun fun hp => ?_
      obtain ⟨_ | ⟨hfirst, hrest⟩, _ | ⟨hsecond, hmore⟩⟩ := hall hp
      rw [hids first sets rfl]
      exact ⟨hfirst.combine hstore hrest op needs, hsecond.combine hstore hmore op others⟩

/-- The call is that of a filter that keeps one of every record. -/
structure FilterCall.IsIdentity (filters : FilterRegistry) (call : FilterCall) : Prop where
  filter : filters.get? call.name = some Filter.everyNth
  distance : call.toArguments.int? 0 "n" = some 1
  offset : call.toArguments.int? 1 "i" = none ∨ call.toArguments.int? 1 "i" = some 0

theorem everyNth_of_isIdentity {filters : FilterRegistry} {call : FilterCall}
    (h : call.IsIdentity filters) (input : FileSet) :
    Filter.everyNth [input] call.toArguments =
      .finish (.ok (Filter.atDistance 1 0 input.stream)) := by
  have hoffset : ((call.toArguments.int? 1 "i").map Int64.toInt).getD 0 = 0 := by
    rcases h.offset with hnone | hzero
    · rw [hnone]
      rfl
    · rw [hzero]
      rfl
  simp only [Filter.everyNth, Filter.singleInput, h.distance, hoffset]
  rfl

theorem keepItems_atDistance_one (position : Nat) (records : List Record) :
    Flow.keepItems
      (fun (position : Nat) (item : StreamItem) =>
        match item with
        | .ok _ => (position % 1 == 0, position + 1)
        | .error _ => (true, position)) position (records.map .ok) = records.map .ok := by
  induction records generalizing position with
  | nil => rfl
  | cons record rest ih =>
      have hrest := ih (position + 1)
      simp only [Nat.mod_one, beq_self_eq_true] at hrest
      simp only [List.map_cons, Flow.keepItems, Nat.mod_one, beq_self_eq_true, if_true, hrest]

/-- Keeping every record leaves the files as they are. -/
theorem denotes_identity {filters : FilterRegistry} {call : FilterCall}
    (h : call.IsIdentity filters) {input : FileSet} {ids : Set String}
    (hinput : input.stream.Denotes store ids) :
    (Filter.run Filter.everyNth call.name [input] call.toArguments).Denotes store ids := by
  obtain ⟨records, hyields, hnodup, hids⟩ := hinput
  refine ⟨records, ?_, hnodup, hids⟩
  have hkept : (Filter.atDistance 1 0 input.stream).run store = (records.map .ok, ()) := by
    rw [Filter.atDistance, Flow.run_filterItems, hyields]
    exact congrArg (fun items => (items, ())) (keepItems_atDistance_one 0 records)
  rw [RecordStream.Yields, Filter.run, everyNth_of_isIdentity h]
  simp only [Flow.ofAction, Flow.bind, Flow.run_mapItems, hkept, List.map_map]
  rfl

end CatalogQuery
