/-
Operations on sets of files.  A set is given by a query or by a stream of records, and so is
each operand; the files of the result depend on the files of the operands alone.
-/
import CatalogQuery.Proofs.Answers
import CatalogQuery.Proofs.SetOperators

namespace CatalogQuery

open Sql (ColumnSet Database Direction Fragment SetOperation)

variable {db : Database} {store : Responses}

namespace RecordStream

variable {left right s : RecordStream} {streams : List RecordStream} {files others : Set String}
  {sets : List (Set String)}

theorem runsInTurn_unchanging (store : Responses) (streams : List RecordStream) :
    runsInTurn (Flow.unchanging store) () streams =
      streams.map fun s => s.play (Flow.unchanging store) () := by
  induction streams with
  | nil => rfl
  | cons s rest ih => exact congrArg (List.cons _) ih

theorem DenoteAll.failuresOf_eq_nil (h : DenoteAll store streams sets) :
    ∀ run ∈ runsInTurn (Flow.unchanging store) () streams, failuresOf run.trace.items = [] := by
  rw [runsInTurn_unchanging, List.forall_mem_map]
  induction h with
  | nil => exact fun _ hs => (List.not_mem_nil hs).elim
  | cons hfirst _ ih => exact List.forall_mem_cons.mpr ⟨(denotes_iff.mp hfirst).1, ih⟩

theorem DenoteAll.exists_mem_iff (h : DenoteAll store streams sets) (id : String) :
    (∃ run ∈ runsInTurn (Flow.unchanging store) () streams, id ∈ filesOf run.trace.items) ↔
      id ∈ anyOf sets := by
  rw [runsInTurn_unchanging, anyOf, Set.mem_ofPred_eq]
  induction h with
  | nil => simp
  | cons hfirst _ ih =>
      rw [List.map_cons, List.exists_mem_cons_iff, ih, List.exists_mem_cons_iff]
      exact or_congr_left ((denotes_iff.mp hfirst).2.2 id)

theorem DenoteAll.forall_mem_iff (h : DenoteAll store streams sets) (id : String) :
    (∀ run ∈ runsInTurn (Flow.unchanging store) () streams, id ∈ filesOf run.trace.items) ↔
      id ∈ allOf sets := by
  rw [runsInTurn_unchanging, List.forall_mem_map, allOf, Set.mem_ofPred_eq]
  induction h with
  | nil => simp
  | cons hfirst _ ih =>
      rw [List.forall_mem_cons, ih, List.forall_mem_cons]
      exact and_congr_left' ((denotes_iff.mp hfirst).2.2 id)

/-- The union of streams denotes the union of their sets. -/
theorem denotes_union (h : DenoteAll store streams sets) :
    (union streams).Denotes store (anyOf sets) := by
  have hclean := failuresOf_flatMap_items.mpr (DenoteAll.failuresOf_eq_nil h)
  rw [Trace.items_flatMap] at hclean
  rw [denotes_iff, itemsFrom, items_union]
  obtain ⟨hnodup, hmem⟩ := filesOf_distinct
    ((runsInTurn (Flow.unchanging store) () streams).flatMap fun run => run.trace.items)
  refine ⟨failuresOf_distinct hclean, hnodup, fun id => ?_⟩
  rw [hmem, filesOf_flatMap, List.mem_flatMap, DenoteAll.exists_mem_iff h]

/-- The first records of accepted files denote the accepted part of a set. -/
theorem Denotes.accepted (hleft : left.Denotes store files) {accept : String → Bool}
    (hitems : s.itemsFrom store = distinct (ofFiles accept (left.itemsFrom store))) :
    s.Denotes store {id | id ∈ files ∧ accept id = true} := by
  obtain ⟨hclean, -, hfiles⟩ := denotes_iff.mp hleft
  obtain ⟨hnodup, hmem⟩ := filesOf_distinct (ofFiles accept (left.itemsFrom store))
  rw [denotes_iff, hitems]
  refine ⟨failuresOf_distinct ((failuresOf_ofFiles accept _).trans hclean), hnodup, fun id => ?_⟩
  rw [hmem, mem_filesOf_ofFiles, hfiles]
  rfl

/-- The common records of streams denote the intersection of their sets. -/
theorem denotes_intersect (hleft : left.Denotes store files) {firstFiles : Set String}
    (hfirst : right.Denotes store firstFiles) {rest : List RecordStream}
    (hrest : DenoteAll store rest sets) :
    (intersect left right rest).Denotes store (allOf (files :: firstFiles :: sets)) := by
  have hall : DenoteAll store (right :: rest) (firstFiles :: sets) := .cons hfirst hrest
  have hitems : (intersect left right rest).itemsFrom store = _ :=
    items_intersect (Flow.unchanging store) () (DenoteAll.failuresOf_eq_nil hall)
  refine (hleft.accepted hitems).congr fun id => ?_
  rw [Set.mem_ofPred_eq, List.all_eq_true]
  simp only [List.contains_iff_mem, DenoteAll.forall_mem_iff hall, allOf, Set.mem_ofPred_eq,
    List.forall_mem_cons]

/-- The records of the one stream without those of the other denote the difference. -/
theorem denotes_difference (hleft : left.Denotes store files)
    (hright : right.Denotes store others) :
    (difference left right).Denotes store (files \ others) := by
  obtain ⟨hclean, -, hmem⟩ := denotes_iff.mp hright
  have hitems : (difference left right).itemsFrom store = _ :=
    items_difference (Flow.unchanging store) () hclean
  refine (hleft.accepted hitems).congr fun id => ?_
  rw [itemsFrom] at hmem
  simp [← hmem]

end RecordStream

/-- The queries of operands, where each of them is given by one. -/
theorem selectAll_of_mapM {α : Type} {denotes : α → Set String → Prop}
    {fragment? : α → Option Fragment}
    (h : ∀ {operand ids fragment}, denotes operand ids → fragment? operand = some fragment →
      fragment.Selects db ids)
    {operands : List α} {sets : List (Set String)} (hall : List.Forall₂ denotes operands sets)
    {fragments : List Fragment} (hfragments : operands.mapM fragment? = some fragments) :
    Sql.SelectAll db fragments sets := by
  induction hall generalizing fragments with
  | nil =>
      cases hfragments
      exact .nil
  | cons hfirst _ ih =>
      rw [List.mapM_cons] at hfragments
      obtain ⟨first, hfirstFragment, hfragments⟩ := Option.bind_eq_some_iff.mp hfragments
      obtain ⟨rest, hrest, hfragments⟩ := Option.bind_eq_some_iff.mp hfragments
      cases hfragments
      exact .cons (h hfirst hfirstFragment) (ih hrest)

namespace FileSet

/-- The set is that of the files with these identifiers, wherever its records come from. -/
def Denotes (db : Database) (store : Responses) (s : FileSet) (ids : Set String) : Prop :=
  match s.source with
  | .query fragment _ => fragment.Selects db ids
  | .stream records => records.Denotes store ids

/-- Each of some sets of files has the identifiers at its place. -/
abbrev DenoteAll (db : Database) (store : Responses) (files : List FileSet)
    (sets : List (Set String)) : Prop :=
  List.Forall₂ (fun s ids => s.Denotes db store ids) files sets

variable {s other : FileSet} {ids otherIds : Set String} {files : List FileSet}
  {sets : List (Set String)}

theorem Denotes.stream (hstore : store.Answers db) (h : s.Denotes db store ids) :
    s.stream.Denotes store ids := by
  obtain ⟨dialect, debug, source⟩ := s
  cases source with
  | query fragment context => exact denotes_ofQuery hstore h context debug
  | stream records => exact h

theorem DenoteAll.streams (hstore : store.Answers db) (h : DenoteAll db store files sets) :
    RecordStream.DenoteAll store (files.map FileSet.stream) sets := by
  induction h with
  | nil => exact .nil
  | cons hfirst _ ih => exact .cons (hfirst.stream hstore) ih

theorem Denotes.selects {fragment : Fragment} (h : s.Denotes db store ids)
    (hfragment : s.fragment? = some fragment) : fragment.Selects db ids := by
  obtain ⟨dialect, debug, source⟩ := s
  cases source with
  | query own context =>
      cases hfragment
      exact h
  | stream records => cases hfragment

theorem foldl_union (ids : Set String) (sets : List (Set String)) :
    sets.foldl SetOperation.union.onSets ids = RecordStream.anyOf (ids :: sets) := by
  induction sets generalizing ids with
  | nil =>
      ext id
      simp [RecordStream.anyOf]
  | cons others rest ih =>
      ext id
      rw [List.foldl_cons, ih]
      simp [RecordStream.anyOf, SetOperation.onSets, or_assoc]

theorem foldl_intersect (ids : Set String) (sets : List (Set String)) :
    sets.foldl SetOperation.intersect.onSets ids = RecordStream.allOf (ids :: sets) := by
  induction sets generalizing ids with
  | nil =>
      ext id
      simp [RecordStream.allOf]
  | cons others rest ih =>
      ext id
      rw [List.foldl_cons, ih]
      simp [RecordStream.allOf, SetOperation.onSets, and_assoc]

/-- One query for several operands has the same files as a stream made of their records. -/
theorem Denotes.combined (hs : s.Denotes db store ids) (hfiles : DenoteAll db store files sets)
    (op : SetOperation) (context : String) {records : RecordStream}
    (hrecords : records.Denotes store (sets.foldl op.onSets ids)) :
    (FileSet.combined op context s files records).Denotes db store
      (sets.foldl op.onSets ids) := by
  unfold FileSet.combined
  split
  · rename_i first rest hfirst hrest
    exact Sql.selects_combine (hs.selects hfirst)
      (selectAll_of_mapM (fun h => h.selects) hfiles hrest)
  · exact hrecords

theorem Denotes.union (hstore : store.Answers db) (hs : s.Denotes db store ids)
    (hfiles : DenoteAll db store files sets) :
    (s.union files).Denotes db store (sets.foldl SetOperation.union.onSets ids) := by
  cases hfiles with
  | nil => exact hs
  | cons hfirst hrest =>
      apply hs.combined (.cons hfirst hrest)
      rw [foldl_union]
      exact RecordStream.denotes_union
        (.cons (hs.stream hstore) (DenoteAll.streams hstore (.cons hfirst hrest)))

theorem Denotes.intersect (hstore : store.Answers db) (hs : s.Denotes db store ids)
    (hfiles : DenoteAll db store files sets) :
    (s.intersect files).Denotes db store (sets.foldl SetOperation.intersect.onSets ids) := by
  cases hfiles with
  | nil => exact hs
  | cons hfirst hrest =>
      apply hs.combined (.cons hfirst hrest)
      rw [foldl_intersect]
      exact RecordStream.denotes_intersect (hs.stream hstore) (hfirst.stream hstore)
        (DenoteAll.streams hstore hrest)

theorem Denotes.difference (hstore : store.Answers db) (hs : s.Denotes db store ids)
    (hother : other.Denotes db store otherIds) :
    (s.difference other).Denotes db store (SetOperation.except.onSets ids otherIds) :=
  hs.combined (.cons hother .nil) .except "minus"
    (RecordStream.denotes_difference (hs.stream hstore) (hother.stream hstore))

theorem Denotes.foldl_difference (hstore : store.Answers db) (hs : s.Denotes db store ids)
    (hfiles : DenoteAll db store files sets) :
    (files.foldl FileSet.difference s).Denotes db store
      (sets.foldl SetOperation.except.onSets ids) := by
  induction hfiles generalizing s ids with
  | nil => exact hs
  | cons hfirst _ ih => exact ih (hs.difference hstore hfirst)

/-- The files one step away from those of a set. -/
theorem Denotes.step (hstore : store.Answers db) (hs : s.Denotes db store ids)
    (direction : Direction) (columns : ColumnSet) :
    (s.step direction columns).Denotes db store
      (RecordStream.reached (db.catalog.Steps direction) ids) := by
  obtain ⟨dialect, debug, source⟩ := s
  cases source with
  | query fragment context => exact Sql.Fragment.Selects.step hs direction columns
  | stream records =>
      exact RecordStream.denotes_expand (looksUp hstore direction columns) debug hs

end FileSet

end CatalogQuery
