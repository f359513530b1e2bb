/-
Streams without failures.  A stream stands for the set of the identifiers of its records.
-/
import CatalogQuery.FileSet.Stream
import CatalogQuery.Proofs.Flow
import Mathlib.Data.List.Forall2
import Mathlib.Data.Set.Basic

namespace CatalogQuery

/-- The identifiers of some records. -/
def idsOf (records : List Record) : List String :=
  records.map Record.id

/-- The first record of each identifier that was not seen before. -/
def firstOfEach (seen : IdSet) : List Record → List Record
  | [] => []
  | record :: rest =>
    if seen.contains record.id then firstOfEach (seen.insert record.id) rest
    else record :: firstOfEach (seen.insert record.id) rest

theorem contains_insert (seen : IdSet) (key id : String) :
    (seen.insert key).contains id = (decide (key = id) || seen.contains id) := by
  rw [Std.TreeSet.contains_insert, Bool.eq_iff_iff]
  simp

/-- What is seen after a record and what follows it are seen before it and from it on. -/
theorem contains_insert_or_mem (seen : IdSet) (record : Record) (rest : List Record)
    (id : String) :
    (seen.insert record.id).contains id = true ∨ id ∈ idsOf rest ↔
      seen.contains id = true ∨ id ∈ idsOf (record :: rest) := by
  have hid : record.id = id ↔ id = record.id := eq_comm
  simp only [contains_insert, idsOf, List.map_cons, List.mem_cons, Bool.or_eq_true,
    decide_eq_true_eq, hid]
  rw [or_assoc, or_left_comm]

theorem contains_foldl_insert (records : List Record) (seen : IdSet) (id : String) :
    (records.foldl (fun ids record => ids.insert record.id) seen).contains id = true ↔
      seen.contains id = true ∨ id ∈ idsOf records := by
  induction records generalizing seen with
  | nil => simp [idsOf]
  | cons record rest ih => rw [List.foldl_cons, ih, contains_insert_or_mem]

theorem firstOfEach_congr {seen known : IdSet} (h : ∀ id, seen.contains id = known.contains id)
    (records : List Record) : firstOfEach seen records = firstOfEach known records := by
  induction records generalizing seen known with
  | nil => rfl
  | cons record rest ih =>
      have hrest : firstOfEach (seen.insert record.id) rest =
          firstOfEach (known.insert record.id) rest := by
        apply ih
        intro id
        rw [contains_insert, contains_insert, h]
      simp only [firstOfEach, h, hrest]

theorem mem_idsOf_firstOfEach (seen : IdSet) (records : List Record) (id : String) :
    id ∈ idsOf (firstOfEach seen records) ↔ id ∈ idsOf records ∧ seen.contains id = false := by
  induction records generalizing seen with
  | nil => simp [firstOfEach, idsOf]
  | cons record rest ih =>
      have hrest := ih (seen.insert record.id)
      rw [contains_insert] at hrest
      simp only [idsOf] at hrest
      simp only [firstOfEach, idsOf, List.map_cons, List.mem_cons]
      by_cases hid : record.id = id
      · subst hid
        cases hseen : seen.contains record.id with
        | true => simp [hrest]
        | false => simp
      · have hne : ¬id = record.id := fun h => hid h.symm
        cases hseen : seen.contains record.id with
        | true => simp [hrest, hid, hne]
        | false => simp [hrest, hid, hne]

theorem nodup_firstOfEach (seen : IdSet) (records : List Record) :
    (idsOf (firstOfEach seen records)).Nodup := by
  induction records generalizing seen with
  | nil => exact List.nodup_nil
  | cons record rest ih =>
      simp only [firstOfEach]
      split
      · exact ih _
      · apply List.nodup_cons.mpr
        refine ⟨fun hmem => ?_, ih _⟩
        have hseen := ((mem_idsOf_firstOfEach _ _ _).mp hmem).2
        rw [contains_insert] at hseen
        simp at hseen

theorem contains_filter (ids : IdSet) (accept : String → Bool) (id : String) :
    (ids.filter accept).contains id = (ids.contains id && accept id) := by
  rw [Bool.eq_iff_iff, Bool.and_eq_true, ← Std.TreeSet.mem_iff_contains,
    ← Std.TreeSet.mem_iff_contains, Std.TreeSet.mem_filter]
  constructor
  · rintro ⟨hmem, haccept⟩
    rw [Std.TreeSet.get_eq] at haccept
    exact ⟨hmem, haccept⟩
  · rintro ⟨hmem, haccept⟩
    refine ⟨hmem, ?_⟩
    rw [Std.TreeSet.get_eq]
    exact haccept

namespace RecordStream

variable {store : Responses} {s : RecordStream}

/-- The stream yields records and no failure. -/
def Yields (store : Responses) (s : RecordStream) (records : List Record) : Prop :=
  s.run store = (records.map .ok, ())

/-- The stream yields the files of a set, each once and without a failure. -/
def Denotes (store : Responses) (s : RecordStream) (files : Set String) : Prop :=
  ∃ records, s.Yields store records ∧ (idsOf records).Nodup ∧
    ∀ id, id ∈ idsOf records ↔ id ∈ files

theorem Denotes.congr {files others : Set String} (h : s.Denotes store files)
    (hfiles : ∀ id, id ∈ files ↔ id ∈ others) : s.Denotes store others := by
  obtain ⟨records, hyields, hnodup, hids⟩ := h
  exact ⟨records, hyields, hnodup, fun id => (hids id).trans (hfiles id)⟩

/-- Each of some streams denotes the set at its place. -/
abbrev DenoteAll (store : Responses) (streams : List RecordStream) (sets : List (Set String)) :
    Prop :=
  List.Forall₂ (fun s files => s.Denotes store files) streams sets

def anyOf (sets : List (Set String)) : Set String :=
  {id | ∃ files ∈ sets, id ∈ files}

def allOf (sets : List (Set String)) : Set String :=
  {id | ∀ files ∈ sets, id ∈ files}

end RecordStream

end CatalogQuery
