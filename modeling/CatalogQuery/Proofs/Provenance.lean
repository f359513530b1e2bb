/-
Parents and children as rows give them.  A store puts the edges of a file together in any order, and
some of them more than once; a record has each identifier once, in the order of the bytes.  So a
list is fixed by what occurs in its column, whatever the order there and whether the column is a
text or its bytes.
-/
import CatalogQuery.Proofs.ByteOrder
import CatalogQuery.Proofs.Result
import CatalogQuery.Record.Row
import Mathlib.Data.List.Sort

namespace CatalogQuery

section Keys

variable {κ α : Type} [Ord κ]

theorem Assoc.mem_keys_insert [Std.LawfulEqOrd κ] {key other : κ} {value : α}
    {entries : List (κ × α)} :
    other ∈ (Assoc.insert key value entries).map Prod.fst ↔
      other = key ∨ other ∈ entries.map Prod.fst := by
  induction entries with
  | nil => simp [Assoc.insert]
  | cons head tail ih =>
      obtain ⟨k, v⟩ := head
      simp only [Assoc.insert]
      cases hcompare : compare key k with
      | lt => simp
      | eq =>
          have hkey : key = k := Std.LawfulEqOrd.eq_of_compare hcompare
          simp [hkey]
      | gt =>
          rw [List.map_cons, List.mem_cons, ih, List.map_cons, List.mem_cons]
          exact or_left_comm

theorem Dict.mem_keys_ofList [Std.TransOrd κ] [Std.LawfulEqOrd κ] {key : κ}
    {entries : List (κ × α)} : key ∈ (Dict.ofList entries).keys ↔ key ∈ entries.map Prod.fst := by
  suffices h : ∀ done : List (κ × α),
      key ∈ (entries.foldl (fun done e => Assoc.insert e.1 e.2 done) done).map Prod.fst ↔
        key ∈ entries.map Prod.fst ∨ key ∈ done.map Prod.fst by
    exact (h []).trans (or_iff_left List.not_mem_nil)
  induction entries with
  | nil => simp
  | cons head tail ih =>
      intro done
      rw [List.foldl_cons, ih, Assoc.mem_keys_insert, List.map_cons, List.mem_cons]
      exact or_left_comm.trans or_assoc.symm

end Keys

theorem mem_sortedTexts {texts : List String} {s : String} : s ∈ sortedTexts texts ↔ s ∈ texts := by
  have hkeys : (texts.map fun s => (s, ())).map Prod.fst = texts := by
    rw [List.map_map]
    exact List.map_id texts
  rw [sortedTexts, Dict.mem_keys_ofList, hkeys]

theorem pairwise_sortedTexts (texts : List String) :
    (sortedTexts texts).Pairwise fun s t => utf8Bytes s < utf8Bytes t := by
  rw [sortedTexts, Dict.keys, List.pairwise_map]
  refine (Dict.ofList _).increasing.imp fun {a b} h => ?_
  have hcompare : compare a.1 b.1 = compareOfLessAndEq a.1 b.1 := rfl
  rw [hcompare, compareOfLessAndEq_eq_lt] at h
  exact utf8Bytes_lt h

/-- What an item of an array stands for: a text for itself, and any other value but `null` for its
own JSON text. -/
inductive Json.StandsFor : Json → String → Prop
  | text (s : String) : StandsFor (.string s) s
  | other {item : Json} (hnull : item ≠ .null) (htext : ∀ s, item ≠ .string s) :
      StandsFor item item.write

theorem identifierOf?_eq_some_iff {item : Json} {id : String} :
    identifierOf? item = some id ↔ item.StandsFor id := by
  constructor
  · intro h
    cases item with
    | null => cases h
    | string s =>
        cases h
        exact .text _
    | bool | number | array | object =>
        cases h
        exact .other nofun nofun
  · rintro (_ | ⟨hnull, htext⟩)
    · rfl
    · cases item with
      | null => exact absurd rfl hnull
      | string s => exact absurd rfl (htext s)
      | bool | number | array | object => rfl

/-- The identifiers that the items of an array stand for, in increasing order of their bytes. -/
structure Json.Lists (items : List Json) (ids : List String) : Prop where
  increasing : ids.Pairwise fun s t => utf8Bytes s < utf8Bytes t
  mem_iff : ∀ id, id ∈ ids ↔ ∃ item ∈ items, item.StandsFor id

/-- The items of two arrays but for their order, for how often each occurs and for `null`. -/
def Json.SameItems (items others : List Json) : Prop :=
  ∀ item, item ≠ .null → (item ∈ items ↔ item ∈ others)

theorem Json.lists_sortedTexts (items : List Json) :
    Json.Lists items (sortedTexts (items.filterMap identifierOf?)) where
  increasing := pairwise_sortedTexts _
  mem_iff id := by simp only [mem_sortedTexts, List.mem_filterMap, identifierOf?_eq_some_iff]

theorem Json.StandsFor.ne_null {item : Json} {id : String} (h : item.StandsFor id) :
    item ≠ .null := by
  cases h with
  | text s => nofun
  | other hnull _ => exact hnull

/-- What the items stand for depends on which items there are and on nothing else. -/
theorem Json.Lists.of_sameItems {items others : List Json} {ids : List String}
    (h : Json.Lists items ids) (hitems : Json.SameItems items others) : Json.Lists others ids where
  increasing := h.increasing
  mem_iff id := by
    rw [h.mem_iff]
    constructor
    · rintro ⟨item, hmem, hid⟩
      exact ⟨item, (hitems item hid.ne_null).mp hmem, hid⟩
    · rintro ⟨item, hmem, hid⟩
      exact ⟨item, (hitems item hid.ne_null).mpr hmem, hid⟩

theorem Json.Lists.unique {items : List Json} {ids others : List String}
    (h : Json.Lists items ids) (hothers : Json.Lists items others) : ids = others := by
  have hids : ids.Pairwise (· < ·) := h.increasing.imp utf8Bytes_lt_iff.mp
  have hothers' : others.Pairwise (· < ·) := hothers.increasing.imp utf8Bytes_lt_iff.mp
  exact hids.eq_of_mem_iff hothers' fun id => (h.mem_iff id).trans (hothers.mem_iff id).symm

namespace Cell

/-- The text that a cell holds, as it is or as its bytes. -/
inductive Spells : Cell → String → Prop
  | text (s : String) : Spells (.text s) s
  | bytes (s : String) : Spells (.blob (utf8Bytes s)) s

/-- The JSON value that a cell holds. -/
def HoldsJson (cell : Cell) (value : Json) : Prop :=
  ∃ s, cell.Spells s ∧ Json.read? s = some value

/-- The identifiers that a cell lists, if it is filled. -/
inductive ListsIds : Cell → Option (List String) → Prop
  | empty : ListsIds .null none
  | filled {cell : Cell} {items : List Json} {ids : List String}
      (hcell : cell.HoldsJson (.array items)) (hids : Json.Lists items ids) :
      ListsIds cell (some ids)

/-- The same cell, or two cells that hold arrays of the same items, as texts or as bytes. -/
inductive Rearranges : Cell → Cell → Prop
  | same (cell : Cell) : Rearranges cell cell
  | items {cell other : Cell} {items others : List Json} (hcell : cell.HoldsJson (.array items))
      (hother : other.HoldsJson (.array others)) (hitems : Json.SameItems items others) :
      Rearranges cell other

variable {column : String} {cell other : Cell}

theorem readJson_eq_ok_iff {s : String} {found : Option Json} :
    readJson column s = .ok found ↔ ∃ value, Json.read? s = some value ∧ found = some value := by
  rw [readJson]
  cases Json.read? s with
  | none => simp
  | some value => simp [eq_comm]

/-- A column has the JSON value that its cell holds, and none if it is empty. -/
theorem requireJson_eq_ok_iff {found : Option Json} :
    cell.requireJson column = .ok found ↔
      (cell = .null ∧ found = none) ∨ ∃ value, cell.HoldsJson value ∧ found = some value := by
  constructor
  · intro h
    cases cell with
    | null =>
        cases h
        exact Or.inl ⟨rfl, rfl⟩
    | integer n => cases h
    | real x => cases h
    | text s =>
        obtain ⟨value, hread, rfl⟩ := readJson_eq_ok_iff.mp h
        exact Or.inr ⟨value, ⟨s, .text s, hread⟩, rfl⟩
    | blob bytes =>
        rw [requireJson] at h
        split at h
        · rename_i s hs
          cases fromUTF8?_eq_some_iff.mp hs
          obtain ⟨value, hread, rfl⟩ := readJson_eq_ok_iff.mp h
          exact Or.inr ⟨value, ⟨s, .bytes s, hread⟩, rfl⟩
        · cases h
  · rintro (⟨rfl, rfl⟩ | ⟨value, ⟨s, hspells, hread⟩, rfl⟩)
    · rfl
    · have hjson : readJson column s = .ok (some value) :=
        readJson_eq_ok_iff.mpr ⟨value, hread, rfl⟩
      cases hspells with
      | text => exact hjson
      | bytes =>
          rw [requireJson, fromUTF8?_eq_some_iff.mpr rfl]
          exact hjson

/-- A cell is accepted where it lists identifiers, and these are the ones that are decoded. -/
theorem requireIds_eq_ok_iff {ids : Option (List String)} :
    requireIds column cell = .ok ids ↔ cell.ListsIds ids := by
  rw [requireIds, bind_eq_ok_iff]
  constructor
  · rintro ⟨found, hfound, hids⟩
    rcases requireJson_eq_ok_iff.mp hfound with ⟨rfl, rfl⟩ | ⟨value, hvalue, rfl⟩
    · cases hids
      exact .empty
    · cases value with
      | array items =>
          cases hids
          exact .filled hvalue (Json.lists_sortedTexts items)
      | null | bool | number | string | object => cases hids
  · rintro (_ | ⟨hcell, hids⟩)
    · exact ⟨none, rfl, rfl⟩
    · rename_i items ids
      refine ⟨_, requireJson_eq_ok_iff.mpr (Or.inr ⟨_, hcell, rfl⟩), ?_⟩
      rw [hids.unique (Json.lists_sortedTexts items)]

/-- What is decoded of a column depends on which items there are and on nothing else. -/
theorem Rearranges.requireIds_eq (h : cell.Rearranges other) (column : String) :
    requireIds column cell = requireIds column other := by
  cases h with
  | same => rfl
  | items hcell hother hitems =>
      rename_i items others
      have hids : Json.Lists items (sortedTexts (items.filterMap identifierOf?)) :=
        Json.lists_sortedTexts items
      rw [requireIds_eq_ok_iff.mpr (.filled hcell hids),
        requireIds_eq_ok_iff.mpr (.filled hother (hids.of_sameItems hitems))]

end Cell

/-- A row that is accepted has a cell for each column of the record. -/
theorem Record.exists_columns_of_ofRow {context : String} {row : Row} {record : Record}
    (h : Record.ofRow context row = .ok record) :
    ∃ id space name metadata parents children more,
      row = id :: space :: name :: metadata :: parents :: children :: more ∧
      id.requireText "id" = .ok record.id ∧ space.requireText "namespace" = .ok record.space ∧
      name.requireText "name" = .ok record.name ∧
      requireMetadata record.id metadata = .ok record.metadata ∧
      requireIds "parents" parents = .ok record.parents ∧
      requireIds "children" children = .ok record.children := by
  cases hcells : Record.ofCells row with
  | error fault =>
      rw [Record.ofRow, hcells] at h
      cases h
  | ok made =>
      rw [Record.ofRow, hcells] at h
      cases h
      unfold Record.ofCells at hcells
      split at hcells
      · rename_i id space name metadata parents children more
        obtain ⟨_, hid, hcells⟩ := bind_eq_ok_iff.mp hcells
        obtain ⟨_, hspace, hcells⟩ := bind_eq_ok_iff.mp hcells
        obtain ⟨_, hname, hcells⟩ := bind_eq_ok_iff.mp hcells
        obtain ⟨_, hmetadata, hcells⟩ := bind_eq_ok_iff.mp hcells
        obtain ⟨_, hparents, hcells⟩ := bind_eq_ok_iff.mp hcells
        obtain ⟨_, hchildren, hcells⟩ := bind_eq_ok_iff.mp hcells
        cases hcells
        exact ⟨id, space, name, metadata, parents, children, more, rfl, hid, hspace, hname,
          hmetadata, hparents, hchildren⟩
      · cases hcells

/-- An accepted row has a cell for the parents and one for the children.  Where such a cell is
filled it holds an array, and the record lists the texts of the array and the JSON texts of its
other items but `null`, in strictly increasing order of their bytes.  Rows whose arrays differ in
the order of the items, in how often they occur or in `null` become the same record. -/
theorem Record.ofRow_canonical :
    (∀ {context : String} {row : Row} {record : Record}, Record.ofRow context row = .ok record →
      ∃ parents children, row[4]? = some parents ∧ row[5]? = some children ∧
        parents.ListsIds record.parents ∧ children.ListsIds record.children) ∧
    ∀ {parents otherParents children otherChildren : Cell}, parents.Rearranges otherParents →
      children.Rearranges otherChildren →
      ∀ (context : String) (id space name metadata : Cell) (more : Row),
        Record.ofRow context (id :: space :: name :: metadata :: parents :: children :: more) =
          Record.ofRow context
            (id :: space :: name :: metadata :: otherParents :: otherChildren :: more) := by
  constructor
  · intro context row record h
    obtain ⟨id, space, name, metadata, parents, children, more, rfl, -, -, -, -, hparents,
      hchildren⟩ := Record.exists_columns_of_ofRow h
    exact ⟨parents, children, rfl, rfl, Cell.requireIds_eq_ok_iff.mp hparents,
      Cell.requireIds_eq_ok_iff.mp hchildren⟩
  · intro parents otherParents children otherChildren hparents hchildren context id space name
      metadata more
    simp only [Record.ofRow, Record.ofCells, hparents.requireIds_eq, hchildren.requireIds_eq]

def rowOfParents (parents : Cell) : Row :=
  [.text "f1", .text "test", .text "a.root", .null, parents, .text "[]"]

/-- A number and the text of its digits are one parent. -/
theorem Record.ofRow_canonical_numberAndText :
    let row := rowOfParents (.text "[\"p2\",7,null,\"7\",\"p2\"]")
    let other := rowOfParents (.blob (utf8Bytes "[\"7\",\"p2\",7]"))
    let record : Record :=
      { id := "f1", space := "test", name := "a.root", parents := some ["7", "p2"],
        children := some [] }
    Record.ofRow "basic_files" row = .ok record ∧
      (∃ parents children, row[4]? = some parents ∧ row[5]? = some children ∧
        parents.ListsIds record.parents ∧ children.ListsIds record.children) ∧
      Record.ofRow "basic_files" row = Record.ofRow "basic_files" other := by
  intro row other record
  have hrecord : Record.ofRow "basic_files" row = .ok record := by rfl
  have hitems : Json.SameItems [.string "p2", .int 7, .null, .string "7", .string "p2"]
      [.string "7", .string "p2", .int 7] := by
    intro item hnull
    simp only [List.mem_cons, hnull]
    tauto
  have hparents : Cell.Rearranges (.text "[\"p2\",7,null,\"7\",\"p2\"]")
      (.blob (utf8Bytes "[\"7\",\"p2\",7]")) :=
    .items ⟨_, .text _, by rfl⟩ ⟨_, .bytes _, by rfl⟩ hitems
  exact ⟨hrecord, Record.ofRow_canonical.1 hrecord,
    Record.ofRow_canonical.2 hparents (.same _) _ _ _ _ _ _⟩

end CatalogQuery
