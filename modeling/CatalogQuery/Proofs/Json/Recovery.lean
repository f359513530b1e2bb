/-
Values that are recovered from their encoding.  A decoder may open a bounded number of arrays
and objects, so what it recovers a value under is a condition, mostly on how deeply the encoding
is nested; where the condition fails it recovers nothing.
-/
import CatalogQuery.Json.Fields
import CatalogQuery.Proofs.Json.Texts

namespace CatalogQuery

/-- The result is the given value where the condition holds, and nothing where it fails. -/
structure Recovers {α : Type} (result : Option α) (condition : Prop) (a : α) : Prop where
  eq_some : condition → result = some a
  eq_none : ¬condition → result = none

namespace Recovers

variable {α β : Type} {o : Option α} {p q : Prop} {a : α}

theorem of_eq_some (h : o = some a) : Recovers o True a :=
  ⟨fun _ => h, fun hfalse => absurd trivial hfalse⟩

theorem of_eq_none (h : o = none) (hp : ¬p) : Recovers o p a :=
  ⟨fun hp' => absurd hp' hp, fun _ => h⟩

theorem congr (h : Recovers o p a) (hiff : p ↔ q) : Recovers o q a :=
  ⟨fun hq => h.eq_some (hiff.2 hq), fun hq => h.eq_none (mt hiff.1 hq)⟩

theorem bind {f : α → Option β} {b : β} (h : Recovers o p a) (hf : Recovers (f a) q b) :
    Recovers (o.bind f) (p ∧ q) b := by
  constructor
  · rintro ⟨hp, hq⟩
    rw [h.eq_some hp, Option.bind_some, hf.eq_some hq]
  · intro hboth
    by_cases hp : p
    · rw [h.eq_some hp, Option.bind_some, hf.eq_none fun hq => hboth ⟨hp, hq⟩]
    · rw [h.eq_none hp, Option.bind_none]

theorem map (h : Recovers o p a) (f : α → β) : Recovers (o.map f) p (f a) := by
  rw [Option.map_eq_bind]
  exact .congr (h.bind (of_eq_some rfl)) (by rw [and_true])

theorem cons {f : β → Option α} {b : β} {bs : List β} {as : List α} (h : Recovers (f b) p a)
    (hrest : Recovers (bs.mapM f) q as) : Recovers ((b :: bs).mapM f) (p ∧ q) (a :: as) := by
  have hsteps : (b :: bs).mapM f = (f b).bind fun a => (bs.mapM f).bind fun as => some (a :: as) :=
    List.mapM_cons
  rw [hsteps]
  exact .congr (h.bind (hrest.bind (of_eq_some rfl))) (by rw [and_true])

/-- A list is recovered where each of its items is. -/
theorem mapM {f : β → Option α} {g : α → β} {r : α → Prop} :
    ∀ {as : List α}, (∀ a ∈ as, Recovers (f (g a)) (r a) a) →
      Recovers ((as.map g).mapM f) (∀ a ∈ as, r a) as
  | [], _ => (of_eq_some rfl).congr (by simp)
  | a :: as, h => by
    obtain ⟨hfirst, hrest⟩ := List.forall_mem_cons.1 h
    rw [List.map_cons, List.forall_mem_cons]
    exact hfirst.cons (mapM hrest)

end Recovers

namespace Json

mutual

/-- How many arrays and objects are nested in each other. -/
def depth : Json → Nat
  | .array items => depthItems items + 1
  | .object members => depthMembers members + 1
  | _ => 0

def depthItems : List Json → Nat
  | [] => 0
  | v :: rest => max v.depth (depthItems rest)

/-- The greatest depth of the values of members. -/
def depthMembers : List (String × Json) → Nat
  | [] => 0
  | (_, v) :: rest => max v.depth (depthMembers rest)

end

theorem depth_array_le {items : List Json} {room : Nat} :
    (array items).depth ≤ room + 1 ↔ ∀ v ∈ items, v.depth ≤ room := by
  rw [depth, Nat.add_le_add_iff_right]
  induction items with
  | nil => simp [depthItems]
  | cons v rest ih => rw [depthItems, Nat.max_le, ih, List.forall_mem_cons]

theorem depth_object_le {members : List (String × Json)} {room : Nat} :
    (object members).depth ≤ room + 1 ↔ ∀ m ∈ members, m.2.depth ≤ room := by
  rw [depth, Nat.add_le_add_iff_right]
  induction members with
  | nil => simp [depthMembers]
  | cons m rest ih => rw [depthMembers, Nat.max_le, ih, List.forall_mem_cons]

@[simp] theorem depth_array_ne_zero (items : List Json) : (array items).depth ≠ 0 :=
  Nat.succ_ne_zero _

@[simp] theorem depth_object_ne_zero (members : List (String × Json)) :
    (object members).depth ≠ 0 :=
  Nat.succ_ne_zero _

@[simp] theorem depth_bool (b : Bool) : (bool b).depth = 0 := rfl

@[simp] theorem depth_string (s : String) : (string s).depth = 0 := rfl

@[simp] theorem depth_int (n : Int) : (int n).depth = 0 := rfl

@[simp] theorem depth_ofOption (s : Option String) : (ofOption s).depth = 0 := by
  cases s <;> rfl

theorem rawItems_eq_map (items : List Json) : rawItems items = items.map raw := by
  induction items with
  | nil => rfl
  | cons v rest ih => rw [rawItems, ih, List.map_cons]

theorem named?_rawMembers (members : List (String × Json)) :
    Raw.named? (rawMembers members) = some (members.map fun m => (m.1, m.2.raw)) := by
  induction members with
  | nil => rfl
  | cons m rest ih =>
    rw [Raw.named?] at ih ⊢
    rw [rawMembers, List.mapM_cons, ih]
    rfl

/-- A text that may be left out is recovered, also where it is left out. -/
theorem optional?_ofOption (s : Option String) :
    Raw.optional? Raw.text? (ofOption s).raw = some s := by
  cases s <;> rfl

/-- An integer of sixty-four bits stays an integer. -/
theorem raw_int {n : Int} (h : fitsInt64 n = true ∨ fitsUInt64 n = true) :
    (int n).raw = .number (some (.int n)) := by
  rw [int, raw, Number.raw, Numeral.reread, if_pos (by simpa using h)]

theorem int64?_int (n : Int64) : (int n.toInt).raw.int64? = some n := by
  rw [raw_int (.inl (fitsInt64_toInt n)), Raw.int64?, if_pos (fitsInt64_toInt n),
    Int64.ofInt_toInt]

theorem uint64?_int (n : UInt64) : (int n.toNat).raw.uint64? = some n := by
  rw [raw_int (.inr (fitsUInt64_toNat n)), Raw.uint64?, if_pos (fitsUInt64_toNat n),
    Int.toNat_natCast, UInt64.ofNat_toNat]

/-- An array is recovered where its items are, with one level less. -/
theorem recovers_items {α : Type} {f : Raw → Option α} {encode : α → Json} {r : α → Prop}
    {as : List α} {room : Nat}
    (h : ∀ a ∈ as, Recovers (f (encode a).raw) (r a ∧ (encode a).depth ≤ room) a) :
    Recovers ((rawItems (as.map encode)).mapM f)
      ((∀ a ∈ as, r a) ∧ (array (as.map encode)).depth ≤ room + 1) as := by
  rw [rawItems_eq_map, List.map_map, depth_array_le, List.forall_mem_map, ← forall₂_and]
  exact .mapM h

/-- An alternative whose content is another encoded value is recovered where that one is, with
one level less. -/
theorem recovers_wrapped {α β : Type} (o : Nat → Option α) {inner : Nat → Option β}
    {make : β → α} {name : String} {content : Json} {p : Prop} {b : β} (hzero : o 0 = none)
    (hsteps : ∀ room, o (room + 1) = (inner room).map make)
    (h : ∀ room, Recovers (inner room) (p ∧ content.depth ≤ room) b) (room : Nat) :
    Recovers (o room) (p ∧ (object [(name, content)]).depth ≤ room) (make b) := by
  cases room with
  | zero => exact .of_eq_none hzero (by simp)
  | succ room =>
    rw [hsteps]
    exact .congr ((h room).map make) (by simp [depth_object_le])

/-- An alternative whose content is an object or an array of its own is recovered where its parts
are, with two levels less. -/
theorem recovers_alternative {α : Type} (o : Nat → Option α) {name : String} {content : Json}
    {p : Prop} {a : α} (hzero : o 0 = none) (hone : o 1 = none) (hcontent : content.depth ≠ 0)
    (h : ∀ room, Recovers (o (room + 2)) (p ∧ content.depth ≤ room + 1) a) (room : Nat) :
    Recovers (o room) (p ∧ (object [(name, content)]).depth ≤ room) a := by
  match room with
  | 0 => exact .of_eq_none hzero (by simp)
  | 1 => exact .of_eq_none hone (by simp [depth_object_le, hcontent])
  | room + 2 => exact (h room).congr (by simp [depth_object_le])

theorem recovers_texts? (texts : List String) (room : Nat) :
    Recovers (Raw.texts? room (array (texts.map .string)).raw)
      ((array (texts.map .string)).depth ≤ room) texts := by
  cases room with
  | zero => exact .of_eq_none rfl (by simp)
  | succ room =>
    have h : Recovers ((rawItems (texts.map .string)).mapM Raw.text?)
        ((∀ s ∈ texts, True) ∧ (array (texts.map .string)).depth ≤ room + 1) texts :=
      recovers_items fun s _ => .congr (.of_eq_some rfl) (by simp)
    exact h.congr (by simp)

end Json

end CatalogQuery
