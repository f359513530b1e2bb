/-
Association lists kept in increasing key order.  Inserting under a key that is
already present replaces its value, so two dictionaries that answer every
look-up alike are equal.  `Assoc` holds the operations on bare lists, which
nested values use; `Dict` bundles a list with the proof that it is ordered.
-/

namespace CatalogQuery

namespace Assoc

variable {κ α : Type} [Ord κ]

/-- Whether the keys strictly increase. -/
def Increasing (entries : List (κ × α)) : Prop :=
  entries.Pairwise fun a b => compare a.1 b.1 = .lt

/-- Adds a value at its place, replacing the value of an equal key. -/
def insert (key : κ) (value : α) : List (κ × α) → List (κ × α)
  | [] => [(key, value)]
  | (k, v) :: rest =>
    match compare key k with
    | .lt => (key, value) :: (k, v) :: rest
    | .eq => (key, value) :: rest
    | .gt => (k, v) :: insert key value rest

/-- The value under a key. -/
def get? (key : κ) : List (κ × α) → Option α
  | [] => none
  | (k, v) :: rest => if compare key k = .eq then some v else get? key rest

/-- The ordered list of the given entries; of equal keys the last one counts. -/
def ofList (entries : List (κ × α)) : List (κ × α) :=
  entries.foldl (fun done e => insert e.1 e.2 done) []

theorem lt_of_mem_insert {key : κ} {value : α} {entries : List (κ × α)} {bound : κ}
    (hkey : compare bound key = .lt) (hall : ∀ e ∈ entries, compare bound e.1 = .lt) :
    ∀ e ∈ insert key value entries, compare bound e.1 = .lt := by
  induction entries with
  | nil => simpa [insert] using hkey
  | cons head tail ih =>
    obtain ⟨k, v⟩ := head
    intro e he
    simp only [insert] at he
    split at he
    · rcases List.mem_cons.1 he with rfl | he
      · exact hkey
      · exact hall e he
    · rcases List.mem_cons.1 he with rfl | he
      · exact hkey
      · exact hall e (List.mem_cons_of_mem _ he)
    · rcases List.mem_cons.1 he with rfl | he
      · exact hall _ List.mem_cons_self
      · exact ih (fun e he => hall e (List.mem_cons_of_mem _ he)) e he

variable [Std.TransOrd κ] [Std.LawfulEqOrd κ]

theorem increasing_insert {key : κ} {value : α} {entries : List (κ × α)}
    (h : Increasing entries) : Increasing (insert key value entries) := by
  induction entries with
  | nil => simp [insert, Increasing]
  | cons head tail ih =>
    obtain ⟨k, v⟩ := head
    have hhead := (List.pairwise_cons.1 h).1
    have htail := (List.pairwise_cons.1 h).2
    simp only [insert]
    split
    · rename_i hlt
      refine List.pairwise_cons.2 ⟨fun e he => ?_, h⟩
      rcases List.mem_cons.1 he with rfl | he
      · exact hlt
      · exact Std.TransCmp.lt_trans hlt (hhead e he)
    · rename_i heq
      have hk : key = k := Std.LawfulEqOrd.eq_of_compare heq
      subst hk
      exact List.pairwise_cons.2 ⟨hhead, htail⟩
    · rename_i hgt
      refine List.pairwise_cons.2 ⟨?_, ih htail⟩
      exact lt_of_mem_insert (Std.OrientedCmp.lt_of_gt hgt) hhead

theorem increasing_ofList (entries : List (κ × α)) : Increasing (ofList entries) := by
  suffices h : ∀ done : List (κ × α), Increasing done →
      Increasing (entries.foldl (fun done e => insert e.1 e.2 done) done) from
    h [] List.Pairwise.nil
  induction entries with
  | nil => exact fun _ h => h
  | cons head tail ih => exact fun done h => ih _ (increasing_insert h)

end Assoc

/-- A finite map, as the list of its entries in increasing key order. -/
structure Dict (κ α : Type) [Ord κ] where
  entries : List (κ × α)
  increasing : Assoc.Increasing entries

namespace Dict

variable {κ α : Type} [Ord κ]

/-- The map without entries. -/
def empty : Dict κ α := ⟨[], List.Pairwise.nil⟩

instance : Inhabited (Dict κ α) := ⟨empty⟩

/-- The value under a key. -/
def get? (d : Dict κ α) (key : κ) : Option α :=
  Assoc.get? key d.entries

def keys (d : Dict κ α) : List κ :=
  d.entries.map Prod.fst

/-- The number of entries. -/
def size (d : Dict κ α) : Nat :=
  d.entries.length

variable [Std.TransOrd κ] [Std.LawfulEqOrd κ]

/-- Adds a value, replacing the one under an equal key. -/
def insert (d : Dict κ α) (key : κ) (value : α) : Dict κ α :=
  ⟨Assoc.insert key value d.entries, Assoc.increasing_insert d.increasing⟩

/-- The map of the given entries; of equal keys the last one counts. -/
def ofList (entries : List (κ × α)) : Dict κ α :=
  ⟨Assoc.ofList entries, Assoc.increasing_ofList entries⟩

omit [Std.TransOrd κ] in
theorem mem_keys_of_get? {d : Dict κ α} {key : κ} {value : α} (h : d.get? key = some value) :
    key ∈ d.keys := by
  obtain ⟨entries, increasing⟩ := d
  simp only [get?, keys] at h ⊢
  clear increasing
  induction entries with
  | nil => simp [Assoc.get?] at h
  | cons head tail ih =>
    obtain ⟨k, v⟩ := head
    simp only [Assoc.get?] at h
    split at h
    · rename_i heq
      simp [Std.LawfulEqOrd.eq_of_compare heq]
    · simp [ih h]

end Dict

end CatalogQuery
