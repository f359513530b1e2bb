/-
Results that may be failures: a row of steps succeeds where each of them does.
-/
import Mathlib.Data.List.Forall2

namespace CatalogQuery

variable {ε α β : Type}

theorem bind_eq_ok_iff {x : Except ε α} {f : α → Except ε β} {b : β} :
    (x >>= f) = .ok b ↔ ∃ a, x = .ok a ∧ f a = .ok b := by
  cases x with
  | error e => simp [bind, Except.bind]
  | ok a => simp [bind, Except.bind]

theorem pure_eq_ok_iff {a b : α} : (pure a : Except ε α) = .ok b ↔ a = b := by
  simp [pure, Except.pure]

theorem map_eq_ok_iff {x : Except ε α} {f : α → β} {b : β} :
    x.map f = .ok b ↔ ∃ a, x = .ok a ∧ f a = b := by
  cases x with
  | error e => simp [Except.map]
  | ok a => simp [Except.map]

/-- Several steps of the same kind succeed where each of them does. -/
theorem forM_eq_ok_iff {f : α → Except ε Unit} {items : List α} :
    items.forM f = .ok () ↔ ∀ a ∈ items, f a = .ok () := by
  induction items with
  | nil => simp [pure, Except.pure]
  | cons a rest ih =>
      have hstep : (a :: rest).forM f = (f a >>= fun _ => rest.forM f) := rfl
      rw [hstep, bind_eq_ok_iff]
      constructor
      · rintro ⟨⟨⟩, ha, hrest⟩
        exact List.forall_mem_cons.2 ⟨ha, ih.1 hrest⟩
      · intro hall
        exact ⟨(), hall a List.mem_cons_self, ih.2 fun b hb => hall b (List.mem_cons_of_mem a hb)⟩

/-- Several steps of the same kind succeed with values where each of them does. -/
theorem exists_mapM_iff {f : α → Except ε β} {items : List α} :
    (∃ values, items.mapM f = .ok values) ↔ ∀ a ∈ items, ∃ b, f a = .ok b := by
  induction items with
  | nil => simp [pure, Except.pure]
  | cons a rest ih =>
      rw [List.forall_mem_cons, ← ih]
      simp only [List.mapM_cons, bind_eq_ok_iff]
      constructor
      · rintro ⟨values, b, hb, others, hothers, -⟩
        exact ⟨⟨b, hb⟩, others, hothers⟩
      · rintro ⟨⟨b, hb⟩, others, hothers⟩
        exact ⟨b :: others, b, hb, others, hothers, rfl⟩

/-- The values come in the order of the steps they are made by. -/
theorem forall₂_of_mapM {f : α → Except ε β} {items : List α} {values : List β}
    (h : items.mapM f = .ok values) : List.Forall₂ (fun a b => f a = .ok b) items values := by
  induction items generalizing values with
  | nil =>
      cases h
      exact .nil
  | cons a rest ih =>
      rw [List.mapM_cons] at h
      obtain ⟨first, hfirst, h⟩ := bind_eq_ok_iff.mp h
      obtain ⟨others, hothers, h⟩ := bind_eq_ok_iff.mp h
      cases h
      exact .cons hfirst (ih hothers)

/-- Where two lists are related item by item, each item of the second one has its partner. -/
theorem exists_of_mem_of_forall₂ {r : α → β → Prop} {items : List α} {values : List β}
    (h : List.Forall₂ r items values) {b : β} (hb : b ∈ values) : ∃ a ∈ items, r a b := by
  induction h with
  | nil => cases hb
  | @cons a first _ _ hfirst _ ih =>
      rcases List.mem_cons.mp hb with rfl | hrest
      · exact ⟨a, List.mem_cons_self, hfirst⟩
      · obtain ⟨other, hother, hrel⟩ := ih hrest
        exact ⟨other, List.mem_cons_of_mem a hother, hrel⟩

/-- Where each item has one partner at most, a list has one list of partners at most. -/
theorem eq_of_forall₂ {r : α → β → Prop} {items : List α} {values others : List β}
    (h : List.Forall₂ (fun a b => ∀ {c}, r a c → b = c) items values)
    (hothers : List.Forall₂ r items others) : values = others := by
  induction h generalizing others with
  | nil =>
      cases hothers
      rfl
  | cons hfirst _ ih =>
      cases hothers with
      | cons hother hrest => rw [hfirst hother, ih hrest]

/-- A list has a list of partners where each item has one. -/
theorem exists_forall₂_iff {r : α → β → Prop} {items : List α} :
    (∃ values, List.Forall₂ r items values) ↔ ∀ a ∈ items, ∃ b, r a b := by
  induction items with
  | nil => exact ⟨fun _ => nofun, fun _ => ⟨[], .nil⟩⟩
  | cons a rest ih =>
      rw [List.forall_mem_cons, ← ih]
      constructor
      · rintro ⟨_, _ | ⟨hb, hrest⟩⟩
        exact ⟨⟨_, hb⟩, _, hrest⟩
      · rintro ⟨⟨b, hb⟩, values, hrest⟩
        exact ⟨b :: values, .cons hb hrest⟩

/-- Where two lists are related item by item, what each item and its partner have alike occurs in
both lists or in none. -/
theorem exists_mem_congr_of_forall₂ {p : α → Prop} {q : β → Prop} {items : List α}
    {values : List β} (h : List.Forall₂ (fun a b => q b ↔ p a) items values) :
    (∃ b ∈ values, q b) ↔ ∃ a ∈ items, p a := by
  induction h with
  | nil => exact ⟨nofun, nofun⟩
  | cons hfirst _ ih => rw [List.exists_mem_cons_iff, List.exists_mem_cons_iff, hfirst, ih]

theorem mem_of_mapM {f : α → Except ε β} {items : List α} {values : List β}
    (h : items.mapM f = .ok values) (b : β) : b ∈ values ↔ ∃ a ∈ items, f a = .ok b := by
  induction items generalizing values with
  | nil =>
      cases h
      simp
  | cons a rest ih =>
      rw [List.mapM_cons] at h
      obtain ⟨first, hfirst, h⟩ := bind_eq_ok_iff.mp h
      obtain ⟨others, hothers, h⟩ := bind_eq_ok_iff.mp h
      cases h
      simp only [List.mem_cons, ih hothers, exists_eq_or_imp, hfirst, Except.ok.injEq]
      rw [eq_comm]

/-- A row of steps fails with the first failure of one of them. -/
theorem mapM_eq_error_iff {f : α → Except ε β} {items : List α} {failure : ε} :
    items.mapM f = .error failure ↔ ∃ before a after, items = before ++ a :: after ∧
      (∀ x ∈ before, ∃ b, f x = .ok b) ∧ f a = .error failure := by
  induction items with
  | nil => simp [pure, Except.pure]
  | cons a rest ih =>
      simp only [List.cons_eq_append_iff]
      rw [List.mapM_cons]
      cases ha : f a with
      | error other =>
          constructor
          · intro h
            cases h
            exact ⟨[], a, rest, Or.inl ⟨rfl, rfl⟩, nofun, ha⟩
          · rintro ⟨before, x, after, ⟨-, hsplit⟩ | ⟨tail, rfl, -⟩, hbefore, hx⟩
            · cases hsplit
              cases ha.symm.trans hx
              rfl
            · obtain ⟨b, hb⟩ := hbefore a List.mem_cons_self
              cases hb.symm.trans ha
      | ok b =>
          have hstep : (Except.ok b >>= fun b => rest.mapM f >>= fun bs => pure (b :: bs)) =
              .error failure ↔ rest.mapM f = .error failure := by
            cases rest.mapM f <;> simp [bind, Except.bind, pure, Except.pure]
          rw [hstep, ih]
          constructor
          · rintro ⟨before, x, after, rfl, hbefore, hx⟩
            exact ⟨a :: before, x, after, Or.inr ⟨before, rfl, rfl⟩,
              List.forall_mem_cons.mpr ⟨⟨b, ha⟩, hbefore⟩, hx⟩
          · rintro ⟨before, x, after, ⟨-, hsplit⟩ | ⟨tail, rfl, rfl⟩, hbefore, hx⟩
            · cases hsplit
              cases hx.symm.trans ha
            · exact ⟨tail, x, after, rfl, (List.forall_mem_cons.mp hbefore).2, hx⟩

theorem length_of_mapM {f : α → Except ε β} {items : List α} {values : List β}
    (h : items.mapM f = .ok values) : values.length = items.length := by
  induction items generalizing values with
  | nil =>
      cases h
      rfl
  | cons a rest ih =>
      rw [List.mapM_cons] at h
      obtain ⟨first, -, h⟩ := bind_eq_ok_iff.mp h
      obtain ⟨others, hothers, h⟩ := bind_eq_ok_iff.mp h
      cases h
      simp [ih hothers]

theorem eq_nil_iff_of_mapM {f : α → Except ε β} {items : List α} {values : List β}
    (h : items.mapM f = .ok values) : values = [] ↔ items = [] := by
  cases items with
  | nil =>
      cases h
      simp
  | cons a rest =>
      rw [List.mapM_cons] at h
      obtain ⟨first, -, h⟩ := bind_eq_ok_iff.mp h
      obtain ⟨others, -, h⟩ := bind_eq_ok_iff.mp h
      cases h
      simp

theorem exists_of_mapM_eq_singleton {f : α → Except ε β} {items : List α} {b : β}
    (h : items.mapM f = .ok [b]) : ∃ a, items = [a] ∧ f a = .ok b := by
  cases items with
  | nil => cases h
  | cons a rest =>
      rw [List.mapM_cons] at h
      obtain ⟨first, hfirst, h⟩ := bind_eq_ok_iff.mp h
      obtain ⟨others, hothers, h⟩ := bind_eq_ok_iff.mp h
      cases h
      rw [(eq_nil_iff_of_mapM hothers).mp rfl]
      exact ⟨a, rfl, hfirst⟩

/-- Where the result is a failure, it is one of these. -/
def FailsOnly (p : ε → Prop) (x : Except ε α) : Prop :=
  ∀ failure, x = .error failure → p failure

namespace FailsOnly

variable {p q : ε → Prop} {x : Except ε α} {failure : ε}

theorem ok (a : α) : FailsOnly p (.ok a) := nofun

theorem error (h : p failure) : FailsOnly p (.error failure : Except ε α) := by
  rintro other ⟨⟩
  exact h

theorem mono (h : FailsOnly p x) (hpq : ∀ failure, p failure → q failure) : FailsOnly q x :=
  fun failure hx => hpq failure (h failure hx)

theorem bind {f : α → Except ε β} (h : FailsOnly p x) (hf : ∀ a, FailsOnly p (f a)) :
    FailsOnly p (x >>= f) := by
  cases x with
  | error failure => exact error (h failure rfl)
  | ok a => exact hf a

theorem map (h : FailsOnly p x) (f : α → β) : FailsOnly p (x.map f) := by
  cases x with
  | error failure => exact error (h failure rfl)
  | ok a => exact ok (f a)

theorem mapM {f : α → Except ε β} (hf : ∀ a, FailsOnly p (f a)) (items : List α) :
    FailsOnly p (items.mapM f) := by
  intro failure h
  obtain ⟨before, a, after, -, -, ha⟩ := mapM_eq_error_iff.mp h
  exact hf a failure ha

theorem forM {f : α → Except ε Unit} (hf : ∀ a, FailsOnly p (f a)) (items : List α) :
    FailsOnly p (items.forM f) := by
  induction items with
  | nil => exact ok ()
  | cons a rest ih => exact (hf a).bind fun _ => ih

end FailsOnly

/-- Two results agree under a condition if both succeed with related values where it holds,
and both are the same failure where it does not. -/
inductive Agree (p : Prop) (good : α → β → Prop) : Except ε α → Except ε β → Prop
  | error (h : ¬p) (f : ε) : Agree p good (.error f) (.error f)
  | ok (h : p) {a : α} {b : β} (hgood : good a b) : Agree p good (.ok a) (.ok b)

namespace Agree

variable {γ δ : Type} {p q : Prop} {good : α → β → Prop} {x : Except ε α} {y : Except ε β}

theorem congr (h : Agree p good x y) (hpq : p ↔ q) : Agree q good x y :=
  propext hpq ▸ h

theorem refl (x : Except ε α) :
    Agree (∃ a, x = .ok a) (fun a b => a = b ∧ x = .ok a) x x := by
  cases x with
  | error failure => exact .error nofun failure
  | ok a => exact .ok ⟨a, rfl⟩ ⟨rfl, rfl⟩

theorem bind {better : γ → δ → Prop} {f : α → Except ε γ} {g : β → Except ε δ}
    (h : Agree p good x y) (hf : ∀ a b, good a b → Agree q better (f a) (g b)) :
    Agree (p ∧ q) better (x >>= f) (y >>= g) := by
  cases h with
  | error h failure => exact .error (fun hpq => h hpq.1) failure
  | ok h hgood => exact (hf _ _ hgood).congr ⟨fun hq => ⟨h, hq⟩, And.right⟩

theorem map {better : γ → δ → Prop} {f : α → γ} {g : β → δ} (h : Agree p good x y)
    (hf : ∀ a b, good a b → better (f a) (g b)) :
    Agree p better (x >>= fun a => .ok (f a)) (y >>= fun b => .ok (g b)) := by
  cases h with
  | error h failure => exact .error h failure
  | ok h hgood => exact .ok h (hf _ _ hgood)

/-- Going on from the second result alone. -/
theorem map_right {better : α → δ → Prop} {g : β → δ} (h : Agree p good x y)
    (hg : ∀ a b, good a b → better a (g b)) : Agree p better x (y >>= fun b => .ok (g b)) := by
  cases h with
  | error h failure => exact .error h failure
  | ok h hgood => exact .ok h (hg _ _ hgood)

end Agree

end CatalogQuery
