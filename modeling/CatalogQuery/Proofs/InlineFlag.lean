/-
A pattern that ignores case can be written with the flag in front of it.  Reading the
flag leaves an item behind that matches the empty text, at the bottom of the first branch;
it goes through the whole reading without changing the expression that comes out, and can
at most make the pattern too deeply nested.
-/
import CatalogQuery.Pattern.Basic

namespace CatalogQuery.Pattern

/-- What reading a flag leaves behind. -/
def flagItem : Item := ⟨.empty, 0, false⟩

/-- Items of the same expressions. -/
def SameRegexes (items others : List Item) : Prop :=
  items.map Item.regex = others.map Item.regex

theorem regex_joinItems_append (items : List Item) :
    (joinItems (items ++ [flagItem])).regex = (joinItems items).regex := by
  match items with
  | [] => rfl
  | [i] => rfl
  | i :: j :: rest =>
      simp only [joinItems, List.cons_append, List.foldl_cons, List.foldl_append, List.foldl_nil]
      rfl

theorem foldl_alt_map (rest : List Item) (r : Regex) :
    rest.foldl (fun r j => Regex.alt j.regex r) r =
      (rest.map Item.regex).foldl (fun r s => Regex.alt s r) r := by
  rw [List.foldl_map]

/-- The expression of alternatives depends on their expressions only. -/
theorem regex_joinBranches_congr {branches others : List Item}
    (h : SameRegexes branches others) :
    (joinBranches branches).regex = (joinBranches others).regex := by
  match branches, others with
  | [], [] => rfl
  | [], _ :: _ => simp [SameRegexes] at h
  | _ :: _, [] => simp [SameRegexes] at h
  | [i], [j] => simpa [SameRegexes, joinBranches] using h
  | [i], j :: k :: rest => simp [SameRegexes] at h
  | i :: k :: rest, [j] => simp [SameRegexes] at h
  | i :: k :: rest, j :: m :: more =>
      simp only [SameRegexes, List.map_cons, List.cons.injEq] at h
      obtain ⟨hi, hk, hrest⟩ := h
      simp only [joinBranches, foldl_alt_map, List.map_cons, hi, hk, hrest]

/-- The branches and items of a frame, and those of a frame with the flag's item. -/
inductive Flagged : List Item → List Item → List Item → List Item → Prop
  | first (items : List Item) : Flagged [] items [] (items ++ [flagItem])
  | later {branches others : List Item} (items : List Item)
      (same : SameRegexes branches others) : Flagged branches items others items

namespace Flagged

variable {branches items branches' items' : List Item}

theorem push (h : Flagged branches items branches' items') (i : Item) :
    Flagged branches (i :: items) branches' (i :: items') := by
  cases h with
  | first => exact .first (i :: items)
  | later _ same => exact .later _ same

theorem items_cons {i : Item} {rest : List Item} (h : Flagged branches items branches' items')
    (hitems : items = i :: rest) :
    ∃ more, items' = i :: more ∧ ∀ j, Flagged branches (j :: rest) branches' (j :: more) := by
  cases h with
  | first =>
      subst hitems
      exact ⟨rest ++ [flagItem], rfl, fun j => .first (j :: rest)⟩
  | later _ same => exact ⟨rest, hitems, fun j => .later (j :: rest) same⟩

theorem sameRegexes (h : Flagged branches items branches' items') :
    SameRegexes (joinItems items :: branches) (joinItems items' :: branches') := by
  cases h with
  | first => simp [SameRegexes, regex_joinItems_append]
  | later _ same =>
      simp only [SameRegexes] at same
      simp [SameRegexes, same]

theorem branch (h : Flagged branches items branches' items') :
    Flagged (joinItems items :: branches) [] (joinItems items' :: branches') [] :=
  .later [] h.sameRegexes

end Flagged

/-- A reading, and the one of the same pattern after the flag. -/
inductive Similar : Progress → Progress → Prop
  | outside {flags : Flags} {names : List (List Char)}
      {branches items branches' items' : List Item}
      (frame : Flagged branches items branches' items') :
      Similar ⟨flags, branches, items, [], names⟩ ⟨flags, branches', items', [], names⟩
  | inside {flags outer : Flags} {names : List (List Char)} (groups : List OpenGroup)
      {branches items bottom low bottom' low' : List Item}
      (frame : Flagged bottom low bottom' low') :
      Similar ⟨flags, branches, items, groups ++ [⟨outer, bottom, low⟩], names⟩
        ⟨flags, branches, items, groups ++ [⟨outer, bottom', low'⟩], names⟩

namespace Similar

variable {p q p' : Progress}

theorem flags_eq (h : Similar p q) : p.flags = q.flags := by
  cases h <;> rfl

theorem names_eq (h : Similar p q) : p.names = q.names := by
  cases h <;> rfl

theorem regex_inside (h : Similar p q) : p.inside.regex = q.inside.regex := by
  cases h with
  | outside frame => exact regex_joinBranches_congr frame.sameRegexes
  | inside groups frame => rfl

theorem push (h : Similar p q) (i : Item) : Similar (p.push i) (q.push i) := by
  cases h with
  | outside frame => exact .outside (frame.push i)
  | inside groups frame => exact .inside groups frame

theorem setFlags (h : Similar p q) (flags : Flags) :
    Similar { p with flags := flags } { q with flags := flags } := by
  cases h with
  | outside frame => exact .outside frame
  | inside groups frame => exact .inside groups frame

theorem setNames (h : Similar p q) (names : List (List Char)) :
    Similar { p with names := names } { q with names := names } := by
  cases h with
  | outside frame => exact .outside frame
  | inside groups frame => exact .inside groups frame

theorem branch (h : Similar p q) :
    Similar { p with branches := joinItems p.items :: p.branches, items := [] }
      { q with branches := joinItems q.items :: q.branches, items := [] } := by
  cases h with
  | outside frame => exact .outside frame.branch
  | inside groups frame => exact .inside groups frame

theorem openGroup (h : Similar p q) (flags : Flags) :
    Similar (p.openGroup flags) (q.openGroup flags) := by
  cases h with
  | outside frame => exact .inside [] frame
  | @inside inner outer names groups branches items _ _ _ _ frame =>
      exact .inside (⟨inner, branches, items⟩ :: groups) frame

theorem closeGroup (h : Similar p q) (hp : p.closeGroup? = some p') :
    ∃ q', q.closeGroup? = some q' ∧ Similar p' q' := by
  cases h with
  | outside frame => simp [Progress.closeGroup?] at hp
  | inside groups frame =>
      cases groups with
      | nil =>
          -- The group that holds the flag's item is the one that ends.
          simp only [Progress.closeGroup?, List.nil_append, Option.some.injEq] at hp
          refine ⟨_, rfl, ?_⟩
          rw [← hp]
          exact .outside (frame.push _)
      | cons g groups =>
          simp only [Progress.closeGroup?, List.cons_append, Option.some.injEq] at hp
          refine ⟨_, rfl, ?_⟩
          rw [← hp]
          exact .inside groups frame

theorem items_cons (h : Similar p q) {i : Item} {rest : List Item} (hp : p.items = i :: rest) :
    ∃ more, q.items = i :: more ∧
      ∀ j, Similar { p with items := j :: rest } { q with items := j :: more } := by
  cases h with
  | outside frame =>
      obtain ⟨more, hq, hframe⟩ := frame.items_cons hp
      exact ⟨more, hq, fun j => .outside (hframe j)⟩
  | inside groups frame => exact ⟨rest, hp, fun j => .inside groups frame⟩

/-- A repetition needs an item to repeat, and the flag's item is none. -/
theorem repeatLast (h : Similar p q) {min : Nat} {max : Option Nat}
    (hp : p.repeatLast? min max = some p') :
    ∃ q', q.repeatLast? min max = some q' ∧ Similar p' q' := by
  cases hitems : p.items with
  | nil => simp [Progress.repeatLast?, hitems] at hp
  | cons i rest =>
      simp only [Progress.repeatLast?, hitems, Option.ite_none_right_eq_some] at hp
      obtain ⟨more, hq, hsimilar⟩ := h.items_cons hitems
      refine ⟨_, by simp [Progress.repeatLast?, hq, hp.1]; rfl, ?_⟩
      rw [← Option.some.inj hp.2]
      exact hsimilar _

end Similar

/-- Where a step of one reading succeeds, so does that of the other. -/
def Follows (one other : Option (Progress × List Char)) : Prop :=
  ∀ p' rest, one = some (p', rest) → ∃ q', other = some (q', rest) ∧ Similar p' q'

namespace Similar

variable {p q : Progress}

theorem follows_some {p' q' : Progress} (h : Similar p' q') (rest : List Char) :
    Follows (some (p', rest)) (some (q', rest)) := by
  intro r after hr
  simp only [Option.some.injEq, Prod.mk.injEq] at hr
  obtain ⟨rfl, rfl⟩ := hr
  exact ⟨q', rfl, h⟩

theorem follows_none (other : Option (Progress × List Char)) : Follows none other := by
  intro r after hr
  cases hr

theorem follows_map {one other : Option Progress} (rest : List Char)
    (h : ∀ p', one = some p' → ∃ q', other = some q' ∧ Similar p' q') :
    Follows (one.map fun p => (p, rest)) (other.map fun p => (p, rest)) := by
  intro r after hr
  obtain ⟨p', hp', hpair⟩ := Option.map_eq_some_iff.mp hr
  obtain ⟨q', hq', hsimilar⟩ := h p' hp'
  cases hpair
  exact ⟨q', by rw [hq']; rfl, hsimilar⟩

theorem follows_bind {α : Type} (read : Option α) {one other : α → Option (Progress × List Char)}
    (h : ∀ a, Follows (one a) (other a)) : Follows (read.bind one) (read.bind other) := by
  cases read with
  | none => exact follows_none _
  | some a => exact h a

theorem follows_openNamed (h : Similar p q) (cs : List Char) :
    Follows (openNamed? p cs) (openNamed? q cs) := by
  unfold openNamed?
  rw [h.flags_eq, h.names_eq]
  dsimp only
  split
  · split
    · exact follows_some ((h.openGroup q.flags).setNames _) _
    · exact follows_none _
  · exact follows_none _

theorem follows_group (h : Similar p q) (cs : List Char) :
    Follows (group? p cs) (group? q cs) := by
  unfold group?
  rw [h.flags_eq]
  split
  · exact follows_none _
  · exact follows_none _
  · exact follows_none _
  · exact follows_none _
  · exact h.follows_openNamed _
  · exact h.follows_openNamed _
  · apply follows_bind
    intro (flags, after)
    dsimp only
    split
    · exact follows_some (h.openGroup flags) _
    · split
      · exact follows_none _
      · exact follows_some ((h.setFlags flags).push _) _
    · exact follows_none _
  · exact follows_some (h.openGroup _) _

theorem follows_step (h : Similar p q) (cs : List Char) : Follows (step? p cs) (step? q cs) := by
  unfold step?
  rw [h.flags_eq]
  split
  · exact follows_none _
  · exact h.follows_group _
  · exact follows_map _ fun p' hp => h.closeGroup hp
  · have hbranch := h.branch
    rw [h.flags_eq] at hbranch
    exact follows_some hbranch _
  · apply follows_bind
    intro (found, after)
    exact follows_some (h.push _) _
  · exact follows_map _ fun p' hp => h.repeatLast hp
  · exact follows_map _ fun p' hp => h.repeatLast hp
  · exact follows_map _ fun p' hp => h.repeatLast hp
  · apply follows_bind
    intro ((min, max), after)
    have hmap := follows_map (dropLazy (q.flags.skip after))
      fun p' (hp : p.repeatLast? min max = some p') => h.repeatLast hp
    rw [Option.map_eq_bind, Option.map_eq_bind] at hmap
    exact hmap
  · rw [Option.map_eq_bind, Option.map_eq_bind]
    apply follows_bind
    intro r
    exact follows_some (h.push _) _
  · exact follows_some (h.push _) _
  · exact follows_some (h.push _) _
  · apply follows_bind
    intro (e, after)
    apply follows_bind
    intro i
    exact follows_some (h.push _) _
  · exact follows_some (h.push _) _

theorem follows_parts (h : Similar p q) {steps : Nat} {cs : List Char}
    (hp : parts? steps p cs = some p') :
    ∃ q', parts? steps q cs = some q' ∧ Similar p' q' := by
  induction steps generalizing p q cs with
  | zero => simp [parts?] at hp
  | succ steps ih =>
      unfold parts? at hp ⊢
      rw [← h.flags_eq]
      split at hp
      · cases hp
        exact ⟨q, rfl, h⟩
      · obtain ⟨⟨next, rest⟩, hstep, hrest⟩ := Option.bind_eq_some_iff.mp hp
        obtain ⟨next', hstep', hnext⟩ := h.follows_step _ next rest hstep
        obtain ⟨q', hq', hlast⟩ := ih hnext hrest
        refine ⟨q', ?_, hlast⟩
        rw [hstep']
        exact hq'

end Similar

/-- A pattern that was read in so many steps is read in more. -/
theorem parts?_of_le {steps more : Nat} (hle : steps ≤ more) {p p' : Progress} {cs : List Char}
    (h : parts? steps p cs = some p') : parts? more p cs = some p' := by
  induction steps generalizing more p cs with
  | zero => simp [parts?] at h
  | succ steps ih =>
      obtain ⟨more, rfl⟩ : ∃ n, more = n + 1 := ⟨more - 1, by omega⟩
      unfold parts? at h ⊢
      split at h
      · exact h
      · obtain ⟨⟨next, rest⟩, hstep, hrest⟩ := Option.bind_eq_some_iff.mp h
        rw [hstep]
        exact ih (by omega) hrest

theorem parts?_flag (steps : Nat) (cs : List Char) :
    parts? (steps + 1) ⟨{}, [], [], [], []⟩ ('(' :: '?' :: 'i' :: ')' :: cs) =
      parts? steps ⟨{ ignoreCase := true }, [], [flagItem], [], []⟩ cs := by
  rfl

/-- The flag in front of a pattern has the effect of ignoring case. -/
theorem parse?_flag {source : String} {r s : Regex} (hr : parse? true source = some r)
    (hs : parse? false ("(?i)" ++ source) = some s) : s = r := by
  simp only [parse?, Option.bind_eq_bind, Option.bind_eq_some_iff] at hr hs
  obtain ⟨p, hp, hr⟩ := hr
  obtain ⟨q, hq, hs⟩ := hs
  have hstart : Similar ⟨{ ignoreCase := true }, [], [], [], []⟩
      ⟨{ ignoreCase := true }, [], [flagItem], [], []⟩ := .outside (.first [])
  obtain ⟨q', hq', hsimilar⟩ := hstart.follows_parts hp
  have hsource : ("(?i)" ++ source).toList = '(' :: '?' :: 'i' :: ')' :: source.toList := by
    rw [String.toList_append]
    rfl
  rw [hsource, parts?_flag, parts?_of_le (by simp) hq'] at hq
  cases hq
  split at hr
  · split at hs
    · cases hr
      cases hs
      exact hsimilar.regex_inside.symm
    · cases hs
  · cases hr

theorem compile?_eq_some {ignoreCase : Bool} {source : String} {p : Pattern}
    (h : compile? ignoreCase source = some p) :
    parse? ignoreCase source = some p.regex := by
  unfold compile? at h
  split at h
  · cases h
  · next regex hregex =>
      cases h
      exact hregex

theorem exists_compile? (p : Pattern) :
    ∃ q, compile? p.ignoreCase p.source = some q ∧ q.regex = p.regex := by
  unfold compile?
  split
  · next hnone =>
      rw [p.parsed] at hnone
      cases hnone
  · next regex hregex =>
      rw [p.parsed] at hregex
      exact ⟨_, rfl, (Option.some.inj hregex).symm⟩

end CatalogQuery.Pattern
