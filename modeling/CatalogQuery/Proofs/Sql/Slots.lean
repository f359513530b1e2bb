/-
Tests of single values.  A slot shows a value of a document, or that there is none; a test
of the slot then selects exactly where the value passes the test.
-/
import CatalogQuery.Proofs.Sql.Kinds

namespace CatalogQuery.Sql.Slot

variable {db : Database} {scope : Scope}

/-- What a slot shows: a value, or that there is none.  A count is always there. -/
inductive Shows (db : Database) (scope : Scope) : Slot → Option Json → Prop
  | typed {value kind : Expr} {found : Option Json} (hdialect : db.dialect = .sqlite)
      (hvalue : value.eval db scope = some (found.elim .null extracted))
      (hkind : kind.eval db scope = some (kindOf typeName found)) :
      Shows db scope (.typed value kind) found
  | jsonb {value : Expr} {w : Value} {v : Json} (hvalue : value.eval db scope = some w)
      (hw : w.json? = some v) : Shows db scope (.jsonb value) (some v)
  | missing {value : Expr} (hvalue : value.eval db scope = some .null) :
      Shows db scope (.jsonb value) none
  | count {value : Expr} {n : Int} (hvalue : value.eval db scope = some (.int n)) :
      Shows db scope (.count value) (some (.int n))

variable {s : Slot} {found : Option Json}

theorem eval_jsonbType {value : Expr} (h : (Slot.jsonb value).Shows db scope found) :
    (Expr.jsonbType value).eval db scope = some (kindOf binaryTypeName found) := by
  cases h with
  | jsonb hvalue hw => simp [Expr.eval, hvalue, onJson_of_json? hw, kindOf]
  | missing hvalue => simp [Expr.eval, hvalue, onJson, kindOf]

theorem Shows.exists_kind (h : s.Shows db scope found) {kind : Expr} (hkind : s.kind? = some kind) :
    ∃ name, kind.eval db scope = some (kindOf name found) := by
  cases s with
  | typed value kind =>
      cases hkind
      cases h with
      | typed _ _ hname => exact ⟨typeName, hname⟩
  | jsonb value =>
      cases hkind
      exact ⟨binaryTypeName, eval_jsonbType h⟩
  | count value => cases hkind

theorem Shows.selects_guard (h : s.Shows db scope found) {c : Constant} {guard : Expr}
    (hguard : s.guard? c = some guard) :
    guard.Selects db scope found.isSome (found.any c.fits) := by
  cases s with
  | typed value kind =>
      cases h with
      | typed _ _ hkind =>
          cases c with
          | int n =>
              cases hguard
              rw [fits_eq_typeName]
              exact Expr.selects_oneOf hkind _ _
          | float x =>
              cases hguard
              rw [fits_eq_typeName]
              exact Expr.selects_oneOf hkind _ _
          | text s =>
              cases hguard
              rw [fits_text_eq_typeName]
              exact Expr.selects_equal hkind _
          | bool b =>
              cases hguard
              rw [fits_eq_typeName]
              exact Expr.selects_oneOf hkind _ _
  | jsonb value =>
      have hkind := eval_jsonbType h
      rw [fits_eq_binaryTypeName]
      cases c <;> cases hguard <;> exact Expr.selects_equal hkind _
  | count value => cases hguard

/-- A test behind the guard of a constant. -/
theorem Shows.selects_guarded (h : s.Shows db scope found) {c : Constant} {test : Expr}
    {p : Json → Bool} (hother : ∀ v, c.fits v = false → p v = false)
    (hcount : ∀ value, s = .count value → c.isInt = true)
    (hraise : ∀ value kind, s = .typed value kind → ∃ t, test.truth db scope = some t)
    (htest : ∀ v, found = some v → c.fits v = true →
      test.truth db scope = some (.ofBool (p v))) :
    (s.guarded c test).Selects db scope found.isSome (found.any p) := by
  have hp : found.any p = (found.any c.fits && found.any p) := by
    cases found with
    | none => rfl
    | some v =>
        cases hfits : c.fits v with
        | true => simp [hfits]
        | false => simp [hfits, hother v hfits]
  have hpass : found.any c.fits = true → test.Selects db scope found.isSome (found.any p) := by
    intro hfits
    cases found with
    | none => cases hfits
    | some v => exact .of_truth (htest v rfl hfits)
  cases s with
  | typed value kind =>
      obtain ⟨guard, hguard⟩ : ∃ guard, (Slot.typed value kind).guard? c = some guard := by
        cases c <;> exact ⟨_, rfl⟩
      simp only [guarded, hguard]
      rw [hp]
      exact (h.selects_guard hguard).guard_and (fun _ => hraise value kind rfl) hpass
  | jsonb value =>
      obtain ⟨guard, hguard⟩ : ∃ guard, (Slot.jsonb value).guard? c = some guard := by
        cases c <;> exact ⟨_, rfl⟩
      simp only [guarded, hguard]
      rw [hp]
      exact (h.selects_guard hguard).guarded hpass
  | count value =>
      cases h with
      | count hvalue =>
          apply hpass
          have hint := hcount value rfl
          cases c <;> first | rfl | cases hint

/-- The value of a slot as one of the type of a constant that it fits. -/
theorem Shows.eval_valueAs {v : Json} (h : s.Shows db scope (some v)) {c : Constant}
    (hfits : c.fits v = true) (hbool : ∀ value kind b, s = .typed value kind → c ≠ .bool b) :
    (s.valueAs c).eval db scope = some (.ofScalar v) := by
  cases h with
  | @typed value kind _ _ hvalue _ =>
      cases c with
      | bool b => exact absurd rfl (hbool value kind b rfl)
      | int n => cases v <;> first | exact hvalue | cases hfits
      | float x => cases v <;> first | exact hvalue | cases hfits
      | text t => cases v <;> first | exact hvalue | cases hfits
  | jsonb hvalue hw =>
      cases c <;> cases v <;> try cases hfits
      all_goals simp [valueAs, Expr.eval, hvalue, onJson_of_json? hw, castJson, plainText,
        Value.ofScalar]
  | count hvalue => exact hvalue

/-- The comparison of a value with a constant that it fits. -/
theorem Shows.truth_comparison {v : Json} (h : s.Shows db scope (some v)) {c : Constant}
    (hfits : c.fits v = true) (hbool : ∀ value kind b, s = .typed value kind → c ≠ .bool b)
    (op : Comparison) :
    (Expr.binary (operatorOf op) (s.valueAs c) (literal c)).truth db scope =
      some (.ofBool ((ScalarTest.compare op c).passes v)) := by
  apply Expr.truth_of_eval_truth
  simp only [Expr.eval, h.eval_valueAs hfits hbool, eval_literal, Option.bind_eq_bind,
    Option.bind_some, apply_operatorOf, compareValues_of_fits hfits]

theorem exists_truth_number (dialect : Dialect) (op : Comparison) (m n : Json.Number) :
    ∃ w t, compareValues dialect op (.number m) (.number n) = some w ∧ w.truth? = some t := by
  simp only [compareValues]
  cases orderNumbers? m n <;> exact ⟨_, _, rfl, rfl⟩

/-- A store that has one type for all columns compares a value of any type. -/
theorem exists_truth_extracted (op : Comparison) {c : Constant} (hbool : ∀ b, c ≠ .bool b)
    (found : Option Json) :
    ∃ w t, compareValues .sqlite op (found.elim .null extracted) (.ofConstant c) = some w ∧
      w.truth? = some t := by
  cases found with
  | none => exact ⟨_, _, rfl, rfl⟩
  | some v =>
      cases c with
      | bool b => exact absurd rfl (hbool b)
      | text t => cases v <;> exact ⟨_, _, rfl, rfl⟩
      | int n =>
          cases v with
          | number m => exact exists_truth_number .sqlite op m _
          | bool b => exact exists_truth_number .sqlite op _ _
          | null | string | array | object => exact ⟨_, _, rfl, rfl⟩
      | float x =>
          cases v with
          | number m => exact exists_truth_number .sqlite op m _
          | bool b => exact exists_truth_number .sqlite op _ _
          | null | string | array | object => exact ⟨_, _, rfl, rfl⟩

theorem exists_truth_comparison {value : Expr} {c : Constant} (hdialect : db.dialect = .sqlite)
    (hvalue : value.eval db scope = some (found.elim .null extracted))
    (hbool : ∀ b, c ≠ .bool b) (op : Comparison) :
    ∃ t, (Expr.binary (operatorOf op) value (literal c)).truth db scope = some t := by
  obtain ⟨w, t, hw, ht⟩ := exists_truth_extracted op hbool found
  refine ⟨t, ?_⟩
  simp only [Expr.truth, Expr.eval, hvalue, eval_literal, Option.bind_eq_bind,
    Option.bind_some, apply_operatorOf, hdialect, hw, ht]

/-- Where documents have no boolean type, the type of a value is one of two. -/
theorem passes_compare_bool {op : Comparison} (hop : op = .eq ∨ op = .ne) (b : Bool) :
    (ScalarTest.compare op (.bool b)).passes = fun v =>
      decide (typeName v = if (if op = .ne then !b else b) then "true" else "false") := by
  funext v
  rcases hop with rfl | rfl <;> fun_cases typeName v <;> cases b <;> rfl

theorem Shows.selects_compare (h : s.Shows db scope found) {op : Comparison} {c : Constant}
    (hbool : ∀ b, c = .bool b → op = .eq ∨ op = .ne)
    (hcount : ∀ value, s = .count value → c.isInt = true) :
    (s.compare op c).Selects db scope found.isSome
      (found.any (ScalarTest.compare op c).passes) := by
  have hguarded (hplain : ∀ value kind b, s = .typed value kind → c ≠ .bool b) :
      (s.guarded c (.binary (operatorOf op) (s.valueAs c) (literal c))).Selects db scope
        found.isSome (found.any (ScalarTest.compare op c).passes) := by
    apply h.selects_guarded
    · intro v hfits
      exact ScalarTest.not_passes_compare_of_not_fits hfits
    · exact hcount
    · rintro value kind rfl
      cases h with
      | typed hdialect hvalue _ =>
          exact exists_truth_comparison hdialect hvalue (fun b => hplain value kind b rfl) op
    · rintro v rfl hfits
      exact h.truth_comparison hfits hplain op
  cases s with
  | typed value kind =>
      cases c with
      | bool b =>
          cases h with
          | typed _ _ hkind =>
              rw [passes_compare_bool (hbool b rfl)]
              exact Expr.selects_equal hkind _
      | int n => exact hguarded nofun
      | float x => exact hguarded nofun
      | text t => exact hguarded nofun
  | jsonb value => exact hguarded nofun
  | count value => exact hguarded nofun

theorem exists_truth_regexp {e : Expr} {w : Value} (hvalue : e.eval db scope = some w)
    (pattern : String) :
    ∃ t, (Expr.binary .regexp e (.text pattern)).truth db scope = some t := by
  simp only [Expr.truth, Expr.eval, hvalue, Option.bind_eq_bind, Option.bind_some]
  cases w <;> exact ⟨_, rfl⟩

theorem truth_regexp {e : Expr} {text : String} (h : e.eval db scope = some (.text text))
    (p : Pattern) :
    (Expr.binary .regexp e (.text (flaggedSource p))).truth db scope =
      some (.ofBool (p.isMatch text)) := by
  apply Expr.truth_of_eval_truth
  simp only [Expr.eval, h, Option.bind_eq_bind, Option.bind_some, BinaryOp.apply,
    db.patterns.regexp_eq]

theorem truth_matching {e : Expr} {text : String} (h : e.eval db scope = some (.text text))
    (p : Pattern) (negated : Bool) :
    (Expr.binary (.matching p.ignoreCase negated) e (.text p.source)).truth db scope =
      some (.ofBool (p.isMatch text != negated)) := by
  apply Expr.truth_of_eval_truth
  simp only [Expr.eval, h, Option.bind_eq_bind, Option.bind_some, BinaryOp.apply,
    db.patterns.matching_eq]

theorem Shows.selects_matching (h : s.Shows db scope found) (p : Pattern) (negated : Bool)
    (hcount : ∀ value, s ≠ .count value) :
    (s.matching p negated).Selects db scope found.isSome
      (found.any (ScalarTest.matching p negated).passes) := by
  have hother (v : Json) (hfits : (Constant.text "").fits v = false) :
      (ScalarTest.matching p negated).passes v = false := by
    cases v <;> first | rfl | cases hfits
  apply h.selects_guarded hother
  · intro value hs
    exact absurd hs (hcount value)
  · rintro value kind rfl
    cases h with
    | typed _ hvalue _ =>
        obtain ⟨t, ht⟩ := exists_truth_regexp hvalue (flaggedSource p)
        cases negated with
        | false => exact ⟨t, ht⟩
        | true => exact ⟨t.not, Expr.truth_not ht⟩
  · rintro v rfl hfits
    cases v with
    | null | bool | number | array | object => cases hfits
    | string text =>
        have hvalue := h.eval_valueAs hfits (fun _ _ _ _ => nofun)
        cases h with
        | jsonb => exact truth_matching hvalue p negated
        | typed =>
            have hregexp := truth_regexp hvalue p
            cases negated with
            | false => simpa [ScalarTest.passes, flaggedSource] using hregexp
            | true =>
                have hnot := Expr.truth_not (Expr.truth_group.trans hregexp)
                simpa [ScalarTest.passes, flaggedSource, Truth.ofBool_not] using hnot

section Ranges

variable {low high : Constant}

theorem ne_bool_of_areAlike (h : low.areAlike high = true) :
    (∀ b, low ≠ .bool b) ∧ ∀ b, high ≠ .bool b := by
  constructor
  · rintro b rfl
    cases high <;> cases h
  · rintro b rfl
    cases low <;> cases h

theorem not_passes_inRange_of_not_fits {v : Json} (h : low.fits v = false) :
    (ScalarTest.inRange low high).passes v = false := by
  simp only [ScalarTest.passes, Constant.order?_of_not_fits h]

theorem not_passes_notInRange_of_not_fits {v : Json} (h : low.fits v = false) :
    (ScalarTest.notInRange low high).passes v = false := by
  simp only [ScalarTest.passes, Constant.order?_of_not_fits h]

theorem Shows.truth_bounds {v : Json} (h : s.Shows db scope (some v))
    (halike : low.areAlike high = true) (hfits : low.fits v = true) (below above : Comparison) :
    (Expr.binary (operatorOf below) (s.valueAs low) (literal low)).truth db scope =
        some (.ofBool ((ScalarTest.compare below low).passes v)) ∧
      (Expr.binary (operatorOf above) (s.valueAs high) (literal high)).truth db scope =
        some (.ofBool ((ScalarTest.compare above high).passes v)) := by
  obtain ⟨hlow, hhigh⟩ := ne_bool_of_areAlike halike
  have hfits' : high.fits v = true := (Constant.fits_eq_of_areAlike halike v).symm.trans hfits
  exact ⟨h.truth_comparison hfits (fun _ _ b _ => hlow b) below,
    h.truth_comparison hfits' (fun _ _ b _ => hhigh b) above⟩

theorem Shows.exists_truth_bounds {value kind : Expr}
    (h : (Slot.typed value kind).Shows db scope found) (halike : low.areAlike high = true)
    (below above : Comparison) :
    (∃ t, (Expr.binary (operatorOf below) value (literal low)).truth db scope = some t) ∧
      ∃ t, (Expr.binary (operatorOf above) value (literal high)).truth db scope = some t := by
  obtain ⟨hlow, hhigh⟩ := ne_bool_of_areAlike halike
  cases h with
  | typed hdialect hvalue _ =>
      exact ⟨exists_truth_comparison hdialect hvalue hlow below,
        exists_truth_comparison hdialect hvalue hhigh above⟩

theorem Shows.selects_inRange (h : s.Shows db scope found)
    (hvalid : (ScalarTest.inRange low high).IsValid)
    (hcount : ∀ value, s = .count value → low.isInt = true) :
    (s.inRange low high).Selects db scope found.isSome
      (found.any (ScalarTest.inRange low high).passes) := by
  obtain ⟨-, -, halike⟩ := hvalid
  apply h.selects_guarded
  · intro v hfits
    exact not_passes_inRange_of_not_fits hfits
  · exact hcount
  · rintro value kind rfl
    obtain ⟨⟨t, ht⟩, u, hu⟩ := h.exists_truth_bounds halike .ge .le
    exact ⟨_, Expr.truth_and ht hu⟩
  · rintro v rfl hfits
    obtain ⟨hlow, hhigh⟩ := h.truth_bounds halike hfits .ge .le
    rw [ScalarTest.passes_inRange, Truth.ofBool_and]
    exact Expr.truth_and hlow hhigh

theorem Shows.selects_notInRange (h : s.Shows db scope found)
    (hvalid : (ScalarTest.notInRange low high).IsValid)
    (hcount : ∀ value, s = .count value → low.isInt = true) :
    (s.notInRange low high).Selects db scope found.isSome
      (found.any (ScalarTest.notInRange low high).passes) := by
  have halike := hvalid.2.2
  apply h.selects_guarded
  · intro v hfits
    exact not_passes_notInRange_of_not_fits hfits
  · exact hcount
  · rintro value kind rfl
    obtain ⟨⟨t, ht⟩, u, hu⟩ := h.exists_truth_bounds halike .lt .gt
    exact ⟨_, Expr.truth_group.trans (Expr.truth_or ht hu)⟩
  · rintro v rfl hfits
    obtain ⟨hlow, hhigh⟩ := h.truth_bounds halike hfits .lt .gt
    rw [ScalarTest.passes_notInRange hvalid, Truth.ofBool_or]
    exact Expr.truth_group.trans (Expr.truth_or hlow hhigh)

end Ranges

theorem any_passes_inSet (values : List Constant) (found : Option Json) :
    found.any (ScalarTest.inSet values).passes =
      values.any fun c => found.any (ScalarTest.compare .eq c).passes := by
  cases found with
  | none => simp
  | some v =>
      simp only [Option.any_some, ScalarTest.passes_compare_eq]
      rfl

theorem Shows.selects_inSet (h : s.Shows db scope found) {values : List Constant}
    (hcount : ∀ value, s = .count value → values.all Constant.isInt = true) :
    (s.inSet values).Selects db scope found.isSome
      (found.any (ScalarTest.inSet values).passes) := by
  rw [any_passes_inSet]
  apply Expr.Selects.group
  apply Expr.selects_joined_or
  · exact .of_truth (Expr.truth_of_eval_truth rfl)
  · intro c hc
    apply Expr.Selects.group
    apply h.selects_compare
    · intro b hb
      exact Or.inl rfl
    · intro value hs
      exact List.all_eq_true.mp (hcount value hs) c hc

theorem Shows.selects_notInSet (h : s.Shows db scope found) {values : List Constant}
    (hcount : ∀ value, s = .count value → values.all Constant.isInt = true) :
    (s.notInSet values).Selects db scope found.isSome
      (found.any (ScalarTest.notInSet values).passes) := by
  have hset := h.selects_inSet hcount
  cases hkind : s.kind? with
  | none =>
      simp only [notInSet, hkind]
      cases h with
      | count => exact hset.not
      | typed | jsonb | missing => cases hkind
  | some kind =>
      obtain ⟨name, hname⟩ := h.exists_kind hkind
      have hnotNull : (Expr.isNotNull kind).Selects db scope found.isSome found.isSome :=
        Expr.selects_isNotNull hname
      have hpasses : found.any (ScalarTest.notInSet values).passes =
          (found.isSome && !found.any (ScalarTest.inSet values).passes) := by
        cases found <;> rfl
      simp only [notInSet, hkind]
      rw [hpasses]
      apply hnotNull.guard_and
      · intro hnone
        obtain ⟨t, ht, -⟩ := hset
        exact ⟨t.not, Expr.truth_not ht⟩
      · intro hsome
        rw [hsome] at hset
        exact hset.not

/-- A test of a slot selects exactly the values that pass it. -/
theorem Shows.selects_test (h : s.Shows db scope found) {t : ScalarTest} (hvalid : t.IsValid)
    (hcount : ∀ value, s = .count value → t.isIntegral = true) :
    (s.test t).Selects db scope found.isSome (found.any t.passes) := by
  cases t with
  | compare op c => exact h.selects_compare hvalid.2 hcount
  | matching p negated => exact h.selects_matching p negated fun value hs => nomatch hcount value hs
  | inRange low high =>
      exact h.selects_inRange hvalid fun value hs => (Bool.and_eq_true_iff.mp (hcount value hs)).1
  | notInRange low high =>
      exact h.selects_notInRange hvalid
        fun value hs => (Bool.and_eq_true_iff.mp (hcount value hs)).1
  | inSet values => exact h.selects_inSet hcount
  | notInSet values => exact h.selects_notInSet hcount

theorem truth_comparison_of_null {e : Expr} (h : e.eval db scope = some .null) (op : Comparison)
    (c : Constant) :
    (Expr.binary (operatorOf op) e (literal c)).truth db scope = some .unknown := by
  simp only [Expr.truth, Expr.eval, h, eval_literal, Option.bind_eq_bind, Option.bind_some,
    apply_operatorOf, compareValues]
  rfl

theorem exists_truth_inSet_of_null {e : Expr} (h : e.eval db scope = some .null)
    (values : List Constant) : ∃ u, ((Slot.count e).inSet values).truth db scope = some u := by
  have hset : ((Slot.count e).inSet values).Selects db scope false (values.any fun _ => false) := by
    apply Expr.Selects.group
    apply Expr.selects_joined_or
    · exact .of_truth (Expr.truth_of_eval_truth rfl)
    · intro c hc
      apply Expr.Selects.group
      apply Expr.Selects.of_unknown
      exact truth_comparison_of_null h .eq c
  obtain ⟨u, hu, -⟩ := hset
  exact ⟨u, hu⟩

/-- A test of a count has a truth value also where there is no count. -/
theorem exists_truth_test_of_null {e : Expr} (h : e.eval db scope = some .null) {t : ScalarTest}
    (hintegral : t.isIntegral = true) : ∃ u, ((Slot.count e).test t).truth db scope = some u := by
  cases t with
  | compare op c => exact ⟨_, truth_comparison_of_null h op c⟩
  | matching p negated => cases hintegral
  | inRange low high =>
      exact ⟨_, Expr.truth_and (truth_comparison_of_null h .ge low)
        (truth_comparison_of_null h .le high)⟩
  | notInRange low high =>
      exact ⟨_, Expr.truth_group.trans (Expr.truth_or (truth_comparison_of_null h .lt low)
        (truth_comparison_of_null h .gt high))⟩
  | inSet values => exact exists_truth_inSet_of_null h values
  | notInSet values =>
      obtain ⟨u, hu⟩ := exists_truth_inSet_of_null h values
      exact ⟨_, Expr.truth_not hu⟩

end CatalogQuery.Sql.Slot
