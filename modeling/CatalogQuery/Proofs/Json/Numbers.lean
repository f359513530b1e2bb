/-
Numbers that are read back.  A number is written as its sign and a text without one; the
reader, once past the sign, takes that text for the same number, an integer for an
integer and a floating point number for a floating point number.
-/
import CatalogQuery.Json.Reader
import CatalogQuery.Proofs.Binary64.ReadBack

namespace CatalogQuery.Json

theorem digit?_of_isDigit {c : Char} (h : c.isDigit = true) : digit? c = some (c.toNat - 48) := by
  simp only [Char.isDigit, Bool.and_eq_true, decide_eq_true_eq] at h
  exact if_pos h

theorem toNat_sub_ne_zero {c : Char} (h : c.isDigit = true) (hc : c ≠ '0') :
    c.toNat - 48 ≠ 0 := by
  simp only [Char.isDigit, Bool.and_eq_true, decide_eq_true_eq] at h
  have hlow : 48 ≤ c.toNat := UInt32.le_iff_toNat_le.1 h.1
  exact fun hzero => hc (Char.toNat_inj.1 (show c.toNat = 48 by omega))

theorem exists_toDigits_eq_cons {n : Nat} (hn : n ≠ 0) :
    ∃ d rest, Nat.toDigits 10 n = d :: rest ∧ d ≠ '0' := by
  induction n using Nat.strong_induction_on with
  | _ n ih =>
    by_cases hlt : n < 10
    · have hdigit : ∀ d < 10, d ≠ 0 → d.digitChar ≠ '0' := by decide
      exact ⟨n.digitChar, [], Nat.toDigits_of_lt_base hlt, hdigit n hlt hn⟩
    · obtain ⟨d, rest, heq, hd⟩ := ih (n / 10) (by omega) (by omega)
      refine ⟨d, rest ++ [(n % 10).digitChar], ?_, hd⟩
      rw [Nat.toDigits_of_base_le (by decide) (by omega), heq, List.cons_append]

/-- The digits of a positive number do not start with a zero, and their value is the
number. -/
theorem exists_digits {n : Nat} (hn : n ≠ 0) :
    ∃ d rest, Nat.toDigits 10 n = d :: rest ∧ d ≠ '0' ∧
      (∀ c ∈ d :: rest, c.isDigit = true) ∧ Nat.ofDigitChars 10 (d :: rest) 0 = n := by
  obtain ⟨d, rest, heq, hd⟩ := exists_toDigits_eq_cons hn
  refine ⟨d, rest, heq, hd, fun c hc => ?_, ?_⟩
  · exact Nat.isDigit_of_mem_toDigits (by decide) (by decide) (heq ▸ hc)
  · rw [← heq, Nat.ofDigitChars_ten_toDigits]

namespace Numeral

/-- From one stage of a number, characters that all belong to it lead to another one. -/
def Grows (s : Phase × Numeral) (cs : List Char) (t : Phase × Numeral) : Prop :=
  cs.foldlM (fun s c => s.2.extend? s.1 c) s = some t

theorem Grows.nil (s : Phase × Numeral) : Grows s [] s := rfl

theorem Grows.cons {p q : Phase} {n m : Numeral} {c : Char} {cs : List Char}
    {t : Phase × Numeral} (hstep : n.extend? p c = some (q, m)) (h : Grows (q, m) cs t) :
    Grows (p, n) (c :: cs) t := by
  simp only [Grows, List.foldlM_cons, hstep]
  exact h

theorem Grows.append {s t u : Phase × Numeral} {cs ds : List Char} (h : Grows s cs t)
    (h' : Grows t ds u) : Grows s (cs ++ ds) u := by
  simp only [Grows, List.foldlM_append] at h h' ⊢
  rw [h]
  exact h'

/-- Two stages that agree on the first character agree on the text. -/
theorem Grows.of_head {p q : Phase} {n m : Numeral} {c : Char} {cs : List Char}
    {t : Phase × Numeral} (hhead : n.extend? p c = m.extend? q c) (h : Grows (q, m) (c :: cs) t) :
    Grows (p, n) (c :: cs) t := by
  simp only [Grows, List.foldlM_cons] at h ⊢
  rwa [hhead]

/-- The number with the digits of a run, in a phase that a run of digits does not end. -/
def withRun (n : Numeral) (phase : Phase) (cs : List Char) : Numeral :=
  match phase with
  | .exponent => { n with exponent := Nat.ofDigitChars 10 cs n.exponent }
  | .fraction =>
    { n with coefficient := Nat.ofDigitChars 10 cs n.coefficient, places := n.places + cs.length }
  | _ => { n with coefficient := Nat.ofDigitChars 10 cs n.coefficient }

theorem withRun_cons (n : Numeral) (phase : Phase) (c : Char) (cs : List Char) :
    (n.withRun phase [c]).withRun phase cs = n.withRun phase (c :: cs) := by
  cases phase <;> simp [withRun, Nat.ofDigitChars_cons, Nat.add_assoc, Nat.add_comm 1]

/-- The phases in which a number takes any digit and stays in its phase. -/
theorem extend?_digit {phase : Phase}
    (hphase : phase = .digits ∨ phase = .fraction ∨ phase = .exponent) (n : Numeral) {c : Char}
    (hdigit : c.isDigit = true) : n.extend? phase c = some (phase, n.withRun phase [c]) := by
  have hvalue := digit?_of_isDigit hdigit
  unfold extend?
  rw [hvalue]
  obtain rfl | rfl | rfl := hphase <;>
    simp [withRun, pushDigit, pushPlace, pushExponent, Nat.ofDigitChars_cons, Nat.mul_comm]

theorem grows_run {phase : Phase}
    (hphase : phase = .digits ∨ phase = .fraction ∨ phase = .exponent) (n : Numeral)
    {cs : List Char} (hdigits : ∀ c ∈ cs, c.isDigit = true) :
    Grows (phase, n) cs (phase, n.withRun phase cs) := by
  induction cs generalizing n with
  | nil => obtain rfl | rfl | rfl := hphase <;> exact Grows.nil _
  | cons c cs ih =>
    obtain ⟨hdigit, hrest⟩ := List.forall_mem_cons.1 hdigits
    rw [← withRun_cons]
    exact Grows.cons (extend?_digit hphase n hdigit) (ih _ hrest)

/-- The digits before the point, the first of which is not zero. -/
theorem grows_whole (negative : Bool) {c : Char} {cs : List Char}
    (hdigits : ∀ d ∈ c :: cs, d.isDigit = true) (hc : c ≠ '0') :
    Grows (.sign, start negative) (c :: cs)
      (.digits, ⟨negative, true, Nat.ofDigitChars 10 (c :: cs) 0, 0, false, 0⟩) := by
  have hdigit := hdigits c List.mem_cons_self
  obtain ⟨d, hd⟩ := Nat.exists_eq_succ_of_ne_zero (toNat_sub_ne_zero hdigit hc)
  refine Grows.of_head ?_ (grows_run (.inl rfl) (start negative) hdigits)
  unfold extend?
  rw [digit?_of_isDigit hdigit, hd]
  rfl

theorem grows_zero (negative : Bool) :
    Grows (.sign, start negative) ['0'] (.zero, start negative) :=
  Grows.cons rfl (Grows.nil _)

/-- A point and the digits after it, of which there is one at least. -/
theorem grows_point {phase : Phase} (hphase : phase = .zero ∨ phase = .digits) (n : Numeral)
    {cs : List Char} (hcs : cs ≠ []) (hdigits : ∀ c ∈ cs, c.isDigit = true) :
    Grows (phase, n) ('.' :: cs) (.fraction, { n with whole := false }.withRun .fraction cs) := by
  have hpoint : n.extend? phase '.' = some (.point, { n with whole := false }) := by
    obtain rfl | rfl := hphase <;> rfl
  obtain ⟨c, cs, rfl⟩ := List.exists_cons_of_ne_nil hcs
  have hdigit := digit?_of_isDigit (hdigits c List.mem_cons_self)
  refine Grows.cons hpoint (Grows.of_head ?_ (grows_run (.inr (.inl rfl)) _ hdigits))
  unfold extend?
  rw [hdigit]

/-- A mark, a sign and the digits of an exponent, of which there is one at least. -/
theorem grows_exponent {phase : Phase} (hphase : phase = .digits ∨ phase = .fraction)
    (n : Numeral) (hwhole : phase = .fraction → n.whole = false) (negative : Bool)
    (hnegative : n.exponentNegative = false) {cs : List Char} (hcs : cs ≠ [])
    (hdigits : ∀ c ∈ cs, c.isDigit = true) :
    Grows (phase, n) ('e' :: (if negative then '-' else '+') :: cs)
      (.exponent,
        { n with whole := false, exponentNegative := negative }.withRun .exponent cs) := by
  have hmark : n.extend? phase 'e' = some (.mark, { n with whole := false }) := by
    obtain rfl | rfl := hphase
    · rfl
    · rw [← hwhole rfl]
      rfl
  have hsign : Numeral.extend? { n with whole := false } .mark (if negative then '-' else '+') =
      some (.markSign, { n with whole := false, exponentNegative := negative }) := by
    obtain ⟨_, _, _, _, exponentNegative, _⟩ := n
    cases negative with
    | false => exact congrArg (fun b => some (Phase.markSign, Numeral.mk _ _ _ _ b _)) hnegative
    | true => rfl
  obtain ⟨c, cs, rfl⟩ := List.exists_cons_of_ne_nil hcs
  have hdigit := digit?_of_isDigit (hdigits c List.mem_cons_self)
  refine Grows.cons hmark (Grows.cons hsign
    (Grows.of_head ?_ (grows_run (.inr (.inr rfl)) _ hdigits)))
  unfold extend?
  rw [hdigit]

/-- After its sign, the text is read to its end as the number. -/
def Spells (negative : Bool) (cs : List Char) (v : Option Number) : Prop :=
  ∃ phase n, Grows (.sign, start negative) cs (phase, n) ∧ phase.mayEnd = true ∧ n.number? = v

/-- The digits of a natural number other than zero, before any point. -/
theorem grows_toDigits (negative : Bool) {n : Nat} (hn : n ≠ 0) :
    Grows (.sign, start negative) (Nat.toDigits 10 n)
      (.digits, ⟨negative, true, n, 0, false, 0⟩) := by
  obtain ⟨d, rest, heq, hd, hdigits, hread⟩ := exists_digits hn
  have h := grows_whole negative hdigits hd
  rwa [hread, ← heq] at h

/-- The number that the text of an integer is read as: the integer itself, or the nearest
floating point number where sixty-four bits are not enough. -/
def reread (n : Int) : Option Number :=
  if fitsInt64 n || fitsUInt64 n then some (.int n)
  else (Binary64.ofDecimal? ⟨n < 0, n.natAbs, 0⟩).map .float

theorem number?_whole {negative : Bool} {c : Nat} (h : negative = true → c ≠ 0) :
    number? ⟨negative, true, c, 0, false, 0⟩ = reread (if negative then -(c : Int) else c) := by
  cases negative with
  | false =>
    have hsign : ¬(c : Int) < 0 := by omega
    simp [number?, integer, decimal, reread, hsign]
  | true =>
    have hc : c ≠ 0 := h rfl
    have hsign : 0 < c := by omega
    simp [number?, integer, decimal, reread, hc, hsign]

theorem spells_natAbs (n : Int) :
    Spells (n < 0) (Nat.toDigits 10 n.natAbs) (reread n) := by
  have hvalue : (if decide (n < 0) then -(n.natAbs : Int) else n.natAbs) = n := by
    by_cases hneg : n < 0
    · rw [decide_eq_true hneg, if_pos rfl]
      omega
    · rw [decide_eq_false hneg, if_neg Bool.false_ne_true]
      omega
  by_cases hn : n = 0
  · subst hn
    exact ⟨.zero, start false, grows_zero false, rfl, by decide⟩
  · refine ⟨.digits, _, grows_toDigits _ (by omega), rfl, ?_⟩
    rw [number?_whole (by omega), hvalue]

section Float

variable {x : Binary64} (hfinite : x.isFinite = true)
include hfinite

/-- A number with a point or an exponent is read as the floating point number nearest to
its value. -/
theorem number?_float {n : Numeral} {e : Int} (hwhole : n.whole = false)
    (hnegative : n.negative = x.isNegative) (hexponent : n.decimal.exponent = e)
    (hvalue : Binary64.nearestDecimal n.coefficient e = x.magnitude) :
    n.number? = some (.float x) := by
  have hdecimal : n.decimal = ⟨x.isNegative, n.coefficient, e⟩ := by
    rw [← hnegative, ← hexponent]
    rfl
  simp only [number?, hwhole, Bool.false_eq_true, false_and, if_false, hdecimal,
    Binary64.ofDecimal?_of_isFinite hfinite hvalue, Option.map_some]

/-- Digits on both sides of a point. -/
theorem spells_point {phase : Phase} (hphase : phase = .zero ∨ phase = .digits) {k : Nat}
    {whole places : List Char}
    (hgrows : Grows (.sign, start x.isNegative) whole
      (phase, ⟨x.isNegative, true, k, 0, false, 0⟩))
    (hplaces : places ≠ []) (hdigits : ∀ c ∈ places, c.isDigit = true)
    (hvalue : Binary64.nearestDecimal (Nat.ofDigitChars 10 places k) (-(places.length : Int)) =
      x.magnitude) :
    Spells x.isNegative (whole ++ '.' :: places) (some (.float x)) := by
  refine ⟨.fraction, _, hgrows.append (grows_point hphase _ hplaces hdigits), rfl, ?_⟩
  exact number?_float hfinite rfl rfl (by simp [decimal, withRun]) hvalue

/-- Digits with a point between two of them. -/
theorem spells_split {d : Char} {rest places : List Char}
    (hdigits : ∀ c ∈ d :: (rest ++ places), c.isDigit = true) (hd : d ≠ '0')
    (hplaces : places ≠ [])
    (hvalue : Binary64.nearestDecimal (Nat.ofDigitChars 10 (d :: (rest ++ places)) 0)
      (-(places.length : Int)) = x.magnitude) :
    Spells x.isNegative (d :: rest ++ '.' :: places) (some (.float x)) := by
  rw [← List.cons_append, List.forall_mem_append] at hdigits
  rw [← List.cons_append, Nat.ofDigitChars_append] at hvalue
  exact spells_point hfinite (.inr rfl) (grows_whole _ hdigits.1 hd) hplaces hdigits.2 hvalue

theorem spells_positional {c : Nat} {e : Int} (hc : c ≠ 0)
    (hvalue : Binary64.nearestDecimal c e = x.magnitude) :
    Spells x.isNegative (Notation.positional (Nat.toDigits 10 c) e).toList
      (some (.float x)) := by
  obtain ⟨d, rest, heq, hd, hdigits, hread⟩ := exists_digits hc
  have hzeros (k : Nat) : ∀ c ∈ List.replicate k '0', c.isDigit = true := by
    intro c hc
    rw [List.eq_of_mem_replicate hc]
    rfl
  rw [heq]
  cases e with
  | ofNat e =>
    -- zeros are written up to the point, and one more after it
    have htext : (Notation.positional (d :: rest) (.ofNat e)).toList =
        d :: (rest ++ List.replicate e '0') ++ '.' :: ['0'] := by
      simp [Notation.positional, Notation.zeros]
    have hall : d :: (rest ++ List.replicate e '0' ++ ['0']) =
        (d :: rest) ++ List.replicate (e + 1) '0' := by
      simp [List.replicate_succ']
    have hscaled : Nat.ofDigitChars 10 ((d :: rest) ++ List.replicate (e + 1) '0') 0 =
        c * 10 ^ (e + 1) := by
      rw [Nat.ofDigitChars_append, hread, Nat.ofDigitChars_replicate_zero, Nat.mul_comm]
    rw [htext]
    refine spells_split hfinite ?_ hd (by simp) ?_
    · rw [hall]
      exact List.forall_mem_append.2 ⟨hdigits, hzeros _⟩
    · rw [hall, hscaled, Binary64.nearestDecimal_mul_ten_pow, ← hvalue]
      congr 1
      simp
  | negSucc e =>
    by_cases hlt : e + 1 < (d :: rest).length
    · -- the point stands between two digits
      have htext : (Notation.positional (d :: rest) (.negSucc e)).toList =
          d :: rest.take (rest.length - (e + 1)) ++ '.' :: rest.drop (rest.length - (e + 1)) := by
        have hwhole : (d :: rest).length - (e + 1) = rest.length - (e + 1) + 1 := by
          simp only [List.length_cons] at hlt ⊢
          omega
        simp only [Notation.positional, if_pos hlt, hwhole, List.take_succ_cons,
          List.drop_succ_cons]
        simp
      have hlength : (rest.drop (rest.length - (e + 1))).length = e + 1 := by
        simp only [List.length_cons, List.length_drop] at hlt ⊢
        omega
      rw [htext]
      refine spells_split hfinite ?_ hd ?_ ?_
      · rwa [List.take_append_drop]
      · exact List.ne_nil_of_length_eq_add_one hlength
      · rw [List.take_append_drop, hread, hlength]
        exact hvalue
    · -- zeros stand between the point and the digits
      have htext : (Notation.positional (d :: rest) (.negSucc e)).toList =
          ['0'] ++ '.' :: (List.replicate (e + 1 - (d :: rest).length) '0' ++ (d :: rest)) := by
        rw [Notation.positional, if_neg hlt]
        simp [Notation.zeros]
      have hlength : (List.replicate (e + 1 - (d :: rest).length) '0' ++ (d :: rest)).length =
          e + 1 := by
        simp only [List.length_append, List.length_replicate]
        omega
      rw [htext]
      refine spells_point hfinite (.inl rfl) (grows_zero _) (by simp) ?_ ?_
      · exact List.forall_mem_append.2 ⟨hzeros _, hdigits⟩
      · rw [hlength, Nat.ofDigitChars_append, Nat.ofDigitChars_replicate_zero, Nat.mul_zero, hread]
        exact hvalue

omit hfinite in
/-- The first digit and, if there are more, a point and the others. -/
theorem grows_significand (negative : Bool) {d : Char} {rest : List Char}
    (hdigits : ∀ c ∈ d :: rest, c.isDigit = true) (hd : d ≠ '0') :
    ∃ phase n, Grows (.sign, start negative)
        (d :: ((if rest.isEmpty then [] else ['.']) ++ rest)) (phase, n) ∧
      (phase = .digits ∨ phase = .fraction) ∧ (phase = .fraction → n.whole = false) ∧
      { n with whole := false } =
        ⟨negative, false, Nat.ofDigitChars 10 (d :: rest) 0, rest.length, false, 0⟩ := by
  obtain ⟨hfirst, hrest⟩ := List.forall_mem_cons.1 hdigits
  have hone := grows_whole negative (List.forall_mem_singleton.2 hfirst) hd
  cases rest with
  | nil => exact ⟨.digits, _, hone, .inl rfl, nofun, rfl⟩
  | cons c rest =>
    refine ⟨.fraction, _, hone.append (grows_point (.inr rfl) _ (by simp) hrest), .inr rfl,
      fun _ => rfl, ?_⟩
    simp [withRun, Nat.ofDigitChars_cons]

/-- One digit before the point, the others after it, and an exponent. -/
theorem spells_scientific {c : Nat} {e decade : Int} (hc : c ≠ 0)
    (hdecade : decade = e + (Nat.toDigits 10 c).length - 1)
    (hvalue : Binary64.nearestDecimal c e = x.magnitude) :
    Spells x.isNegative (Notation.scientific "+" (Nat.toDigits 10 c) decade).toList
      (some (.float x)) := by
  obtain ⟨d, rest, heq, hd, hdigits, hread⟩ := exists_digits hc
  rw [heq] at hdecade ⊢
  have htext : (Notation.scientific "+" (d :: rest) decade).toList =
      d :: ((if rest.isEmpty then [] else ['.']) ++ rest) ++
        'e' :: (if decide (decade < 0) then '-' else '+') :: Nat.toDigits 10 decade.natAbs := by
    by_cases hrest : rest.isEmpty <;> by_cases hsign : decade < 0 <;>
      simp [Notation.scientific, hrest, hsign]
  obtain ⟨phase, n, hgrows, hphase, hwhole, hn⟩ := grows_significand x.isNegative hdigits hd
  have hall : ∀ c ∈ Nat.toDigits 10 decade.natAbs, c.isDigit = true :=
    fun c => Nat.isDigit_of_mem_toDigits (by decide) (by decide)
  have hexponent := grows_exponent hphase n hwhole (decade < 0)
    (congrArg Numeral.exponentNegative hn) Nat.toDigits_ne_nil hall
  rw [htext]
  refine ⟨.exponent, _, hgrows.append hexponent, rfl, ?_⟩
  obtain ⟨_, _, _, _, _, _⟩ := n
  simp only [Numeral.mk.injEq] at hn
  obtain ⟨rfl, -, rfl, rfl, -, rfl⟩ := hn
  refine number?_float hfinite rfl rfl (e := e) ?_ (by rwa [hread])
  simp only [decimal, withRun, Nat.ofDigitChars_ten_toDigits, decide_eq_true_eq]
  rw [List.length_cons] at hdecade
  split <;> omega

/-- The text of a finite number is its sign and a text that is read as the number. -/
theorem exists_spells_float : ∃ cs, (Notation.encoded.write x).toList =
      (if x.isNegative then ['-'] else []) ++ cs ∧
    Spells x.isNegative cs (some (.float x)) := by
  have hsign : (if x.isNegative then "-" else "").toList =
      if x.isNegative then ['-'] else [] := by
    split <;> rfl
  have hvalue := Binary64.nearestDecimal_shortest Notation.encoded.tie x
  simp only [Notation.write, Binary64.isNaN_of_isFinite hfinite, hfinite, Bool.false_eq_true,
    if_false, Bool.not_true]
  generalize Binary64.shortest Notation.encoded.tie x = d at hvalue ⊢
  split
  · rename_i hzero
    rw [hzero, Binary64.nearestDecimal_zero] at hvalue
    refine ⟨['0'] ++ '.' :: ['0'], by rw [String.toList_append, hsign]; rfl, ?_⟩
    refine spells_point hfinite (.inl rfl) (grows_zero _) (by simp) (by simp) ?_
    exact (Binary64.nearestDecimal_zero _).trans hvalue
  · rename_i hcoefficient
    split
    · exact ⟨_, by rw [String.toList_append, hsign],
        spells_positional hfinite hcoefficient hvalue⟩
    · exact ⟨_, by rw [String.toList_append, hsign]; rfl,
        spells_scientific hfinite hcoefficient rfl hvalue⟩

end Float

/-- The text of an integer is its sign and a text that is read as the number. -/
theorem toList_toString_int (n : Int) : (toString n).toList =
    (if decide (n < 0) then ['-'] else []) ++ Nat.toDigits 10 n.natAbs := by
  cases n with
  | ofNat n =>
    have htext : toString (Int.ofNat n) = n.repr := rfl
    have hsign : ¬Int.ofNat n < 0 := Int.not_lt.2 (Int.natCast_nonneg n)
    rw [htext, Nat.toList_repr, decide_eq_false hsign]
    rfl
  | negSucc n =>
    have htext : toString (Int.negSucc n) = "-" ++ (n + 1).repr := rfl
    rw [htext, String.toList_append, Nat.toList_repr, decide_eq_true (Int.negSucc_lt_zero n)]
    rfl

end Numeral

end CatalogQuery.Json
