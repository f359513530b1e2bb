/-
What a reader of a query's text sees outside of its literals.  A quote begins a literal and the
next one ends it, unless that one is written twice.  A text that is written as a literal leaves
nothing behind, whatever is in it; so what is left of a row of pieces is what its words and
numbers say, and it is enough to look at those.
-/
import CatalogQuery.Sql.Text
import Mathlib.Data.List.Chain

namespace CatalogQuery.Sql

/-- Where a reader is in a text. -/
inductive Place
  | outside
  | inside
  /-- After a quote inside of a literal, which ends it unless another one follows. -/
  | quote

/-- What is left of a text when its literals are taken away, if it does not end inside of one. -/
def outside? : Place → List Char → Option (List Char)
  | .inside, [] => none
  | .outside, [] | .quote, [] => some []
  | .inside, c :: cs => if c = '\x27' then outside? .quote cs else outside? .inside cs
  | .outside, c :: cs | .quote, c :: cs =>
    if c = '\x27' then outside? .inside cs else (outside? .outside cs).map (c :: ·)

/-- The text stays in its form: it ends outside of its literals, and outside of them parentheses
are balanced, each closing one after the opening one, and there is neither a semicolon nor a
double quote nor the beginning of a comment. -/
def IsContained (text : String) : Prop :=
  ∃ rest, outside? .outside text.toList = some rest ∧ rest.count '(' = rest.count ')' ∧
    (∀ front, front <+: rest → front.count ')' ≤ front.count '(') ∧ ';' ∉ rest ∧ '"' ∉ rest ∧
    ¬['-', '-'] <:+: rest ∧ ¬['/', '*'] <:+: rest

/-- A literal that is ended and begun again at once is one with a quote in it. -/
theorem outside?_quote (cs : List Char) : outside? .quote cs = outside? .outside cs := by
  cases cs <;> rfl

theorem outside?_append_of_noQuote {front : List Char} (h : '\x27' ∉ front) (cs : List Char) :
    outside? .outside (front ++ cs) = (outside? .outside cs).map (front ++ ·) := by
  induction front with
  | nil => simp
  | cons c rest ih =>
      have hc : c ≠ '\x27' := fun heq => h (heq ▸ List.mem_cons_self)
      have hrest : '\x27' ∉ rest := fun hmem => h (List.mem_cons_of_mem c hmem)
      rw [List.cons_append, outside?, if_neg hc, ih hrest, Option.map_map]
      rfl

theorem outside?_doubled (text cs : List Char) :
    outside? .inside ((text.flatMap fun c => if c = '\x27' then ['\x27', '\x27'] else [c]) ++ cs) =
      outside? .inside cs := by
  induction text with
  | nil => rfl
  | cons c rest ih =>
      rw [List.flatMap_cons, List.append_assoc]
      by_cases hc : c = '\x27'
      · simp [hc, outside?, ih]
      · simp [hc, outside?, ih]

/-- Nothing is left of a text that is written as a literal, whatever is in it. -/
theorem outside?_quoteText (s : String) (cs : List Char) :
    outside? .outside ((quoteText s).toList ++ cs) = outside? .outside cs := by
  have htext : (quoteText s).toList ++ cs = '\x27' ::
      ((s.toList.flatMap fun c => if c = '\x27' then ['\x27', '\x27'] else [c]) ++
        ('\x27' :: cs)) := by
    simp [quoteText, doubled]
  rw [htext, outside?, if_pos rfl, outside?_doubled, outside?, if_pos rfl, outside?_quote]

example : outside? .outside (quoteText "it's; --" ++ " or").toList = some " or".toList := by
  decide

/-- What a piece leaves outside of literals. -/
def Piece.outside : Piece → List Char
  | .text _ => []
  | .word s => s.toList
  | .integer n => (toString n).toList
  | .real x => (Notation.plain.write x).toList

/-- What some pieces leave outside of literals. -/
def outsideOf (ps : List Piece) : List Char := ps.flatMap Piece.outside

theorem outside?_write {p : Piece} (h : '\x27' ∉ p.outside) (cs : List Char) :
    outside? .outside (p.write.toList ++ cs) = (outside? .outside cs).map (p.outside ++ ·) := by
  cases p with
  | text s =>
      rw [Piece.write, outside?_quoteText]
      exact (congrFun Option.map_id _).symm
  | word s => exact outside?_append_of_noQuote h cs
  | integer n => exact outside?_append_of_noQuote h cs
  | real x => exact outside?_append_of_noQuote h cs

theorem toList_writePieces_cons (p : Piece) (ps : List Piece) :
    (writePieces (p :: ps)).toList = p.write.toList ++ (writePieces ps).toList := by
  simp [writePieces, String.join_cons]

theorem toList_writePieces_append (ps qs : List Piece) :
    (writePieces (ps ++ qs)).toList = (writePieces ps).toList ++ (writePieces qs).toList := by
  induction ps with
  | nil => rfl
  | cons p rest ih =>
      rw [List.cons_append, toList_writePieces_cons, ih, toList_writePieces_cons,
        List.append_assoc]

theorem outside?_writePieces {ps : List Piece} (h : '\x27' ∉ outsideOf ps) :
    outside? .outside (writePieces ps).toList = some (outsideOf ps) := by
  induction ps with
  | nil => rfl
  | cons p rest ih =>
      have hmem : '\x27' ∉ p.outside ∧ '\x27' ∉ outsideOf rest := by
        simpa [outsideOf, not_or] using h
      rw [toList_writePieces_cons, outside?_write hmem.1, ih hmem.2]
      rfl

/-- How many parentheses are open after some characters, if none is closed that is not. -/
def depthAfter? : Nat → List Char → Option Nat
  | d, [] => some d
  | d, c :: cs =>
    if c = '(' then depthAfter? (d + 1) cs
    else if c = ')' then
      match d with
      | 0 => none
      | d + 1 => depthAfter? d cs
    else depthAfter? d cs

/-- None of the characters is a forbidden one. -/
def Avoids (forbidden cs : List Char) : Prop := ∀ c ∈ cs, c ∉ forbidden

instance (forbidden cs : List Char) : Decidable (Avoids forbidden cs) := List.decidableBAll _ cs

/-- Characters that lead from one depth of parentheses to another and are harmless otherwise.
None of them is a quote or a slash, and no two dashes meet in them or at their end. -/
structure Plain (a b : Nat) (cs : List Char) : Prop where
  depth : depthAfter? a cs = some b
  allowed : Avoids ['\x27', '"', ';', '/'] cs
  dashes : cs.IsChain fun x y => ¬(x = '-' ∧ y = '-')
  last : cs.getLast? ≠ some '-'

instance (a b : Nat) (cs : List Char) : Decidable (Plain a b cs) :=
  decidable_of_iff (depthAfter? a cs = some b ∧ Avoids ['\x27', '"', ';', '/'] cs ∧
      (cs.IsChain fun x y => ¬(x = '-' ∧ y = '-')) ∧ cs.getLast? ≠ some '-')
    ⟨fun ⟨hdepth, hallowed, hdashes, hlast⟩ => ⟨hdepth, hallowed, hdashes, hlast⟩,
      fun h => ⟨h.depth, h.allowed, h.dashes, h.last⟩⟩

theorem depthAfter?_append (cs ds : List Char) (a : Nat) :
    depthAfter? a (cs ++ ds) = (depthAfter? a cs).bind fun b => depthAfter? b ds := by
  fun_induction depthAfter? a cs with
  | case1 a => rfl
  | case2 a cs ih => simp [depthAfter?, ih]
  | case3 cs hopen => simp [depthAfter?]
  | case4 cs d hopen ih => simp [depthAfter?, ih]
  | case5 a c cs hopen hclose ih => simp [depthAfter?, hopen, hclose, ih]

/-- The depth is what there was and what was opened, less what was closed. -/
theorem count_of_depthAfter? {cs : List Char} {a b : Nat} (h : depthAfter? a cs = some b) :
    a + cs.count '(' = b + cs.count ')' := by
  fun_induction depthAfter? a cs with
  | case1 a =>
      cases h
      rfl
  | case2 a cs ih =>
      have hih := ih h
      simp
      omega
  | case3 cs hopen => cases h
  | case4 cs d hopen ih =>
      have hih := ih h
      simp
      omega
  | case5 a c cs hopen hclose ih =>
      have hih := ih h
      simp [hopen, hclose]
      omega

theorem depthAfter?_shift {cs : List Char} {a b : Nat} (h : depthAfter? a cs = some b) (k : Nat) :
    depthAfter? (a + k) cs = some (b + k) := by
  fun_induction depthAfter? a cs with
  | case1 a =>
      cases h
      rfl
  | case2 a cs ih =>
      have hih := ih h
      rw [Nat.add_right_comm] at hih
      simp [depthAfter?, hih]
  | case3 cs hopen => cases h
  | case4 cs d hopen ih =>
      have hih := ih h
      rw [Nat.succ_add]
      simp [depthAfter?, hih]
  | case5 a c cs hopen hclose ih =>
      have hih := ih h
      simp [depthAfter?, hopen, hclose, hih]

namespace Plain

variable {a b c : Nat} {cs ds : List Char}

theorem nil (a : Nat) : Plain a a [] := ⟨rfl, nofun, .nil, nofun⟩

/-- The same from a greater depth. -/
theorem shift (h : Plain a b cs) (k : Nat) : Plain (a + k) (b + k) cs :=
  ⟨depthAfter?_shift h.depth k, h.allowed, h.dashes, h.last⟩

theorem append (h : Plain a b cs) (h' : Plain b c ds) : Plain a c (cs ++ ds) where
  depth := by
    rw [depthAfter?_append, h.depth]
    exact h'.depth
  allowed d hd := (List.mem_append.mp hd).elim (h.allowed d) (h'.allowed d)
  dashes := by
    rw [List.isChain_append]
    refine ⟨h.dashes, h'.dashes, fun x hx y _ hdashes => ?_⟩
    rw [hdashes.1] at hx
    exact h.last hx
  last hlast := by
    cases ds with
    | nil =>
        rw [List.append_nil] at hlast
        exact h.last hlast
    | cons d rest =>
        rw [List.getLast?_append_cons] at hlast
        exact h'.last hlast

/-- Pieces that leave plain characters outside of literals make a text that stays in its form. -/
theorem isContained {ps : List Piece} (h : Plain 0 0 (outsideOf ps)) :
    IsContained (writePieces ps) := by
  have habsent {c : Char} (hc : c ∈ ['\x27', '"', ';', '/']) : c ∉ outsideOf ps :=
    fun hmem => h.allowed c hmem hc
  refine ⟨outsideOf ps, outside?_writePieces (habsent (by decide)), ?_, ?_,
    habsent (by decide), habsent (by decide), ?_, ?_⟩
  · have hcount := count_of_depthAfter? h.depth
    omega
  · rintro front ⟨back, hsplit⟩
    have hdepth := h.depth
    rw [← hsplit, depthAfter?_append] at hdepth
    obtain ⟨d, hfront, -⟩ := Option.bind_eq_some_iff.mp hdepth
    have hcount := count_of_depthAfter? hfront
    omega
  · intro hfound
    have hchain := List.IsChain.infix h.dashes hfound
    simp at hchain
  · intro hfound
    exact habsent (c := '/') (by decide) (hfound.subset List.mem_cons_self)

end Plain

/-- Neither parentheses nor dashes nor those that plain characters are not. -/
def IsInert (cs : List Char) : Prop := Avoids ['(', ')', '-', '\x27', '"', ';', '/'] cs

instance (cs : List Char) : Decidable (IsInert cs) := inferInstanceAs (Decidable (Avoids _ cs))

section Inert

variable {cs ds : List Char}

theorem IsInert.append (h : IsInert cs) (h' : IsInert ds) : IsInert (cs ++ ds) :=
  List.forall_mem_append.mpr ⟨h, h'⟩

theorem IsInert.mono (h : IsInert cs) (hsubset : ds ⊆ cs) : IsInert ds :=
  fun c hc => h c (hsubset hc)

theorem IsInert.ne_dash (h : IsInert cs) {c : Char} (hc : c ∈ cs) : c ≠ '-' :=
  fun heq => h c hc (by simp [heq])

theorem IsInert.depthAfter? (h : IsInert cs) (a : Nat) : depthAfter? a cs = some a := by
  induction cs with
  | nil => rfl
  | cons c rest ih =>
      obtain ⟨hc, hrest⟩ := List.forall_mem_cons.mp h
      have hopen : c ≠ '(' := fun heq => hc (by simp [heq])
      have hclose : c ≠ ')' := fun heq => hc (by simp [heq])
      simp [Sql.depthAfter?, hopen, hclose, ih hrest]

theorem IsInert.plain (h : IsInert cs) (a : Nat) : Plain a a cs where
  depth := h.depthAfter? a
  allowed c hc hmem := h c hc (List.mem_cons_of_mem _ (List.mem_cons_of_mem _
    (List.mem_cons_of_mem _ hmem)))
  dashes := by
    apply List.Pairwise.isChain
    apply List.pairwise_of_forall_mem_list
    exact fun x hx y _ hdashes => h.ne_dash hx hdashes.1
  last hlast := h.ne_dash (List.mem_of_getLast? hlast) rfl

/-- A dash may stand in front of inert characters. -/
theorem plain_dash (h : IsInert cs) (hcs : cs ≠ []) (a : Nat) : Plain a a ('-' :: cs) := by
  have hplain := h.plain a
  cases cs with
  | nil => exact absurd rfl hcs
  | cons c rest =>
      refine ⟨hplain.depth, ?_, ?_, ?_⟩
      · exact List.forall_mem_cons.mpr ⟨by decide, hplain.allowed⟩
      · rw [List.isChain_cons_cons]
        exact ⟨fun hdashes => h.ne_dash List.mem_cons_self hdashes.2, hplain.dashes⟩
      · rw [List.getLast?_cons_cons]
        exact hplain.last

theorem isInert_toDigits (n : Nat) : IsInert (Nat.toDigits 10 n) := by
  intro c hc hmem
  have hdigit : c.isDigit = true := Nat.isDigit_of_mem_toDigits (by decide) (by decide) hc
  simp only [List.mem_cons, List.not_mem_nil, or_false] at hmem
  rcases hmem with rfl | rfl | rfl | rfl | rfl | rfl | rfl <;> cases hdigit

/-- A sign may stand in front of inert characters, if there are any. -/
theorem plain_signed (p : Prop) [Decidable p] (h : IsInert cs) (hcs : cs ≠ []) (a : Nat) :
    Plain a a ((if p then "-" else "").toList ++ cs) := by
  split
  · exact plain_dash h hcs a
  · exact h.plain a

theorem toList_toString_nat (n : Nat) : (toString n).toList = Nat.toDigits 10 n :=
  String.toList_ofList

theorem toList_toString_negSucc (n : Nat) :
    (toString (Int.negSucc n)).toList = '-' :: Nat.toDigits 10 (n + 1) := by
  have htext : toString (Int.negSucc n) = "-" ++ (n + 1).repr := rfl
  rw [htext, String.toList_append, Nat.toList_repr]
  rfl

theorem plain_toString_int (n : Int) (a : Nat) : Plain a a (toString n).toList := by
  cases n with
  | ofNat n =>
      have htext : (toString (Int.ofNat n)).toList = Nat.toDigits 10 n := toList_toString_nat n
      rw [htext]
      exact (isInert_toDigits n).plain a
  | negSucc n =>
      rw [toList_toString_negSucc]
      exact plain_dash (isInert_toDigits (n + 1)) Nat.toDigits_ne_nil a

theorem isInert_zeros (n : Nat) : IsInert (Notation.zeros n).toList := by
  intro c hc
  rw [Notation.zeros, String.toList_ofList] at hc
  rw [List.eq_of_mem_replicate hc]
  decide

theorem isInert_positional (h : IsInert cs) (exponent : Int) :
    IsInert (Notation.positional cs exponent).toList := by
  unfold Notation.positional
  split
  · simp only [String.toList_append, String.toList_ofList]
    exact (h.append (isInert_zeros _)).append (by decide)
  · dsimp only
    split
    · simp only [String.toList_append, String.toList_ofList]
      exact ((h.mono (List.take_subset _ _)).append (by decide)).append
        (h.mono (List.drop_subset _ _))
    · simp only [String.toList_append, String.toList_ofList]
      have hpoint : IsInert "0.".toList := by decide
      exact (hpoint.append (isInert_zeros _)).append h

theorem positional_ne_nil (cs : List Char) (exponent : Int) :
    (Notation.positional cs exponent).toList ≠ [] := by
  unfold Notation.positional
  split
  · simp
  · dsimp only
    split <;> simp

theorem plain_scientific (h : IsInert cs) (decade : Int) (p : Prop) [Decidable p] (a : Nat) :
    Plain a a ((if p then "-" else "").toList ++ (Notation.scientific "" cs decade).toList) := by
  have hpoint : IsInert (if (cs.drop 1).isEmpty then "" else ".").toList := by
    split <;> decide
  have hmantissa : IsInert (cs.take 1 ++ (if (cs.drop 1).isEmpty then "" else ".").toList ++
      cs.drop 1 ++ ['e']) :=
    (((h.mono (List.take_subset _ _)).append hpoint).append
      (h.mono (List.drop_subset _ _))).append (by decide)
  have hfront := plain_signed p hmantissa (by simp) a
  have hback := plain_signed (decade < 0) (isInert_toDigits decade.natAbs) Nat.toDigits_ne_nil a
  have htext : (Notation.scientific "" cs decade).toList =
      cs.take 1 ++ (if (cs.drop 1).isEmpty then "" else ".").toList ++ cs.drop 1 ++ ['e'] ++
        ((if decade < 0 then "-" else "").toList ++ Nat.toDigits 10 decade.natAbs) := by
    simp [Notation.scientific]
  rw [htext, ← List.append_assoc]
  exact hfront.append hback

/-- A number in query text is a sign and inert characters, and perhaps another sign and digits. -/
theorem plain_write (x : Binary64) (a : Nat) : Plain a a (Notation.plain.write x).toList := by
  unfold Notation.write
  split
  · have hname : IsInert "NaN".toList := by decide
    exact hname.plain a
  dsimp only
  split
  · rw [String.toList_append]
    exact plain_signed _ (by decide) (by decide) a
  split
  · rw [String.toList_append]
    exact plain_signed _ (by decide) (by decide) a
  have hdigits := isInert_toDigits (Binary64.shortest Notation.plain.tie x).coefficient
  split
  · rw [String.toList_append]
    exact plain_signed _ (isInert_positional hdigits _) (positional_ne_nil _ _) a
  · rw [String.toList_append]
    exact plain_scientific hdigits _ _ a

end Inert

end CatalogQuery.Sql
