/-
The integers that a reader finds in a query's text.  Digits are an integer unless they belong to
a word, to a number with a point or an exponent, or to a literal; a minus sign right before them
belongs to them.  What is found in the text of a query are the integers of its tree, from left to
right and without others, as every number in it stands between characters that belong to none.
-/
import CatalogQuery.Proofs.Sql.Outside

namespace CatalogQuery.Sql

/-- Where a reader is in a text who looks for integers. -/
inductive Reading
  /-- Between words and numbers, right after a minus sign or not. -/
  | gap (negative : Bool)
  | word
  /-- In an integer, of which these digits have been read. -/
  | integer (negative : Bool) (n : Nat)
  /-- In a number with a point or an exponent, right after the letter of the exponent or not. -/
  | real (exponent : Bool)
  | literal
deriving DecidableEq

namespace Reading

def isInWord (c : Char) : Bool := c.isAlphanum || c = '_' || c = '.'

/-- Where a character leads that belongs to nothing before it, but for a sign. -/
def start (negative : Bool) (c : Char) : Reading :=
  if c = '\x27' then .literal
  else if c.isDigit then .integer negative (c.toNat - '0'.toNat)
  else if c = '.' then .real false
  else if isInWord c then .word
  else .gap (c = '-')

/-- Where a character leads. -/
def next : Reading → Char → Reading
  | .gap negative, c => start negative c
  | .word, c => if isInWord c then .word else start false c
  | .integer negative n, c =>
    if c.isDigit then .integer negative (10 * n + (c.toNat - '0'.toNat))
    else if c = '.' then .real false
    else if c = 'e' ∨ c = 'E' then .real true
    else start false c
  | .real exponent, c =>
    if c.isDigit then .real false
    else if c = 'e' ∨ c = 'E' then .real true
    else if exponent ∧ (c = '-' ∨ c = '+') then .real false
    else start false c
  | .literal, c => if c = '\x27' then .gap false else .literal

def isNumber : Reading → Bool
  | .integer _ _ | .real _ => true
  | .gap _ | .word | .literal => false

/-- The integer that ends here, if one does. -/
def found : Reading → List Int
  | .integer negative n => [if negative then -n else n]
  | .gap _ | .word | .real _ | .literal => []

/-- The integers that end among some characters, and where these lead. -/
def run (r : Reading) : List Char → List Int × Reading
  | [] => ([], r)
  | c :: cs =>
    let (more, last) := (r.next c).run cs
    ((if (r.next c).isNumber then [] else r.found) ++ more, last)

end Reading

/-- The integers that stand in a text outside of its literals, with their signs. -/
def integerLiterals (text : String) : List Int :=
  let (ended, last) := (Reading.gap false).run text.toList
  ended ++ last.found

example : integerLiterals "select u12.id, 1 from t where x > -5 and y < 2.5e-7 and z = 'it''s 3'" =
    [1, -5] := by
  decide

section Runs

variable {cs ds : List Char} {is js : List Int} {r : Reading}

theorem run_cons (r : Reading) (c : Char) (cs : List Char) :
    r.run (c :: cs) = ((if (r.next c).isNumber then [] else r.found) ++ ((r.next c).run cs).1,
      ((r.next c).run cs).2) := rfl

theorem run_append (r : Reading) (cs ds : List Char) :
    r.run (cs ++ ds) = ((r.run cs).1 ++ ((r.run cs).2.run ds).1, ((r.run cs).2.run ds).2) := by
  induction cs generalizing r with
  | nil => rfl
  | cons c rest ih => rw [List.cons_append, run_cons, ih, run_cons, List.append_assoc]

/-- The characters are a row of their own with these integers, behind which a new one begins. -/
def Closes (cs : List Char) (is : List Int) : Prop :=
  (Reading.gap false).run cs = (is, .gap false)

instance (cs : List Char) (is : List Int) : Decidable (Closes cs is) :=
  inferInstanceAs (Decidable (_ = _))

/-- The characters have these integers if something else follows. -/
def Reads (cs : List Char) (is : List Int) : Prop :=
  ∃ ended last, (Reading.gap false).run cs = (ended, last) ∧ last ≠ .literal ∧
    is = ended ++ last.found

instance (cs : List Char) (is : List Int) : Decidable (Reads cs is) :=
  decidable_of_iff (((Reading.gap false).run cs).2 ≠ .literal ∧
      is = ((Reading.gap false).run cs).1 ++ ((Reading.gap false).run cs).2.found)
    ⟨fun ⟨hlast, his⟩ => ⟨_, _, rfl, hlast, his⟩,
      fun ⟨_, _, hrun, hlast, his⟩ => by rw [hrun]; exact ⟨hlast, his⟩⟩

/-- The character belongs to no word, number or literal. -/
def IsSeparator (c : Char) : Prop := c = ' ' ∨ c = '(' ∨ c = ')' ∨ c = ','

instance (c : Char) : Decidable (IsSeparator c) := inferInstanceAs (Decidable (_ ∨ _))

/-- The characters, if there are any, begin with a separator. -/
def IsApart : List Char → Prop
  | [] => True
  | c :: _ => IsSeparator c

instance : ∀ cs, Decidable (IsApart cs)
  | [] => inferInstanceAs (Decidable True)
  | c :: _ => inferInstanceAs (Decidable (IsSeparator c))

theorem IsApart.append (h : IsApart cs) (hcs : cs ≠ []) (ds : List Char) : IsApart (cs ++ ds) := by
  cases cs with
  | nil => exact absurd rfl hcs
  | cons c rest => exact h

/-- A separator ends whatever there is but a literal. -/
theorem next_of_isSeparator {c : Char} (h : IsSeparator c) (hr : r ≠ .literal) :
    r.next c = .gap false := by
  rcases h with rfl | rfl | rfl | rfl <;> cases r with
  | literal => exact absurd rfl hr
  | real exponent => cases exponent <;> rfl
  | gap negative => rfl
  | word => rfl
  | integer negative n => rfl

theorem run_of_isApart (h : IsApart ds) (hds : ds ≠ []) (hr : r ≠ .literal) :
    r.run ds = (r.found ++ ((Reading.gap false).run ds).1, ((Reading.gap false).run ds).2) := by
  cases ds with
  | nil => exact absurd rfl hds
  | cons d rest =>
      have hd : IsSeparator d := h
      have hgap : (Reading.gap false).next d = .gap false := next_of_isSeparator hd (by decide)
      rw [run_cons, run_cons, next_of_isSeparator hd hr, hgap]
      rfl

theorem Closes.reads (h : Closes cs is) : Reads cs is :=
  ⟨is, .gap false, h, nofun, (List.append_nil is).symm⟩

theorem Closes.reads_append (h : Closes cs is) (h' : Reads ds js) :
    Reads (cs ++ ds) (is ++ js) := by
  obtain ⟨ended, last, hrun, hlast, rfl⟩ := h'
  refine ⟨is ++ ended, last, ?_, hlast, (List.append_assoc _ _ _).symm⟩
  rw [run_append, h, hrun]

theorem Reads.append (h : Reads cs is) (h' : Reads ds js) (hapart : IsApart ds) :
    Reads (cs ++ ds) (is ++ js) := by
  obtain ⟨ended, r, hcs, hr, rfl⟩ := h
  obtain ⟨more, last, hds, hlast, rfl⟩ := h'
  by_cases hempty : ds = []
  · subst hempty
    cases hds
    exact ⟨ended, r, by rw [List.append_nil, hcs], hr, by simp [Reading.found]⟩
  · refine ⟨ended ++ (r.found ++ more), last, ?_, hlast, by simp⟩
    rw [run_append, hcs, run_of_isApart hapart hempty hr, hds]

theorem Reads.closes (h : Reads cs is) (h' : Closes ds js) (hapart : IsApart ds) (hds : ds ≠ []) :
    Closes (cs ++ ds) (is ++ js) := by
  obtain ⟨ended, r, hcs, hr, rfl⟩ := h
  rw [Closes, run_append, hcs, run_of_isApart hapart hds hr, h', List.append_assoc]

theorem integerLiterals_of_reads {text : String} (h : Reads text.toList is) :
    integerLiterals text = is := by
  obtain ⟨ended, last, hrun, -, rfl⟩ := h
  rw [integerLiterals, hrun]

theorem run_doubled (text ds : List Char) :
    Reading.literal.run
        ((text.flatMap fun c => if c = '\x27' then ['\x27', '\x27'] else [c]) ++ ds) =
      Reading.literal.run ds := by
  induction text with
  | nil => rfl
  | cons c rest ih =>
      rw [List.flatMap_cons, List.append_assoc]
      by_cases hc : c = '\x27'
      · rw [if_pos hc]
        exact ih
      · have hnext : Reading.literal.next c = .literal := if_neg hc
        rw [if_neg hc, List.singleton_append, run_cons, hnext, ih]
        rfl

/-- Nothing is found in a text that is written as a literal, whatever is in it. -/
theorem closes_quoteText (s : String) : Closes (quoteText s).toList [] := by
  have htext : (quoteText s).toList = '\x27' ::
      ((s.toList.flatMap fun c => if c = '\x27' then ['\x27', '\x27'] else [c]) ++
        ['\x27']) := by
    simp [quoteText, doubled]
  have hopen : (Reading.gap false).next '\x27' = .literal := rfl
  rw [htext, Closes, run_cons, hopen, run_doubled]
  rfl

def IsWord (cs : List Char) : Prop := (Reading.gap false).run cs = ([], .word)

/-- The characters go on with a word. -/
def GoesOn (cs : List Char) : Prop := Reading.word.run cs = ([], .word)

instance (cs : List Char) : Decidable (IsWord cs) := inferInstanceAs (Decidable (_ = _))

instance (cs : List Char) : Decidable (GoesOn cs) := inferInstanceAs (Decidable (_ = _))

theorem IsWord.append (h : IsWord cs) (h' : GoesOn ds) : IsWord (cs ++ ds) := by
  rw [IsWord, run_append, h, h']
  rfl

theorem GoesOn.append (h : GoesOn cs) (h' : GoesOn ds) : GoesOn (cs ++ ds) := by
  rw [GoesOn, run_append, h, h']
  rfl

theorem IsWord.reads (h : IsWord cs) : Reads cs [] := ⟨[], .word, h, nofun, rfl⟩

def AreDigits (cs : List Char) : Prop := ∀ c ∈ cs, c.isDigit = true

theorem AreDigits.goesOn (h : AreDigits cs) : GoesOn cs := by
  induction cs with
  | nil => rfl
  | cons c rest ih =>
      obtain ⟨hc, hrest⟩ := List.forall_mem_cons.mp h
      have hnext : Reading.word.next c = .word :=
        if_pos (by simp [Reading.isInWord, Char.isAlphanum, hc])
      rw [GoesOn, run_cons, hnext, ih hrest]
      rfl

theorem run_integer (h : AreDigits cs) (negative : Bool) (n : Nat) :
    (Reading.integer negative n).run cs =
      ([], .integer negative (Nat.ofDigitChars 10 cs n)) := by
  induction cs generalizing n with
  | nil => rfl
  | cons c rest ih =>
      obtain ⟨hc, hrest⟩ := List.forall_mem_cons.mp h
      have hnext : (Reading.integer negative n).next c =
          .integer negative (10 * n + (c.toNat - '0'.toNat)) := if_pos hc
      rw [run_cons, hnext, ih hrest, Nat.ofDigitChars_cons]
      rfl

theorem ne_quote_of_isDigit {c : Char} (h : c.isDigit = true) : c ≠ '\x27' := by
  rintro rfl
  cases h

/-- Digits are the integer that they are the digits of. -/
theorem run_digits (h : AreDigits cs) (hcs : cs ≠ []) (negative : Bool) :
    (Reading.gap negative).run cs = ([], .integer negative (Nat.ofDigitChars 10 cs 0)) := by
  cases cs with
  | nil => exact absurd rfl hcs
  | cons c rest =>
      obtain ⟨hc, hrest⟩ := List.forall_mem_cons.mp h
      have hnext : (Reading.gap negative).next c = .integer negative (c.toNat - '0'.toNat) := by
        rw [Reading.next, Reading.start, if_neg (ne_quote_of_isDigit hc), if_pos hc]
      rw [run_cons, hnext, run_integer hrest, Nat.ofDigitChars_cons, Nat.mul_zero, Nat.zero_add]
      rfl

theorem areDigits_toDigits (n : Nat) : AreDigits (Nat.toDigits 10 n) :=
  fun _ => Nat.isDigit_of_mem_toDigits (by decide) (by decide)

theorem reads_toString_int (n : Int) : Reads (toString n).toList [n] := by
  cases n with
  | ofNat n =>
      have htext : (toString (Int.ofNat n)).toList = Nat.toDigits 10 n := toList_toString_nat n
      have hrun := run_digits (areDigits_toDigits n) Nat.toDigits_ne_nil false
      rw [Nat.ofDigitChars_ten_toDigits] at hrun
      rw [htext]
      exact ⟨[], _, hrun, nofun, rfl⟩
  | negSucc n =>
      have hsign : (Reading.gap false).next '-' = .gap true := rfl
      have hrun := run_digits (areDigits_toDigits (n + 1)) Nat.toDigits_ne_nil true
      rw [Nat.ofDigitChars_ten_toDigits] at hrun
      refine ⟨[], .integer true (n + 1), ?_, nofun, rfl⟩
      rw [toList_toString_negSucc, run_cons, hsign, hrun]
      rfl

theorem run_real (h : AreDigits cs) (exponent : Bool) :
    ∃ last, (Reading.real exponent).run cs = ([], .real last) := by
  induction cs generalizing exponent with
  | nil => exact ⟨exponent, rfl⟩
  | cons c rest ih =>
      obtain ⟨hc, hrest⟩ := List.forall_mem_cons.mp h
      have hnext : (Reading.real exponent).next c = .real false := if_pos hc
      obtain ⟨last, hlast⟩ := ih hrest false
      refine ⟨last, ?_⟩
      rw [run_cons, hnext, hlast]
      rfl

/-- Digits with a point among them are no integer. -/
theorem run_point (h : AreDigits cs) (hcs : cs ≠ []) (h' : AreDigits ds) (negative : Bool) :
    ∃ last, (Reading.gap negative).run (cs ++ '.' :: ds) = ([], .real last) := by
  obtain ⟨last, hlast⟩ := run_real h' false
  have hpoint (n : Nat) : (Reading.integer negative n).next '.' = .real false := rfl
  refine ⟨last, ?_⟩
  rw [run_append, run_digits h hcs, run_cons, hpoint, hlast]
  rfl

theorem areDigits_zeros (n : Nat) : AreDigits (Notation.zeros n).toList := by
  intro c hc
  rw [Notation.zeros, String.toList_ofList] at hc
  rw [List.eq_of_mem_replicate hc]
  rfl

theorem run_positional (h : AreDigits cs) (hcs : cs ≠ []) (exponent : Int) (negative : Bool) :
    ∃ last, (Reading.gap negative).run (Notation.positional cs exponent).toList =
      ([], .real last) := by
  unfold Notation.positional
  split
  · rename_i e
    have hwhole : AreDigits (cs ++ (Notation.zeros e).toList) :=
      List.forall_mem_append.mpr ⟨h, areDigits_zeros e⟩
    have hzero : AreDigits ['0'] := by simp [AreDigits]
    simp only [String.toList_append, String.toList_ofList]
    exact run_point hwhole (by simp [hcs]) hzero negative
  · dsimp only
    split
    · rename_i e hlt
      have hwhole : cs.take (cs.length - (e + 1)) ≠ [] := by
        simp only [ne_eq, List.take_eq_nil_iff, hcs, or_false]
        omega
      simp only [String.toList_append, String.toList_ofList, List.append_assoc]
      exact run_point (fun c hc => h c (List.take_subset _ _ hc)) hwhole
        (fun c hc => h c (List.drop_subset _ _ hc)) negative
    · rename_i e hlt
      have hfraction : AreDigits ((Notation.zeros (e + 1 - cs.length)).toList ++ cs) :=
        List.forall_mem_append.mpr ⟨areDigits_zeros _, h⟩
      have hzero : AreDigits ['0'] := by simp [AreDigits]
      simp only [String.toList_append, String.toList_ofList, List.append_assoc]
      exact run_point hzero (by simp) hfraction negative

/-- An exponent belongs to the number before it. -/
theorem run_exponent {r : Reading} (hr : r.next 'e' = .real true) (h : AreDigits cs) (p : Prop)
    [Decidable p] :
    ∃ last, r.run ('e' :: ((if p then "-" else "").toList ++ cs)) = ([], .real last) := by
  split
  · obtain ⟨last, hlast⟩ := run_real h false
    have hsign : (Reading.real true).next '-' = .real false := rfl
    refine ⟨last, ?_⟩
    rw [run_cons, hr, show "-".toList ++ cs = '-' :: cs from rfl, run_cons, hsign, hlast]
    rfl
  · obtain ⟨last, hlast⟩ := run_real h true
    refine ⟨last, ?_⟩
    rw [run_cons, hr, show "".toList ++ cs = cs from rfl, hlast]
    rfl

theorem run_scientific (h : AreDigits cs) (hcs : cs ≠ []) (decade : Int) (negative : Bool) :
    ∃ last, (Reading.gap negative).run (Notation.scientific "" cs decade).toList =
      ([], .real last) := by
  cases cs with
  | nil => exact absurd rfl hcs
  | cons c rest =>
      obtain ⟨hc, hrest⟩ := List.forall_mem_cons.mp h
      have hfirst : AreDigits [c] := List.forall_mem_singleton.mpr hc
      have hdecade := areDigits_toDigits decade.natAbs
      by_cases hempty : rest = []
      · subst hempty
        have htext : (Notation.scientific "" [c] decade).toList =
            [c] ++ 'e' :: ((if decade < 0 then "-" else "").toList ++
              Nat.toDigits 10 decade.natAbs) := by
          simp [Notation.scientific]
        have hletter (n : Nat) : (Reading.integer negative n).next 'e' = .real true := rfl
        obtain ⟨last, hlast⟩ := run_exponent (hletter _) hdecade (decade < 0)
        refine ⟨last, ?_⟩
        rw [htext, run_append, run_digits hfirst (by simp), hlast]
        rfl
      · have htext : (Notation.scientific "" (c :: rest) decade).toList =
            ([c] ++ '.' :: rest) ++ 'e' :: ((if decade < 0 then "-" else "").toList ++
              Nat.toDigits 10 decade.natAbs) := by
          simp [Notation.scientific, hempty]
        obtain ⟨point, hpoint⟩ := run_point hfirst (by simp) hrest negative
        have hletter : (Reading.real point).next 'e' = .real true := rfl
        obtain ⟨last, hlast⟩ := run_exponent hletter hdecade (decade < 0)
        refine ⟨last, ?_⟩
        rw [htext, run_append, hpoint, hlast]
        rfl

/-- A sign in front of a number with a point or an exponent. -/
theorem reads_signed (p : Prop) [Decidable p]
    (h : ∀ negative, ∃ last, (Reading.gap negative).run cs = ([], .real last)) :
    Reads ((if p then "-" else "").toList ++ cs) [] := by
  split
  · obtain ⟨last, hlast⟩ := h true
    have hsign : (Reading.gap false).next '-' = .gap true := rfl
    refine ⟨[], .real last, ?_, nofun, rfl⟩
    rw [show "-".toList ++ cs = '-' :: cs from rfl, run_cons, hsign, hlast]
    rfl
  · obtain ⟨last, hlast⟩ := h false
    exact ⟨[], .real last, hlast, nofun, rfl⟩

/-- No integer is found in a number with a point or an exponent. -/
theorem reads_write (x : Binary64) : Reads (Notation.plain.write x).toList [] := by
  unfold Notation.write
  split
  · decide
  dsimp only
  split
  · rw [String.toList_append]
    split <;> decide
  split
  · rw [String.toList_append]
    exact reads_signed _ fun negative => ⟨false, by cases negative <;> rfl⟩
  have hdigits := areDigits_toDigits (Binary64.shortest Notation.plain.tie x).coefficient
  split
  · rw [String.toList_append]
    exact reads_signed _ fun negative => run_positional hdigits Nat.toDigits_ne_nil _ negative
  · rw [String.toList_append]
    exact reads_signed _ fun negative => run_scientific hdigits Nat.toDigits_ne_nil _ negative

end Runs

end CatalogQuery.Sql
