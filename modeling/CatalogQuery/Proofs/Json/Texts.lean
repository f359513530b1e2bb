/-
Texts that are read back.  The compact text of every value is read, from whatever is open
around it, as the value itself; only a number that is not finite comes back as `null`, and an
integer of more than sixty-four bits as the floating point number nearest to it.
-/
import CatalogQuery.Proofs.Json.Numbers

namespace CatalogQuery.Json

def Number.raw : Number → Raw
  | .int n => .number (Numeral.reread n)
  | .float x => if x.isFinite then .number (some (.float x)) else .null

mutual

def raw : Json → Raw
  | .null => .null
  | .bool b => .bool b
  | .number n => n.raw
  | .string s => .string (some s)
  | .array items => .array (rawItems items)
  | .object members => .object (rawMembers members)

def rawItems : List Json → List Raw
  | [] => []
  | v :: rest => v.raw :: rawItems rest

def rawMembers : List (String × Json) → List (Option String × Raw)
  | [] => []
  | (k, v) :: rest => (some k, v.raw) :: rawMembers rest

end

namespace State

/-- The characters lead from one state of the reader to another. -/
def Reads (s : State) (cs : List Char) (t : State) : Prop := cs.foldlM step? s = some t

theorem Reads.nil (s : State) : Reads s [] s := rfl

theorem Reads.cons {s t u : State} {c : Char} {cs : List Char} (hstep : s.step? c = some t)
    (h : Reads t cs u) : Reads s (c :: cs) u := by
  simp only [Reads, List.foldlM_cons, hstep]
  exact h

theorem Reads.append {s t u : State} {cs ds : List Char} (h : Reads s cs t) (h' : Reads t ds u) :
    Reads s (cs ++ ds) u := by
  simp only [Reads, List.foldlM_append] at h h' ⊢
  rw [h]
  exact h'

theorem Reads.concat {s t u : State} {cs : List Char} {c : Char} (h : Reads s cs t)
    (hstep : t.step? c = some u) : Reads s (cs ++ [c]) u :=
  h.append (Reads.cons hstep (Reads.nil u))

/-- The state takes the first character of a value: it expects a value, or the first item of
an array, which might also end here. -/
def Expects (s : State) (open_ : List Frame) : Prop :=
  ∀ c, isBlank c = false → c ≠ ']' → s.step? c = begin? c open_

theorem expects_value (open_ : List Frame) : Expects (.value open_) open_ := by
  intro c hblank _
  simp [step?, between?, hblank]

theorem expects_firstItem (open_ : List Frame) :
    Expects (.firstItem open_) (.array [] :: open_) := by
  intro c hblank hc
  simp [step?, between?, hblank, hc]

/-- The value has been read to its last character.  A number may still go on, and is complete
only with the character after it. -/
inductive Past (v : Raw) (open_ : List Frame) : State → Prop
  | completed : Past v open_ (completed v open_)
  | numeral (phase : Phase) (n : Numeral) (hend : phase.mayEnd = true)
      (hvalue : .number n.number? = v) : Past v open_ (.numeral phase n open_)

theorem step?_completed (v : Raw) (open_ : List Frame) (c : Char) :
    (State.completed v open_).step? c = (State.completed v open_).between? c := by
  cases open_ with
  | nil => rfl
  | cons frame rest => cases frame <;> rfl

/-- A character that belongs to no number is taken as if the value were complete. -/
theorem step?_of_past {v : Raw} {open_ : List Frame} {s : State} (h : Past v open_ s) {c : Char}
    (hc : c = ',' ∨ c = ']' ∨ c = '\x7d') :
    s.step? c = (State.completed v open_).between? c := by
  cases h with
  | completed => exact step?_completed v open_ c
  | numeral phase n hend hvalue =>
    subst hvalue
    have hforeign : n.extend? phase c = none := by
      obtain rfl | rfl | rfl := hc <;> cases phase <;> rfl
    simp only [step?, hforeign, hend, if_true]

theorem finish?_of_past {v : Raw} {s : State} (h : Past v [] s) : s.finish? = some v := by
  cases h with
  | completed => rfl
  | numeral phase n hend hvalue =>
    subst hvalue
    exact if_pos hend

theorem hexValue?_hexDigit : ∀ d < 16, hexValue? (hexDigit d) = some d := by decide

/-- An escaped character is read as its code. -/
theorem reads_escape (c : Char) (codes : List Nat) (target : Target) :
    Reads (.string codes target) (Json.escape c).toList (.string (c.toNat :: codes) target) := by
  unfold Json.escape
  split_ifs with h1 h2 h3 h4 h5 h6 h7 hcontrol
  case pos => subst h1; rfl
  case pos => subst h2; rfl
  case pos => subst h3; rfl
  case pos => subst h4; rfl
  case pos => subst h5; rfl
  case pos => subst h6; rfl
  case pos => subst h7; rfl
  case pos =>
    have hhigh := hexValue?_hexDigit (c.toNat / 16) (by omega)
    have hlow := hexValue?_hexDigit (c.toNat % 16) (by omega)
    have hcode : c.toNat / 16 * 16 + c.toNat % 16 = c.toNat := by omega
    have h00 : Reads (.string codes target) ['\\', 'u', '0', '0'] (.hex 2 0 codes target) := rfl
    have hstep : (State.hex 2 0 codes target).step? (hexDigit (c.toNat / 16)) =
        some (.hex 1 (c.toNat / 16) codes target) := by
      simp [step?, hhigh]
    have hstep' : (State.hex 1 (c.toNat / 16) codes target).step? (hexDigit (c.toNat % 16)) =
        some (.string (c.toNat :: codes) target) := by
      simp [step?, hlow, hcode]
    rw [String.toList_ofList]
    exact h00.append (Reads.cons hstep (Reads.cons hstep' (Reads.nil _)))
  case neg =>
    have hstep : (State.string codes target).step? c =
        some (.string (c.toNat :: codes) target) := by
      simp [step?, h1, h2, hcontrol]
    rw [String.toList_singleton]
    exact Reads.cons hstep (Reads.nil _)

theorem reads_escapes (cs : List Char) (codes : List Nat) (target : Target) :
    Reads (.string codes target) (cs.flatMap fun c => (Json.escape c).toList)
      (.string ((cs.map Char.toNat).reverse ++ codes) target) := by
  induction cs generalizing codes with
  | nil => exact Reads.nil _
  | cons c cs ih =>
    have h := (reads_escape c codes target).append (ih (c.toNat :: codes))
    simpa using h

/-- Codes of characters stand alone and are joined to the same characters. -/
theorem ofCodes?_toNat (cs : List Char) : ofCodes? (cs.map Char.toNat) = some cs := by
  induction cs with
  | nil => rfl
  | cons c cs ih =>
    have hvalid : c.toNat < 0xD800 ∨ (0xDFFF < c.toNat ∧ c.toNat < 0x110000) := c.valid
    have halone : ¬(0xD800 ≤ c.toNat ∧ c.toNat < 0xE000) := by omega
    have hhigh : ¬(0xD800 ≤ c.toNat ∧ c.toNat < 0xDC00) := by omega
    have hlow : ¬(0xDC00 ≤ c.toNat ∧ c.toNat < 0xE000) := by omega
    cases cs with
    | nil => simp [ofCodes?, halone, Char.ofNat_toNat]
    | cons d cs =>
      rw [List.map_cons] at ih
      simp only [List.map_cons, ofCodes?, hhigh, hlow, if_false, ih, Option.map_some,
        Char.ofNat_toNat]

/-- A string is read to its closing quote. -/
theorem reads_quote {s : State} {target : Target}
    (hopen : s.step? '"' = some (.string [] target)) (text : String) :
    Reads s (quote text).toList (closed (text.toList.map Char.toNat).reverse target) := by
  have htext : (quote text).toList =
      '"' :: (text.toList.flatMap fun c => (Json.escape c).toList) ++ ['"'] := by
    simp [quote, String.toList_join, List.flatMap_map]
  rw [htext]
  refine (Reads.cons hopen (reads_escapes text.toList [] target)).concat ?_
  rw [List.append_nil]
  rfl

theorem reads_string {s : State} {open_ : List Frame} (hs : Expects s open_) (text : String) :
    Reads s (quote text).toList (completed (.string (some text)) open_) := by
  have h := reads_quote ((hs '"' rfl (by decide)).trans rfl) text
  simpa [closed, ofCodes?_toNat] using h

theorem reads_key {s : State} {members : List (Option String × Raw)} {open_ : List Frame}
    (hs : s.step? '"' = some (.string [] (.key members open_))) (key : String) :
    Reads s (quote key ++ ":").toList (.value (.object members (some key) :: open_)) := by
  have h := reads_quote hs key
  have hclosed : closed (key.toList.map Char.toNat).reverse (.key members open_) =
      .colon members (some key) open_ := by
    simp [closed, ofCodes?_toNat]
  rw [hclosed] at h
  rw [String.toList_append]
  exact h.concat rfl

theorem reads_numeral {p q : Phase} {n m : Numeral} {cs : List Char} (open_ : List Frame)
    (h : Numeral.Grows (p, n) cs (q, m)) :
    Reads (.numeral p n open_) cs (.numeral q m open_) := by
  induction cs generalizing p n with
  | nil =>
    cases h
    exact Reads.nil _
  | cons c cs ih =>
    simp only [Numeral.Grows, List.foldlM_cons] at h
    obtain ⟨⟨p', n'⟩, hstep, hrest⟩ := Option.bind_eq_some_iff.1 h
    refine Reads.cons ?_ (ih hrest)
    simp only [step?, hstep]

/-- A digit where a value is expected begins a number. -/
theorem step?_of_extend? {s : State} {open_ : List Frame} (hs : Expects s open_) {c : Char}
    {t : Phase × Numeral} (h : (Numeral.start false).extend? .sign c = some t) :
    s.step? c = some (.numeral t.1 t.2 open_) := by
  have hne (d : Char) (hd : (Numeral.start false).extend? .sign d = none) : c ≠ d := by
    rintro rfl
    rw [hd] at h
    cases h
  have hblank : isBlank c = false := by
    simp [isBlank, hne ' ' rfl, hne '\n' rfl, hne '\t' rfl, hne '\r' rfl]
  rw [hs c hblank (hne ']' rfl)]
  simp [begin?, h, hne '\x7b' rfl, hne '[' rfl, hne '"' rfl, hne 't' rfl, hne 'f' rfl,
    hne 'n' rfl, hne '-' rfl]

/-- A sign and a text that is read as a number after it. -/
theorem exists_reads_of_spells {s : State} {open_ : List Frame} (hs : Expects s open_)
    {negative : Bool} {cs : List Char} {v : Option Number} (h : Numeral.Spells negative cs v) :
    ∃ t, Reads s ((if negative then ['-'] else []) ++ cs) t ∧ Past (.number v) open_ t := by
  obtain ⟨phase, n, hgrows, hend, rfl⟩ := h
  refine ⟨.numeral phase n open_, ?_, .numeral phase n hend rfl⟩
  cases negative with
  | true => exact Reads.cons ((hs '-' rfl (by decide)).trans rfl) (reads_numeral open_ hgrows)
  | false =>
    cases cs with
    | nil =>
      cases hgrows
      cases hend
    | cons c cs =>
      simp only [Numeral.Grows, List.foldlM_cons] at hgrows
      obtain ⟨t, hstep, hrest⟩ := Option.bind_eq_some_iff.1 hgrows
      exact Reads.cons (step?_of_extend? hs hstep) (reads_numeral open_ hrest)

theorem exists_reads_number {s : State} {open_ : List Frame} (hs : Expects s open_) (n : Number) :
    ∃ t, Reads s n.write.toList t ∧ Past n.raw open_ t := by
  cases n with
  | int n =>
    have h := exists_reads_of_spells hs (Numeral.spells_natAbs n)
    rwa [← Numeral.toList_toString_int] at h
  | float x =>
    by_cases hfinite : x.isFinite = true
    · obtain ⟨cs, htext, hspells⟩ := Numeral.exists_spells_float hfinite
      have h := exists_reads_of_spells hs hspells
      rw [← htext] at h
      simpa only [Number.write, Number.raw, if_pos hfinite] using h
    · simp only [Number.write, Number.raw, if_neg hfinite]
      exact ⟨_, Reads.cons ((hs 'n' rfl (by decide)).trans rfl) rfl, .completed⟩

mutual

/-- The text of a value is read to its last character as the value. -/
theorem exists_reads_write {s : State} {open_ : List Frame} (hs : Expects s open_) (v : Json) :
    ∃ t, Reads s v.write.toList t ∧ Past v.raw open_ t := by
  match v with
  | .null => exact ⟨_, Reads.cons ((hs 'n' rfl (by decide)).trans rfl) rfl, .completed⟩
  | .bool true => exact ⟨_, Reads.cons ((hs 't' rfl (by decide)).trans rfl) rfl, .completed⟩
  | .bool false => exact ⟨_, Reads.cons ((hs 'f' rfl (by decide)).trans rfl) rfl, .completed⟩
  | .number n => exact exists_reads_number hs n
  | .string s => exact ⟨_, reads_string hs s, .completed⟩
  | .array [] => exact ⟨_, Reads.cons ((hs '[' rfl (by decide)).trans rfl) rfl, .completed⟩
  | .array (v :: rest) =>
    refine ⟨_, ?_, .completed⟩
    have hitems := reads_writeItems (expects_firstItem open_) (v :: rest) (by simp)
    have h := Reads.cons ((hs '[' rfl (by decide)).trans rfl) hitems
    simpa [Json.write, raw] using h
  | .object [] => exact ⟨_, Reads.cons ((hs '\x7b' rfl (by decide)).trans rfl) rfl, .completed⟩
  | .object (m :: rest) =>
    refine ⟨_, ?_, .completed⟩
    have hmembers := reads_writeMembers (s := .firstKey open_) rfl (m :: rest) (by simp)
    have h := Reads.cons ((hs '\x7b' rfl (by decide)).trans rfl) hmembers
    simpa [Json.write, raw] using h

/-- Items are read one after the other, and the bracket after the last one closes the array. -/
theorem reads_writeItems {s : State} {done : List Raw} {open_ : List Frame}
    (hs : Expects s (.array done :: open_)) (items : List Json) (hne : items ≠ []) :
    Reads s ((Json.writeItems items).toList ++ [']'])
      (completed (.array (done.reverse ++ rawItems items)) open_) := by
  match items with
  | [] => exact absurd rfl hne
  | [v] =>
    obtain ⟨t, hreads, hpast⟩ := exists_reads_write hs v
    refine hreads.concat ?_
    rw [step?_of_past hpast (.inr (.inl rfl))]
    simp [rawItems, completed, between?, isBlank]
  | v :: w :: rest =>
    obtain ⟨t, hreads, hpast⟩ := exists_reads_write hs v
    have hcomma : t.step? ',' = some (.value (.array (v.raw :: done) :: open_)) := by
      rw [step?_of_past hpast (.inl rfl)]
      rfl
    have hrest := reads_writeItems (expects_value (.array (v.raw :: done) :: open_)) (w :: rest)
      (by simp)
    simpa [Json.writeItems, rawItems] using hreads.append (Reads.cons hcomma hrest)

/-- Members are read one after the other, and the brace after the last one closes the
object. -/
theorem reads_writeMembers {s : State} {done : List (Option String × Raw)} {open_ : List Frame}
    (hs : s.step? '"' = some (.string [] (.key done open_)))
    (members : List (String × Json)) (hne : members ≠ []) :
    Reads s ((Json.writeMembers members).toList ++ ['\x7d'])
      (completed (.object (done.reverse ++ rawMembers members)) open_) := by
  match members with
  | [] => exact absurd rfl hne
  | [(k, v)] =>
    obtain ⟨t, hreads, hpast⟩ :=
      exists_reads_write (expects_value (.object done (some k) :: open_)) v
    have hend : t.step? '\x7d' =
        some (completed (.object (done.reverse ++ rawMembers [(k, v)])) open_) := by
      rw [step?_of_past hpast (.inr (.inr rfl))]
      simp [rawMembers, completed, between?, isBlank]
    have h := (reads_key hs k).append (hreads.concat hend)
    simpa [Json.writeMembers] using h
  | (k, v) :: m :: rest =>
    obtain ⟨t, hreads, hpast⟩ :=
      exists_reads_write (expects_value (.object done (some k) :: open_)) v
    have hcomma : t.step? ',' = some (.key ((some k, v.raw) :: done) open_) := by
      rw [step?_of_past hpast (.inl rfl)]
      rfl
    have hrest := reads_writeMembers (s := .key ((some k, v.raw) :: done) open_) rfl (m :: rest)
      (by simp)
    have h := (reads_key hs k).append (hreads.append (Reads.cons hcomma hrest))
    simpa [Json.writeMembers, rawMembers] using h

end

end State

/-- The text of every value is read as that value. -/
theorem read?_write (v : Json) : Raw.read? v.write = some v.raw := by
  obtain ⟨t, hreads, hpast⟩ := State.exists_reads_write (State.expects_value []) v
  rw [Raw.read?, show v.write.toList.foldlM State.step? (.value []) = some t from hreads]
  exact State.finish?_of_past hpast

end CatalogQuery.Json
