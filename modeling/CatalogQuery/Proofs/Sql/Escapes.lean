/-
Patterns of `%` and `_` by the rules of their language, and those that are made of globs.  A
backslash takes the meaning from the character after it, and a pattern that ends with a backslash
of its own is refused by some stores.  The pattern of a glob puts a backslash in front of each
character that would mean more than itself and nowhere else, so that none is left alone and none
takes the meaning from what a wildcard was turned into.
-/
import CatalogQuery.Proofs.Sql.Patterns

namespace CatalogQuery.Sql

/-- A text is like a pattern of `%` and `_`. -/
inductive IsLike : List Char → List Char → Prop
  | nil : IsLike [] []
  | anyText {pattern text : List Char} (piece : List Char) :
    IsLike pattern text → IsLike ('%' :: pattern) (piece ++ text)
  | anyChar {pattern text : List Char} (c : Char) :
    IsLike pattern text → IsLike ('_' :: pattern) (c :: text)
  | escaped {pattern text : List Char} (c : Char) :
    IsLike pattern text → IsLike ('\\' :: c :: pattern) (c :: text)
  | char {pattern text : List Char} {c : Char} (h : c ∉ ['%', '_', '\\']) :
    IsLike pattern text → IsLike (c :: pattern) (c :: text)

/-- Each backslash of a pattern that is not itself escaped has a character to escape. -/
inductive IsEscaped : List Char → Prop
  | nil : IsEscaped []
  | escape {pattern : List Char} (c : Char) : IsEscaped pattern → IsEscaped ('\\' :: c :: pattern)
  | char {pattern : List Char} {c : Char} (h : c ≠ '\\') :
    IsEscaped pattern → IsEscaped (c :: pattern)

theorem IsLike.allMatch {pattern text : List Char} (h : IsLike pattern text) :
    WildcardPart.allMatch (likeParts pattern) text = true := by
  induction h with
  | nil => rfl
  | anyText piece _ ih => exact WildcardPart.allMatch_cons_iff.mpr ⟨piece, _, .inl rfl, rfl, ih⟩
  | anyChar c _ ih =>
      exact WildcardPart.allMatch_cons_iff.mpr ⟨[c], _, .inr ⟨c, rfl, rfl⟩, rfl, ih⟩
  | escaped c _ ih =>
      exact WildcardPart.allMatch_cons_iff.mpr
        ⟨[c], _, .inr ⟨c, rfl, beq_self_eq_true c⟩, rfl, ih⟩
  | @char _ _ c hc _ ih =>
      simp only [List.mem_cons, List.not_mem_nil, or_false, not_or] at hc
      rw [likeParts_cons_of_ne hc.1 hc.2.1 hc.2.2]
      exact WildcardPart.allMatch_cons_iff.mpr
        ⟨[c], _, .inr ⟨c, rfl, beq_self_eq_true c⟩, rfl, ih⟩

theorem WildcardPart.Covers.eq_singleton {c : Char} {piece : List Char}
    (h : (WildcardPart.char c).Covers piece) : piece = [c] := by
  obtain ⟨d, rfl, hd⟩ := h.resolve_left nofun
  rw [eq_of_beq (a := c) (b := d) hd]

/-- What the parts of a pattern match is like the pattern. -/
theorem isLike_of_allMatch {pattern text : List Char}
    (h : WildcardPart.allMatch (likeParts pattern) text = true) : IsLike pattern text := by
  fun_induction likeParts pattern generalizing text with
  | case1 =>
      obtain rfl := List.isEmpty_iff.mp h
      exact .nil
  | case2 rest ih =>
      obtain ⟨piece, text, -, rfl, hrest⟩ := WildcardPart.allMatch_cons_iff.mp h
      exact .anyText piece (ih hrest)
  | case3 rest ih =>
      obtain ⟨piece, text, hpiece, rfl, hrest⟩ := WildcardPart.allMatch_cons_iff.mp h
      obtain ⟨c, rfl, -⟩ := hpiece.resolve_left nofun
      exact .anyChar c (ih hrest)
  | case4 c rest ih =>
      obtain ⟨piece, text, hpiece, rfl, hrest⟩ := WildcardPart.allMatch_cons_iff.mp h
      obtain rfl := hpiece.eq_singleton
      exact .escaped c (ih hrest)
  | case5 =>
      obtain ⟨piece, text, hpiece, -⟩ := WildcardPart.allMatch_cons_iff.mp h
      obtain ⟨c, -, hc⟩ := hpiece.resolve_left nofun
      cases hc
  | case6 c rest hany hchar hescape halone ih =>
      obtain ⟨piece, text, hpiece, rfl, hrest⟩ := WildcardPart.allMatch_cons_iff.mp h
      obtain rfl := hpiece.eq_singleton
      refine .char ?_ (ih hrest)
      -- a backslash has the end of the pattern or another character behind it
      have hbackslash : c ≠ '\\' := by
        rintro rfl
        cases rest with
        | nil => exact halone rfl rfl
        | cons d rest => exact hescape d rest rfl rfl
      simp [hbackslash]
      exact ⟨hany, hchar⟩

/-- The stores' matching of patterns follows the rules of their language. -/
theorem likeMatches_iff_isLike {pattern text : String} :
    likeMatches pattern text = true ↔ IsLike pattern.toList text.toList :=
  ⟨isLike_of_allMatch, IsLike.allMatch⟩

/-- What is put in the place of a character of a glob is complete. -/
theorem isEscaped_likeOfGlob (glob : String) : IsEscaped (likeOfGlob glob).toList := by
  rw [likeOfGlob, String.toList_ofList]
  induction glob.toList with
  | nil => exact .nil
  | cons c rest ih =>
      rw [List.flatMap_cons]
      by_cases hstar : c = '*'
      · rw [if_pos hstar]
        exact .char (by decide) ih
      by_cases hmark : c = '?'
      · rw [if_neg hstar, if_pos hmark]
        exact .char (by decide) ih
      rw [if_neg hstar, if_neg hmark]
      by_cases hspecial : c = '%' ∨ c = '_' ∨ c = '\\'
      · rw [if_pos hspecial]
        exact .escape c ih
      · rw [if_neg hspecial]
        push Not at hspecial
        exact .char hspecial.2.2 ih

/-- The pattern that is made of a glob is well formed, and a name is like it by the rules of the
language just if it matches the glob; the stores that follow these rules match the same names. -/
theorem isLike_likeOfGlob_iff (glob name : String) :
    IsEscaped (likeOfGlob glob).toList ∧
      (IsLike (likeOfGlob glob).toList name.toList ↔ MatchesGlob glob name) ∧
      likeMatches (likeOfGlob glob) name = decide (MatchesGlob glob name) := by
  have hmatches : likeMatches (likeOfGlob glob) name = true ↔ MatchesGlob glob name :=
    likeMatches_likeOfGlob
  refine ⟨isEscaped_likeOfGlob glob, likeMatches_iff_isLike.symm.trans hmatches, ?_⟩
  rw [Bool.eq_iff_iff, hmatches, decide_eq_true_iff]

example : likeOfGlob "a?b%\\*" = "a_b\\%\\\\%" := by decide

end CatalogQuery.Sql
