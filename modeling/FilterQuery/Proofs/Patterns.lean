import Mathlib.Data.List.Infix
import Mathlib.Data.List.TakeWhile
import Mathlib.Tactic.Common
import FilterQuery.Sql.Database

/-!
# What patterns match

When a pattern of the statement language matches a text, and that a text that stands in a pattern as
a literal matches itself and nothing else.

**Folding.**  Letters of ASCII match in either case, so it makes no difference to a match whether
pattern and text are put in lower case first: `isMatch_map_foldAscii`.  None of the marks of a pattern
is a letter, and folding neither makes one nor removes one.

**Pieces.**  `accepts_many_iff` and `accepts_only_append_iff` say what a wildcard and a run of literal
characters match, as a cut of the text in two.

**Literals.**  `pieces?_escaped_append`: whatever stands around it, an escaped text has exactly its own
characters for pieces.  Between two wildcards it matches the texts that contain it, as far as both are
seen: `isMatch_containsPattern_iff`.
-/

namespace FilterQuery

/-! ## Folding -/

namespace Text

lemma toNat_foldAscii (c : Char) :
    (foldAscii c).toNat = if 65 ≤ c.toNat ∧ c.toNat ≤ 90 then c.toNat + 32 else c.toNat := by
  have hcapital : ('A' ≤ c && c ≤ 'Z') = true ↔ 65 ≤ c.toNat ∧ c.toNat ≤ 90 := by
    rw [Bool.and_eq_true, decide_eq_true_eq, decide_eq_true_eq]
    exact Iff.rfl
  rw [foldAscii]
  by_cases h : 65 ≤ c.toNat ∧ c.toNat ≤ 90
  · have hvalid : (c.toNat + 32).isValidChar := Or.inl (by omega)
    rw [if_pos (hcapital.mpr h), if_pos h, Char.ofNat, dif_pos hvalid]
    rfl
  · rw [if_neg (mt hcapital.mp h), if_neg h]

/-- Folding a second time changes nothing. -/
@[simp]
lemma foldAscii_foldAscii (c : Char) : foldAscii (foldAscii c) = foldAscii c := by
  apply Char.toNat_inj.mp
  rw [toNat_foldAscii, toNat_foldAscii]
  split_ifs <;> omega

/-- What is before the letters is left alone, and nothing else becomes it. -/
lemma foldAscii_eq_iff {mark : Char} (hmark : mark.toNat < 65 ∨ mark.toNat = 95) (c : Char) :
    foldAscii c = mark ↔ c = mark := by
  rw [← Char.toNat_inj, ← Char.toNat_inj, toNat_foldAscii]
  split_ifs <;> omega

lemma toList_lowerAscii (text : String) :
    (lowerAscii text).toList = text.toList.map foldAscii :=
  String.toList_map

end Text

namespace Sql.Like

open Text (foldAscii)

/-- A piece with its character folded. -/
def Piece.fold : Piece → Piece
  | .only c => .only (foldAscii c)
  | piece => piece

/-- A character that is no mark of a pattern stands for itself. -/
lemma pieces?_cons_of_plain {c : Char} (hescape : c ≠ '/') (hmany : c ≠ '%') (hone : c ≠ '_')
    (rest : List Char) : pieces? (c :: rest) = (pieces? rest).map (Piece.only c :: ·) :=
  pieces?.eq_6 c rest (fun _ _ h _ => hescape h) (fun h _ => hescape h) hmany hone

/-- Folding a pattern folds its pieces. -/
lemma pieces?_map_foldAscii (pattern : List Char) :
    pieces? (pattern.map foldAscii) = (pieces? pattern).map (·.map Piece.fold) := by
  have hescape := @Text.foldAscii_eq_iff '/' (by decide)
  have hmany := @Text.foldAscii_eq_iff '%' (by decide)
  have hone := @Text.foldAscii_eq_iff '_' (by decide)
  induction pattern using pieces?.induct with
  | case1 => rfl
  | case2 c rest ih =>
      rw [List.map_cons, List.map_cons, (hescape '/').mpr rfl, pieces?, pieces?, ih,
        Option.map_map, Option.map_map]
      rfl
  | case3 => rfl
  | case4 rest ih =>
      rw [List.map_cons, (hmany '%').mpr rfl, pieces?, pieces?, ih, Option.map_map, Option.map_map]
      rfl
  | case5 rest ih =>
      rw [List.map_cons, (hone '_').mpr rfl, pieces?, pieces?, ih, Option.map_map, Option.map_map]
      rfl
  | case6 c rest hpair hlast hpercent hscore ih =>
      have hslash : c ≠ '/' := by
        rintro rfl
        cases rest with
        | nil => exact hlast rfl rfl
        | cons d rest => exact hpair d rest rfl rfl
      rw [List.map_cons, pieces?_cons_of_plain hslash hpercent hscore,
        pieces?_cons_of_plain (mt (hescape c).mp hslash) (mt (hmany c).mp hpercent)
          (mt (hone c).mp hscore), ih, Option.map_map, Option.map_map]
      rfl

/-! ## Pieces -/

lemma mem_endings_iff {text rest : List Char} : rest ∈ endings text ↔ rest <:+ text := by
  induction text with
  | nil => simp [endings]
  | cons c text ih => rw [endings, List.mem_cons, ih, List.suffix_cons_iff]

/-- A wildcard matches any beginning of a text. -/
lemma accepts_many_iff {pieces : List Piece} {text : List Char} :
    accepts (.many :: pieces) text = true ↔ ∃ rest, rest <:+ text ∧ accepts pieces rest = true := by
  simp only [accepts, List.any_eq_true, mem_endings_iff]

/-- The last wildcard matches whatever is left. -/
lemma accepts_many_last (text : List Char) : accepts [.many] text = true :=
  accepts_many_iff.mpr ⟨[], List.nil_suffix, rfl⟩

/-- A literal character matches itself in either case. -/
lemma accepts_only_iff {c : Char} {pieces : List Piece} {text : List Char} :
    accepts (.only c :: pieces) text = true ↔
      ∃ d rest, text = d :: rest ∧ foldAscii d = foldAscii c ∧ accepts pieces rest = true := by
  cases text with
  | nil => simp [accepts]
  | cons d rest =>
      rw [accepts, Bool.and_eq_true, beq_iff_eq, eq_comm]
      constructor
      · rintro ⟨hd, h⟩
        exact ⟨d, rest, rfl, hd, h⟩
      · rintro ⟨_, _, hsame, hd, h⟩
        cases hsame
        exact ⟨hd, h⟩

/-- A run of literal characters matches a beginning that is folded like it. -/
lemma accepts_only_append_iff {literal : List Char} {pieces : List Piece} {text : List Char} :
    accepts (literal.map .only ++ pieces) text = true ↔
      ∃ start rest, text = start ++ rest ∧ start.map foldAscii = literal.map foldAscii ∧
        accepts pieces rest = true := by
  induction literal generalizing text with
  | nil =>
      constructor
      · exact fun h => ⟨[], text, rfl, rfl, h⟩
      · rintro ⟨start, rest, rfl, hstart, h⟩
        obtain rfl := List.map_eq_nil_iff.mp hstart
        exact h
  | cons c literal ih =>
      rw [List.map_cons, List.cons_append, accepts_only_iff]
      constructor
      · rintro ⟨d, _, rfl, hd, h⟩
        obtain ⟨start, rest, rfl, hstart, h⟩ := ih.mp h
        exact ⟨d :: start, rest, rfl, by rw [List.map_cons, List.map_cons, hd, hstart], h⟩
      · rintro ⟨_, rest, rfl, hstart, h⟩
        obtain ⟨d, start, rfl, hd, hstart⟩ := List.map_eq_cons_iff.mp hstart
        exact ⟨d, start ++ rest, rfl, hd, ih.mpr ⟨start, rest, rfl, hstart, h⟩⟩

/-- A literal between wildcards matches the texts that contain it. -/
lemma accepts_between_iff {literal text : List Char} :
    accepts (.many :: (literal.map .only ++ [.many])) text = true ↔
      literal.map foldAscii <:+: text.map foldAscii := by
  rw [List.infix_map_iff]
  simp only [accepts_many_iff, accepts_only_append_iff, accepts_many_last, and_true]
  constructor
  · rintro ⟨_, ⟨before, rfl⟩, found, rest, rfl, hfound⟩
    exact ⟨found, ⟨before, rest, List.append_assoc ..⟩, hfound.symm⟩
  · rintro ⟨found, ⟨before, rest, rfl⟩, hfound⟩
    exact ⟨found ++ rest, ⟨before, (List.append_assoc ..).symm⟩, found, rest, rfl, hfound.symm⟩

/-- Folding pieces and text makes no difference. -/
lemma accepts_map_foldAscii (pieces : List Piece) (text : List Char) :
    accepts (pieces.map Piece.fold) (text.map foldAscii) = accepts pieces text := by
  induction pieces generalizing text with
  | nil => cases text <;> rfl
  | cons piece pieces ih =>
      cases piece with
      | many =>
          change accepts (.many :: pieces.map Piece.fold) _ = _
          rw [Bool.eq_iff_iff, accepts_many_iff, accepts_many_iff]
          constructor
          · rintro ⟨found, hfound, h⟩
            obtain ⟨rest, hrest, rfl⟩ := List.suffix_map_iff.mp hfound
            exact ⟨rest, hrest, (ih rest).symm.trans h⟩
          · rintro ⟨rest, hrest, h⟩
            exact ⟨rest.map foldAscii, hrest.map foldAscii, (ih rest).trans h⟩
      | one =>
          cases text with
          | nil => rfl
          | cons d rest => exact ih rest
      | only c =>
          cases text with
          | nil => rfl
          | cons d rest =>
              change accepts (.only (foldAscii c) :: pieces.map Piece.fold)
                (foldAscii d :: rest.map foldAscii) = _
              rw [accepts, accepts, ih, Text.foldAscii_foldAscii, Text.foldAscii_foldAscii]

/-! ## Matches -/

/-- What is no character is no letter, and no letter is read as anything else. -/
lemma readChar_foldAscii (c : Char) : readChar (foldAscii c) = foldAscii (readChar c) := by
  have hcode : ∀ c : Char, (readChar c).toNat =
      if c.toNat = 0xfffe ∨ c.toNat = 0xffff then 0xfffd else c.toNat := by
    intro c
    have hread : (c = '\ufffe' || c = '\uffff') = true ↔ c.toNat = 0xfffe ∨ c.toNat = 0xffff := by
      rw [Bool.or_eq_true, decide_eq_true_eq, decide_eq_true_eq, ← Char.toNat_inj, ← Char.toNat_inj]
      exact Iff.rfl
    simp only [readChar, hread]
    split_ifs <;> rfl
  rw [← Char.toNat_inj, hcode, Text.toNat_foldAscii, Text.toNat_foldAscii, hcode]
  split_ifs <;> omega

/-- Folding leaves null characters where they are. -/
lemma seen_map_foldAscii (text : List Char) : seen (text.map foldAscii) = (seen text).map foldAscii := by
  have hnull := @Text.foldAscii_eq_iff '\x00' (by decide)
  have hstop : (fun c => c != '\x00') ∘ foldAscii = fun c => c != '\x00' := by
    funext c
    rw [Function.comp_apply, Bool.eq_iff_iff, bne_iff_ne, bne_iff_ne, ne_eq, ne_eq, hnull]
  rw [seen, List.takeWhile_map, hstop, seen, List.map_map, List.map_map]
  exact List.map_congr_left fun c _ => readChar_foldAscii c

/-- **Folding.**  It makes no difference to a match whether pattern and text are folded first. -/
theorem isMatch_map_foldAscii (pattern text : List Char) :
    isMatch (pattern.map foldAscii) (text.map foldAscii) = isMatch pattern text := by
  rw [isMatch, isMatch, seen_map_foldAscii, seen_map_foldAscii, pieces?_map_foldAscii]
  cases pieces? (seen pattern) with
  | none => rfl
  | some pieces => exact accepts_map_foldAscii pieces (seen text)

/-- What stands for a character is that character in a pattern, whatever comes after it. -/
lemma pieces?_escapedChar_append (c : Char) (rest : List Char) :
    pieces? (escapedChar c ++ rest) = (pieces? rest).map (Piece.only c :: ·) := by
  rw [escapedChar]
  by_cases hmark : c = '/' || c = '%' || c = '_'
  · rw [if_pos hmark]
    rfl
  · rw [if_neg hmark]
    simp only [Bool.or_eq_true, decide_eq_true_eq, not_or] at hmark
    exact pieces?_cons_of_plain hmark.1.1 hmark.1.2 hmark.2 rest

/-- An escaped text has its own characters for pieces. -/
lemma pieces?_escaped_append (literal rest : List Char) :
    pieces? (literal.flatMap escapedChar ++ rest) = (pieces? rest).map (literal.map .only ++ ·) := by
  induction literal with
  | nil => simp
  | cons c literal ih =>
      rw [List.flatMap_cons, List.append_assoc, pieces?_escapedChar_append, ih, Option.map_map]
      rfl

/-- A text without null characters is seen whole. -/
lemma seen_eq_map {text : List Char} (h : '\x00' ∉ text) : seen text = text.map readChar := by
  rw [seen, List.takeWhile_eq_self_iff.mpr fun c hc => by simpa using ne_of_mem_of_not_mem hc h]

/-- A mark of a pattern is read as itself, and nothing else is read as a mark. -/
lemma readChar_escapedChar (c : Char) : (escapedChar c).map readChar = escapedChar (readChar c) := by
  by_cases hnone : c = '\ufffe' || c = '\uffff'
  · have hread : readChar c = '\ufffd' := if_pos hnone
    have hplain : escapedChar c = [c] := by
      simp only [Bool.or_eq_true, decide_eq_true_eq] at hnone
      rcases hnone with rfl | rfl <;> rfl
    rw [hplain, hread, List.map_singleton, hread]
    rfl
  · have hread : readChar c = c := if_neg hnone
    rw [hread, escapedChar]
    split_ifs
    · rw [List.map_cons, List.map_singleton, hread]
      rfl
    · rw [List.map_singleton, hread]

/-- An escaped text is read as what it is read as, escaped. -/
lemma map_readChar_escaped (literal : List Char) :
    (literal.flatMap escapedChar).map readChar = (literal.map readChar).flatMap escapedChar := by
  rw [List.map_flatMap, List.flatMap_map]
  exact congrArg (literal.flatMap ·) (funext readChar_escapedChar)

/-- The pattern for texts that contain a text without null characters is seen whole. -/
lemma null_notMem_containsPattern {text : String} (h : '\x00' ∉ text.toList) :
    '\x00' ∉ containsPattern (escaped text) := by
  have hliteral : '\x00' ∉ (escaped text).toList := by
    rw [escaped, String.toList_ofList, List.mem_flatMap]
    rintro ⟨c, hc, hmem⟩
    rw [escapedChar] at hmem
    split at hmem <;> simp at hmem
    all_goals exact h (hmem ▸ hc)
  simp [containsPattern, hliteral]

/-- **Literals.**  The pattern for texts that contain a text matches exactly those that do, in either
case and as far as both are seen. -/
theorem isMatch_containsPattern_iff {literal : String} (h : '\x00' ∉ literal.toList)
    (text : List Char) :
    isMatch (containsPattern (escaped literal)) text = true ↔
      (seen literal.toList).map foldAscii <:+: (seen text).map foldAscii := by
  have hpattern : seen (containsPattern (escaped literal)) =
      '%' :: ((literal.toList.map readChar).flatMap escapedChar ++ ['%']) := by
    rw [seen_eq_map (null_notMem_containsPattern h), containsPattern, escaped,
      String.toList_ofList, List.map_append, List.map_cons, map_readChar_escaped]
    rfl
  have hpieces : pieces? (seen (containsPattern (escaped literal))) =
      some (.many :: ((seen literal.toList).map .only ++ [.many])) := by
    rw [hpattern, pieces?, pieces?_escaped_append, seen_eq_map h]
    rfl
  rw [isMatch, hpieces]
  exact accepts_between_iff

end Sql.Like

end FilterQuery
