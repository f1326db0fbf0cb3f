import Mathlib.Data.List.Basic
import Mathlib.Tactic.Common
import FilterQuery.Text.Utf8

/-!
# Bytes that are characters

`decodeUtf8` goes byte by byte and holds back the bytes of a character that is not complete.  This
file shows what it reads: `decodeUtf8_eq_ok_iff` says that it inverts `String.utf8EncodeChar`, which
gives the bytes of a character in one piece.

**Whole characters.**  `IsWhole` is what the reader checks of the bytes of one character, put together
from its single checks.  Bytes that pass them are those of some character
(`utf8EncodeChar_charOfUtf8`), and those of every character pass them (`isWhole_utf8EncodeChar`).  The
four lengths are the four cases of both, with nothing but linear arithmetic in each.

**The reader.**  `decodeUtf8From_append` and `exists_of_decodeUtf8From` follow it through the held bytes, in
both directions, and the theorem is an induction on the characters.
-/

namespace FilterQuery.Text

/-! ## Single bytes -/

/-- The four ranges of first bytes. -/
lemma utf8Length?_eq_some_iff {octet : UInt8} {n : Nat} :
    utf8Length? octet = some n ↔
      n = 1 ∧ octet.toNat < 0x80 ∨ n = 2 ∧ 0xc2 ≤ octet.toNat ∧ octet.toNat < 0xe0 ∨
      n = 3 ∧ 0xe0 ≤ octet.toNat ∧ octet.toNat < 0xf0 ∨
      n = 4 ∧ 0xf0 ≤ octet.toNat ∧ octet.toNat < 0xf5 := by
  simp only [utf8Length?, UInt8.lt_iff_toNat_lt, UInt8.reduceToNat]
  split_ifs <;> simp <;> omega

/-- Which bytes may be second ones: four of the first bytes leave less than the whole range. -/
lemma continuesUtf8_one_iff {lead octet : UInt8} :
    continuesUtf8 [lead] octet = true ↔
      (0x80 ≤ octet.toNat ∧ octet.toNat ≤ 0xbf) ∧ (lead.toNat = 0xe0 → 0xa0 ≤ octet.toNat) ∧
      (lead.toNat = 0xed → octet.toNat ≤ 0x9f) ∧ (lead.toNat = 0xf0 → 0x90 ≤ octet.toNat) ∧
      (lead.toNat = 0xf4 → octet.toNat ≤ 0x8f) := by
  unfold continuesUtf8
  simp only [Bool.and_eq_true, decide_eq_true_eq, UInt8.le_iff_toNat_le]
  split
  case h_5 hfirst hsecond hthird hfourth =>
    have hother : ∀ {value : UInt8}, ([lead] = [value] → False) → lead.toNat ≠ value.toNat :=
      fun hne h => hne (congrArg ([·]) (UInt8.toNat_inj.mp h))
    exact ⟨fun h => ⟨h, (hother hfirst · |>.elim), (hother hsecond · |>.elim),
      (hother hthird · |>.elim), (hother hfourth · |>.elim)⟩, And.left⟩
  all_goals
    rename_i h
    cases h
    simp
    omega

/-- Third and fourth bytes have the whole range. -/
lemma continuesUtf8_two_iff {lead second octet : UInt8} {more : List UInt8} :
    continuesUtf8 (lead :: second :: more) octet = true ↔
      0x80 ≤ octet.toNat ∧ octet.toNat ≤ 0xbf := by
  simp [continuesUtf8, UInt8.le_iff_toNat_le]

/-! ## The bytes of a character -/

/-- Each of these bytes continues the character of the bytes before it. -/
def Continued (held : List UInt8) : List UInt8 → Prop
  | [] => True
  | octet :: rest => continuesUtf8 held octet = true ∧ Continued (held ++ [octet]) rest

/-- All bytes of one character: as many as the first one says, each continuing those before it. -/
inductive IsWhole : List UInt8 → Prop where
  | intro {lead : UInt8} {tail : List UInt8} (length : utf8Length? lead = some (tail.length + 1))
    (continued : Continued [lead] tail) : IsWhole (lead :: tail)

/-- The bytes of a character pass all checks.  The second byte of three is in its range since no code is
that of a surrogate. -/
lemma isWhole_utf8EncodeChar (c : Char) : IsWhole (String.utf8EncodeChar c) := by
  have hlimit : c.val.toNat < 0xd800 ∨ 0xdfff < c.val.toNat ∧ c.val.toNat < 0x110000 := c.valid
  rw [String.utf8EncodeChar]
  generalize c.val.toNat = v at hlimit
  split_ifs
  · refine .intro (utf8Length?_eq_some_iff.mpr ?_) trivial
    simp
    omega
  · refine .intro (utf8Length?_eq_some_iff.mpr ?_) ⟨continuesUtf8_one_iff.mpr ?_, trivial⟩ <;>
      simp <;> omega
  · refine .intro (utf8Length?_eq_some_iff.mpr ?_)
      ⟨continuesUtf8_one_iff.mpr ?_, continuesUtf8_two_iff.mpr ?_, trivial⟩ <;> simp <;> omega
  · refine .intro (utf8Length?_eq_some_iff.mpr ?_)
      ⟨continuesUtf8_one_iff.mpr ?_, continuesUtf8_two_iff.mpr ?_, continuesUtf8_two_iff.mpr ?_,
        trivial⟩ <;> simp <;> omega

/-- The character of its bytes is the character itself. -/
lemma charOfUtf8_utf8EncodeChar (c : Char) : charOfUtf8 (String.utf8EncodeChar c) = c := by
  have hlimit : c.val.toNat < 0xd800 ∨ 0xdfff < c.val.toNat ∧ c.val.toNat < 0x110000 := c.valid
  have hchar : ∀ code, code = c.val.toNat → Char.ofNat code = c := by
    rintro _ rfl
    exact Char.ofNat_toNat c
  rw [String.utf8EncodeChar]
  generalize c.val.toNat = v at hlimit hchar ⊢
  split_ifs <;> refine hchar _ ?_ <;> simp <;> omega

/-- The code of the character that a code gives. -/
lemma val_ofNat {code : Nat} (h : code < 0xd800 ∨ 0xdfff < code ∧ code < 0x110000) :
    (Char.ofNat code).val.toNat = code := by
  have hvalid : code.isValidChar := h
  rw [Char.ofNat, dif_pos hvalid]
  rfl

/-- A byte that is given by its value. -/
lemma ofNat_eq {n : Nat} (octet : UInt8) (h : n = octet.toNat) : UInt8.ofNat n = octet := by
  rw [h, UInt8.ofNat_toNat]

/-- Bytes that pass all checks are the bytes of their character. -/
lemma utf8EncodeChar_charOfUtf8 {octets : List UInt8} (h : IsWhole octets) :
    String.utf8EncodeChar (charOfUtf8 octets) = octets := by
  obtain @⟨lead, tail, hlength, hcontinued⟩ := h
  obtain ⟨htail, hlead⟩ | ⟨htail, hlead⟩ | ⟨htail, hlead⟩ | ⟨htail, hlead⟩ :=
    utf8Length?_eq_some_iff.mp hlength
  · obtain rfl := List.length_eq_zero_iff.mp (Nat.succ.inj htail)
    have hcode : (charOfUtf8 [lead]).val.toNat = lead.toNat := val_ofNat (by omega)
    rw [String.utf8EncodeChar, hcode, if_pos (by omega), ofNat_eq lead rfl]
  · obtain ⟨second, rfl⟩ := List.length_eq_one_iff.mp (Nat.succ.inj htail)
    have hsecond := continuesUtf8_one_iff.mp hcontinued.1
    have hcode : (charOfUtf8 [lead, second]).val.toNat =
        (lead.toNat - 0xc0) * 64 + (second.toNat - 0x80) := val_ofNat (by simp; omega)
    rw [String.utf8EncodeChar, hcode, if_neg (by omega), if_pos (by omega),
      ofNat_eq lead (by omega), ofNat_eq second (by omega)]
  · obtain ⟨second, third, rfl⟩ := List.length_eq_two.mp (Nat.succ.inj htail)
    have hsecond := continuesUtf8_one_iff.mp hcontinued.1
    have hthird := continuesUtf8_two_iff.mp hcontinued.2.1
    have hcode : (charOfUtf8 [lead, second, third]).val.toNat =
        ((lead.toNat - 0xe0) * 64 + (second.toNat - 0x80)) * 64 + (third.toNat - 0x80) :=
      val_ofNat (by simp; omega)
    rw [String.utf8EncodeChar, hcode, if_neg (by omega), if_neg (by omega), if_pos (by omega),
      ofNat_eq lead (by omega), ofNat_eq second (by omega), ofNat_eq third (by omega)]
  · obtain ⟨second, third, fourth, rfl⟩ := List.length_eq_three.mp (Nat.succ.inj htail)
    have hsecond := continuesUtf8_one_iff.mp hcontinued.1
    have hthird := continuesUtf8_two_iff.mp hcontinued.2.1
    have hfourth := continuesUtf8_two_iff.mp hcontinued.2.2.1
    have hcode : (charOfUtf8 [lead, second, third, fourth]).val.toNat =
        (((lead.toNat - 0xf0) * 64 + (second.toNat - 0x80)) * 64 + (third.toNat - 0x80)) * 64
          + (fourth.toNat - 0x80) := val_ofNat (by simp; omega)
    rw [String.utf8EncodeChar, hcode, if_neg (by omega), if_neg (by omega), if_neg (by omega),
      ofNat_eq lead (by omega), ofNat_eq second (by omega), ofNat_eq third (by omega),
      ofNat_eq fourth (by omega)]

/-! ## Reading characters one after the other -/

variable {position : Nat} {held octets : List UInt8} {chars : List Char}

/-- What is missing of a character, and then the rest: the character, and then what the rest gives. -/
lemma decodeUtf8From_append {lead : UInt8} {tail rest : List UInt8} (more : List UInt8)
    (hrest : rest ≠ []) (hlength : utf8Length? lead = some (tail.length + 1 + rest.length))
    (hcontinued : Continued (lead :: tail) rest) :
    decodeUtf8From position (lead :: tail) (rest ++ more) =
      (decodeUtf8From (position + rest.length) [] more).map
        (charOfUtf8 (lead :: (tail ++ rest)) :: ·) := by
  induction rest generalizing position tail with
  | nil => exact absurd rfl hrest
  | cons octet rest ih =>
      obtain ⟨hoctet, hcontinued⟩ := hcontinued
      rw [List.cons_append, decodeUtf8From, if_pos hoctet]
      cases rest with
      | nil =>
          rw [if_pos (by simpa using hlength)]
          rfl
      | cons next rest =>
          rw [if_neg (by rw [hlength]; simp)]
          have hknown : utf8Length? lead =
              some ((tail ++ [octet]).length + 1 + (next :: rest).length) := by
            rw [hlength]
            simp
            omega
          have hnext := @ih (position + 1) _ (List.cons_ne_nil _ _) hknown hcontinued
          rw [List.append_assoc, List.singleton_append, Nat.add_assoc, Nat.add_comm 1] at hnext
          exact hnext

/-- Conversely, if there is a result then held bytes are completed first. -/
lemma exists_of_decodeUtf8From {lead : UInt8} {tail octets : List UInt8} {n : Nat}
    (hlength : utf8Length? lead = some n) (hshort : tail.length + 1 < n)
    (h : decodeUtf8From position (lead :: tail) octets = .ok chars) :
    ∃ rest more later place, octets = rest ++ more ∧ tail.length + 1 + rest.length = n ∧
      Continued (lead :: tail) rest ∧ chars = charOfUtf8 (lead :: (tail ++ rest)) :: later ∧
      decodeUtf8From place [] more = .ok later := by
  induction octets generalizing position tail with
  | nil => cases h
  | cons octet octets ih =>
      rw [decodeUtf8From] at h
      split at h
      · rename_i hoctet
        dsimp only at h
        split at h
        · rename_i hwhole
          cases hlater : decodeUtf8From (position + 1) [] octets with
          | error fault =>
              rw [hlater] at h
              cases h
          | ok later =>
              rw [hlater] at h
              cases h
              rw [hlength, Option.some.injEq] at hwhole
              exact ⟨[octet], octets, later, position + 1, rfl, by simpa using hwhole.symm,
                ⟨hoctet, trivial⟩, rfl, hlater⟩
        · rename_i hpart
          have hshort' : (tail ++ [octet]).length + 1 < n := by
            rw [hlength, Option.some.injEq] at hpart
            simp at hpart ⊢
            omega
          obtain ⟨rest, more, later, place, hoctets, hcount, hcontinued, hchars, hlater⟩ :=
            ih hshort' h
          refine ⟨octet :: rest, more, later, place, ?_, ?_, ⟨hoctet, hcontinued⟩, ?_, hlater⟩
          · rw [hoctets, List.cons_append]
          · rw [← hcount]
            simp
            omega
          · rw [hchars, List.append_assoc, List.singleton_append]
      · cases h

/-- The bytes of a character give it. -/
lemma decodeUtf8From_whole {octets : List UInt8} (more : List UInt8) (h : IsWhole octets) :
    decodeUtf8From position [] (octets ++ more) =
      (decodeUtf8From (position + octets.length) [] more).map (charOfUtf8 octets :: ·) := by
  obtain @⟨lead, tail, hlength, hcontinued⟩ := h
  rw [List.cons_append, decodeUtf8From, hlength]
  cases tail with
  | nil => rfl
  | cons second tail =>
      have hcount : utf8Length? lead = some (([] : List UInt8).length + 1 + (second :: tail).length) := by
        rw [hlength]
        simp
        omega
      have hrest := @decodeUtf8From_append (position + 1) lead [] (second :: tail) more
        (List.cons_ne_nil second tail) hcount hcontinued
      rw [Nat.add_assoc, Nat.add_comm 1] at hrest
      exact hrest

/-- If there is a result then the first character of it is that of the first bytes. -/
lemma exists_whole_of_decodeUtf8From {octet : UInt8} {octets : List UInt8}
    (h : decodeUtf8From position [] (octet :: octets) = .ok chars) :
    ∃ whole more later place, octet :: octets = whole ++ more ∧ IsWhole whole ∧
      chars = charOfUtf8 whole :: later ∧ decodeUtf8From place [] more = .ok later := by
  rw [decodeUtf8From] at h
  split at h
  · cases h
  · rename_i hlength
    cases hlater : decodeUtf8From (position + 1) [] octets with
    | error fault =>
        rw [hlater] at h
        cases h
    | ok later =>
        rw [hlater] at h
        cases h
        exact ⟨[octet], octets, later, position + 1, rfl, .intro hlength trivial, rfl, hlater⟩
  · rename_i n hn hlength
    have hshort : ([] : List UInt8).length + 1 < n := by
      have := utf8Length?_eq_some_iff.mp hlength
      have : n ≠ 1 := hn
      simp
      omega
    obtain ⟨rest, more, later, place, hoctets, hcount, hcontinued, hchars, hlater⟩ :=
      exists_of_decodeUtf8From hlength hshort h
    refine ⟨octet :: rest, more, later, place, ?_, .intro ?_ hcontinued, hchars, hlater⟩
    · rw [hoctets, List.cons_append]
    · rw [hlength, ← hcount]
      simp
      omega

/-- **What bytes are read as characters**: their encoding, and nothing else. -/
theorem decodeUtf8_eq_ok_iff :
    decodeUtf8 octets = .ok chars ↔ octets = chars.flatMap String.utf8EncodeChar := by
  suffices hfrom : ∀ position, decodeUtf8From position [] octets = .ok chars ↔
      octets = chars.flatMap String.utf8EncodeChar from hfrom 0
  intro position
  constructor
  case mp =>
    intro h
    induction chars generalizing octets position with
    | nil =>
        cases octets with
        | nil => rfl
        | cons octet octets =>
            obtain ⟨whole, more, later, place, -, -, hchars, -⟩ := exists_whole_of_decodeUtf8From h
            cases hchars
    | cons c chars ih =>
        cases octets with
        | nil => cases h
        | cons octet octets =>
            obtain ⟨whole, more, later, place, hoctets, hwhole, hchars, hlater⟩ :=
              exists_whole_of_decodeUtf8From h
            cases hchars
            rw [hoctets, List.flatMap_cons, utf8EncodeChar_charOfUtf8 hwhole, ← ih place hlater]
  case mpr =>
    rintro rfl
    induction chars generalizing position with
    | nil => rfl
    | cons c chars ih =>
        rw [List.flatMap_cons, decodeUtf8From_whole _ (isWhole_utf8EncodeChar c), ih,
          charOfUtf8_utf8EncodeChar]
        rfl

end FilterQuery.Text
