import Mathlib.Data.List.Induction
import Mathlib.Tactic.Common
import FilterQuery.Value.Mapping

/-!
# Mappings put together from pairs

A mapping is put together by giving one pair after the other.  The first key of its kind keeps its place,
and the last value given for it counts.

**Keys apart.**  `Mapping.IsDistinct`: no key of a mapping comes again.  Such a mapping is what comes of
putting its entries together (`Mapping.ofValue_of_isDistinct`).

**Keys that are texts.**  A key that is a text is the same key as nothing but what reads like it
(`Value.sameKey_of_text?`).  Of pairs with such keys, `Mapping.texts_ofPairs` says which keys there are
and in which order, and `Mapping.find?_ofPairs_iff` which value each of them has: `Mapping.IsLast`.
-/

namespace FilterQuery

namespace Value

lemma beq_operator (a b : Operator) : (a == b) = (a.name == b.name) := by
  rw [Bool.eq_iff_iff, beq_iff_eq, beq_iff_eq]
  refine ⟨congrArg Operator.name, fun hsame => Option.some.inj ?_⟩
  rw [← a.ofName?_name, ← b.ofName?_name, hsame]

/-- A key that is a text is the same as every key of the same text. -/
lemma sameKey_of_text? {key : Value} {text : String} (h : key.text? = some text)
    (known : Value) : known.sameKey key = (known.text? == some text) := by
  cases key with
  | str _ => cases h; cases known <;> simp [sameKey, text?, orderNumbers?, int?]
  | op _ => cases h; cases known <;> simp [sameKey, text?, orderNumbers?, int?, beq_operator]
  | _ => simp [text?] at h

/-- What is a text is the same key as nothing but this text. -/
lemma sameKey_of_text?_left {known : Value} {text : String} (h : known.text? = some text)
    (key : Value) : known.sameKey key = (key.text? == some text) := by
  cases hkey : key.text? with
  | some other =>
      rw [sameKey_of_text? hkey, h, Bool.beq_comm]
  | none =>
      cases known with
      | str _ => cases key <;> simp_all [sameKey, text?, orderNumbers?, int?]
      | op _ => cases key <;> simp_all [sameKey, text?, orderNumbers?, int?]
      | _ => simp [text?] at h

end Value

namespace Mapping

/-! ## Keys apart -/

/-- No key comes again. -/
def IsDistinct (entries : Mapping) : Prop :=
  (entries.map Prod.fst).Pairwise fun known key => known.sameKey key = false

lemma insert_of_new {entries : Mapping} {key : Value} (value : Value)
    (h : ∀ entry ∈ entries, entry.1.sameKey key = false) :
    insert entries key value = entries ++ [(key, value)] := by
  induction entries with
  | nil => rfl
  | cons entry rest ih =>
      obtain ⟨hentry, hrest⟩ := List.forall_mem_cons.mp h
      rw [insert, hentry, ih hrest]
      rfl

lemma map_fst_insert_of_known {entries : Mapping} {key : Value} (value : Value)
    (h : ∃ entry ∈ entries, entry.1.sameKey key = true) :
    (insert entries key value).map Prod.fst = entries.map Prod.fst := by
  induction entries with
  | nil => simp at h
  | cons entry rest ih =>
      rw [insert]
      split_ifs with hentry
      · rfl
      · have hrest : ∃ entry ∈ rest, entry.1.sameKey key = true := by simpa [hentry] using h
        rw [List.map_cons, ih hrest, List.map_cons]

lemma IsDistinct.insert {entries : Mapping} (h : IsDistinct entries) (key value : Value) :
    IsDistinct (insert entries key value) := by
  rw [IsDistinct]
  by_cases hknown : ∃ entry ∈ entries, entry.1.sameKey key = true
  · rw [map_fst_insert_of_known value hknown]
    exact h
  · have hnew : ∀ entry ∈ entries, entry.1.sameKey key = false := by simpa using hknown
    rw [insert_of_new value hnew, List.map_append]
    refine List.pairwise_append.mpr ⟨h, List.pairwise_singleton _ _, ?_⟩
    simpa using hnew

/-- What is put together from pairs has its keys apart. -/
lemma isDistinct_ofPairs (pairs : List (Value × Value)) : IsDistinct (ofPairs pairs) := by
  suffices h : ∀ entries : Mapping, IsDistinct entries → IsDistinct (merge entries pairs) from
    h [] List.Pairwise.nil
  induction pairs with
  | nil => exact fun entries h => h
  | cons pair rest ih => exact fun entries h => ih _ (h.insert pair.1 pair.2)

/-- A mapping has no keys but those that were put in. -/
lemma keys_insert_subset (entries : Mapping) (key value : Value) :
    (insert entries key value).map Prod.fst ⊆ entries.map Prod.fst ++ [key] := by
  by_cases hknown : ∃ entry ∈ entries, entry.1.sameKey key = true
  · rw [map_fst_insert_of_known value hknown]
    exact List.subset_append_left _ _
  · have hnew : ∀ entry ∈ entries, entry.1.sameKey key = false := by simpa using hknown
    rw [insert_of_new value hnew, List.map_append, List.map_singleton]
    exact List.Subset.refl _

lemma ofPairs_concat (pairs : List (Value × Value)) (pair : Value × Value) :
    ofPairs (pairs ++ [pair]) = insert (ofPairs pairs) pair.1 pair.2 := by
  rw [ofPairs, merge, List.foldl_append]
  rfl

lemma ofPairs_ne_nil {pairs : List (Value × Value)} (h : pairs ≠ []) : ofPairs pairs ≠ [] := by
  obtain ⟨before, pair, rfl⟩ := (List.eq_nil_or_concat pairs).resolve_left h
  rw [List.concat_eq_append, ofPairs_concat]
  cases ofPairs before with
  | nil => exact nofun
  | cons entry rest =>
      rw [insert]
      split_ifs <;> exact nofun

lemma keys_ofPairs_subset (pairs : List (Value × Value)) :
    (ofPairs pairs).map Prod.fst ⊆ pairs.map Prod.fst := by
  induction pairs using List.reverseRecOn with
  | nil => exact List.Subset.refl _
  | append_singleton before pair ih =>
      rw [ofPairs_concat, List.map_append, List.map_singleton]
      exact List.Subset.trans (keys_insert_subset _ _ _) (List.append_subset.mpr
        ⟨List.Subset.trans ih (List.subset_append_left _ _), List.subset_append_right _ _⟩)

lemma merge_eq_append {entries more : Mapping} (h : IsDistinct (entries ++ more)) :
    merge entries more = entries ++ more := by
  induction more generalizing entries with
  | nil => exact (List.append_nil entries).symm
  | cons entry rest ih =>
      have hnew : ∀ known ∈ entries, known.1.sameKey entry.1 = false := by
        rw [IsDistinct, List.map_append, List.pairwise_append] at h
        exact fun known hknown => h.2.2 known.1 (List.mem_map_of_mem hknown) entry.1
          (List.mem_map_of_mem List.mem_cons_self)
      have hstep : merge entries (entry :: rest) = merge (entries ++ [entry]) rest := by
        rw [← insert_of_new entry.2 hnew]
        rfl
      rw [List.append_cons] at h ⊢
      rw [hstep, ih h]

lemma ofValue_of_isDistinct {entries : Mapping} (h : IsDistinct entries) :
    ofValue (.mapping entries) = .ok entries := by
  have hmerge : merge [] entries = [] ++ entries := merge_eq_append h
  rw [ofValue, update, hmerge, List.nil_append]

/-! ## Keys that are texts -/

/-- All keys are texts. -/
def IsNamed (pairs : List (Value × Value)) : Prop :=
  ∀ pair ∈ pairs, ∃ text, pair.1.text? = some text

/-- The value is the last one given under a key that is read as the text. -/
def IsLast (read : Value → Option String) (pairs : List (Value × Value)) (text : String)
    (value : Value) : Prop :=
  ∃ before key after, pairs = before ++ (key, value) :: after ∧ read key = some text ∧
    ∀ later ∈ after, read later.1 ≠ some text

lemma find?_text (entries : Mapping) (text : String) :
    find? entries (.str text) =
      (List.find? (fun entry => entry.1.text? == some text) entries).map Prod.snd := by
  have hsame : ∀ entry : Value × Value, entry.1.sameKey (.str text) =
      (entry.1.text? == some text) := fun entry => Value.sameKey_of_text? rfl entry.1
  simp only [find?, hsame]

lemma find?_cons (entry : Value × Value) (rest : Mapping) (text : String) :
    find? (entry :: rest) (.str text) =
      if entry.1.text? = some text then some entry.2 else find? rest (.str text) := by
  have hsame : entry.1.sameKey (.str text) = (entry.1.text? == some text) :=
    Value.sameKey_of_text? rfl entry.1
  rw [find?, List.find?_cons, hsame]
  by_cases htext : entry.1.text? = some text
  · simp [htext]
  · rw [beq_false_of_ne htext, if_neg htext, find?]

/-- What was put last under a text is found there, and nothing else changes. -/
lemma find?_insert_of_text? {key : Value} {text : String} (hkey : key.text? = some text)
    (entries : Mapping) (value sought : Value) :
    find? (insert entries key value) sought =
      if sought.text? = some text then some value else find? entries sought := by
  induction entries with
  | nil =>
      have hsame := Value.sameKey_of_text?_left hkey sought
      by_cases hsought : sought.text? = some text <;> simp [insert, find?, hsame, hsought]
  | cons entry rest ih =>
      rw [insert, Value.sameKey_of_text? hkey]
      by_cases hentry : entry.1.text? = some text
      · have hsame := Value.sameKey_of_text?_left hentry sought
        by_cases hsought : sought.text? = some text <;>
          simp [find?, hentry, hsame, hsought]
      · have hother : entry.1.sameKey sought = true → sought.text? ≠ some text := fun hsame hsought =>
          hentry (by simpa [Value.sameKey_of_text? hsought] using hsame)
        simp only [beq_false_of_ne hentry, Bool.false_eq_true, if_false]
        rw [find?] at ih ⊢
        by_cases hsame : entry.1.sameKey sought = true
        · simp [hsame, hother hsame, find?]
        · simp [hsame, ih, find?]

lemma find?_insert {key : Value} (hkey : ∃ text, key.text? = some text) (entries : Mapping)
    (value : Value) (text : String) :
    find? (insert entries key value) (.str text) =
      if key.text? = some text then some value else find? entries (.str text) := by
  obtain ⟨known, hknown⟩ := hkey
  rw [find?_insert_of_text? hknown, hknown]
  exact if_congr eq_comm rfl rfl

/-- Putting in what is there already changes nothing. -/
lemma insert_of_find? {entries : Mapping} {key value : Value}
    (h : find? entries key = some value) : insert entries key value = entries := by
  induction entries with
  | nil => cases h
  | cons entry rest ih =>
      rw [insert]
      rw [find?, List.find?_cons] at h
      cases hsame : entry.1.sameKey key with
      | true =>
          rw [hsame] at h
          obtain rfl := Option.some.inj h
          rfl
      | false =>
          rw [hsame] at h
          rw [ih h]
          rfl

/-- A text that comes again keeps its place, and a new one comes last. -/
lemma texts_insert {key : Value} (hkey : ∃ text, key.text? = some text) (entries : Mapping)
    (value : Value) :
    (insert entries key value).map (fun entry => entry.1.text?) =
      if key.text? ∈ entries.map (fun entry => entry.1.text?)
      then entries.map (fun entry => entry.1.text?)
      else entries.map (fun entry => entry.1.text?) ++ [key.text?] := by
  obtain ⟨known, hknown⟩ := hkey
  induction entries with
  | nil => rfl
  | cons entry rest ih =>
      rw [insert, Value.sameKey_of_text? hknown]
      by_cases hentry : entry.1.text? = some known
      · simp [hentry, hknown]
      · have hother : key.text? ≠ entry.1.text? := fun hsame => hentry (hsame.symm.trans hknown)
        simp only [beq_false_of_ne hentry, Bool.false_eq_true, if_false, List.map_cons, ih,
          List.mem_cons, hother, false_or]
        split_ifs <;> rfl

/-- The keys of some pairs, each where it stands first. -/
lemma texts_ofPairs {pairs : List (Value × Value)} (h : IsNamed pairs) :
    (ofPairs pairs).map (fun entry => entry.1.text?) =
      (pairs.map fun pair => pair.1.text?).eraseDups := by
  -- From the last pair, because a pair is put in behind those before it.
  induction pairs using List.reverseRecOn with
  | nil => rfl
  | append_singleton before pair ih =>
      obtain ⟨hbefore, hpair⟩ := List.forall_mem_append.mp h
      rw [ofPairs_concat, texts_insert (hpair pair List.mem_cons_self), ih hbefore, List.map_append,
        List.map_singleton, List.eraseDups_append]
      by_cases hold : pair.1.text? ∈ before.map fun pair => pair.1.text?
      · simp [List.removeAll, hold]
      · simp [List.removeAll, hold, List.eraseDups_cons]

/-- Of some pairs with the same key the last one counts. -/
lemma find?_ofPairs {pairs : List (Value × Value)} (h : IsNamed pairs) (text : String) :
    find? (ofPairs pairs) (.str text) = find? pairs.reverse (.str text) := by
  induction pairs using List.reverseRecOn with
  | nil => rfl
  | append_singleton before pair ih =>
      obtain ⟨hbefore, hpair⟩ := List.forall_mem_append.mp h
      rw [ofPairs_concat, find?_insert (hpair pair List.mem_cons_self), ih hbefore,
        List.reverse_append, List.reverse_singleton, List.singleton_append, find?_cons]

lemma find?_ofPairs_iff {pairs : List (Value × Value)} (h : IsNamed pairs) {text : String}
    {value : Value} :
    find? (ofPairs pairs) (.str text) = some value ↔ IsLast Value.text? pairs text value := by
  rw [find?_ofPairs h, find?_text, Option.map_eq_some_iff]
  simp only [List.find?_eq_some_iff_append, beq_iff_eq, Bool.not_eq_true', beq_eq_false_iff_ne]
  constructor
  · rintro ⟨⟨key, value⟩, ⟨hkey, after, before, hpairs, hafter⟩, rfl⟩
    refine ⟨before.reverse, key, after.reverse, ?_, hkey, fun later hlater => ?_⟩
    · rw [← List.reverse_reverse pairs, hpairs]
      simp
    · exact hafter later (List.mem_reverse.mp hlater)
  · rintro ⟨before, key, after, rfl, hkey, hafter⟩
    refine ⟨(key, value), ⟨hkey, after.reverse, before.reverse, by simp, ?_⟩, rfl⟩
    exact fun later hlater => hafter later (List.mem_reverse.mp hlater)

/-- Among keys that become a text there is a last one. -/
lemma exists_isLast_iff {read : Value → Option String} {pairs : List (Value × Value)}
    {text : String} :
    (∃ value, IsLast read pairs text value) ↔
      ∃ pair ∈ pairs, read pair.1 = some text := by
  constructor
  · rintro ⟨value, before, key, after, rfl, hkey, -⟩
    exact ⟨(key, value), by simp, hkey⟩
  · intro h
    induction pairs using List.reverseRecOn with
    | nil => simp at h
    | append_singleton before pair ih =>
        by_cases hpair : read pair.1 = some text
        · exact ⟨pair.2, before, pair.1, [], rfl, hpair, nofun⟩
        · have hbefore : ∃ entry ∈ before, read entry.1 = some text := by simpa [hpair] using h
          obtain ⟨value, front, key, after, rfl, hkey, hafter⟩ := ih hbefore
          refine ⟨value, front, key, after ++ [pair], by simp, hkey, ?_⟩
          exact List.forall_mem_append.mpr ⟨hafter, by simpa using hpair⟩

lemma find?_of_mem {entries : Mapping} (h : IsDistinct entries) {entry : Value × Value}
    (hmem : entry ∈ entries) {text : String} (htext : entry.1.text? = some text) :
    find? entries (.str text) = some entry.2 := by
  induction entries with
  | nil => cases hmem
  | cons first rest ih =>
      rw [IsDistinct, List.map_cons, List.pairwise_cons] at h
      rw [find?_cons]
      rcases List.mem_cons.mp hmem with rfl | hrest
      · rw [if_pos htext]
      · have hother : first.1.text? ≠ some text := by
          have happart := h.1 entry.1 (List.mem_map_of_mem hrest)
          rw [Value.sameKey_of_text? htext, beq_eq_false_iff_ne] at happart
          exact happart
        rw [if_neg hother, ih h.2 hrest]

end Mapping

end FilterQuery
