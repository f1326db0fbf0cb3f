import Mathlib.Tactic.Common
import FilterQuery.Proofs.Mappings
import FilterQuery.Query

/-!
# Filter values from options

Options hold the filter values under one key, and their keys become texts.  Different keys can become the
same text: `1` and `'1'`, or an operator and its spelling.

**Normal keys.**  `Options.Normalizes` says what is left of the filter values that are given: texts as
keys, no text twice, and under each text the last value given under a key that becomes it.

**Options.**  `Options.filters_law` says which options are refused, what the others come to, that nothing
else in them counts, and that options read before are the same as those under the key of the settings.  A
mapping can be refused too, for a key that cannot be written (`not_refused_iff_no_mapping`).
-/

namespace FilterQuery.Options

open FilterQuery.Sql

/-! ## Normal keys -/

/-- Filter values are what normal keys make of the values that are given. -/
structure Normalizes (given filters : Mapping) : Prop where
  /-- All keys are texts. -/
  texts : ∀ entry ∈ filters, ∃ text, entry.1 = .str text
  apart : Mapping.IsDistinct filters
  /-- A text is there if some key becomes it. -/
  contains : ∀ text, Mapping.contains filters (.str text) = true ↔
    ∃ entry ∈ given, normalKey entry.1 = text
  /-- Its value is the last one given under such a key. -/
  last : ∀ text value, Mapping.find? filters (.str text) = some value ↔
    Mapping.IsLast (fun key => some (normalKey key)) given text value

/-- The last value is the same, whether keys are made normal first or read so. -/
lemma isLast_normal {given : Mapping} {text : String} {value : Value} :
    Mapping.IsLast Value.text?
        (given.map fun entry => (.str (normalKey entry.1), entry.2)) text value ↔
      Mapping.IsLast (fun key => some (normalKey key)) given text value := by
  constructor
  · rintro ⟨before, key, after, hgiven, hkey, hafter⟩
    obtain ⟨before, rest, rfl, rfl, hrest⟩ := List.map_eq_append_iff.mp hgiven
    obtain ⟨entry, after, rfl, hentry, rfl⟩ := List.map_eq_cons_iff.mp hrest
    cases hentry
    refine ⟨before, entry.1, after, rfl, hkey, fun later hlater => ?_⟩
    exact hafter _ (List.mem_map_of_mem hlater)
  · rintro ⟨before, key, after, rfl, hkey, hafter⟩
    refine ⟨_, .str (normalKey key), _, by rw [List.map_append, List.map_cons], hkey, ?_⟩
    intro later hlater
    obtain ⟨entry, hentry, rfl⟩ := List.mem_map.mp hlater
    exact hafter entry hentry

/-- Making keys normal does what it says. -/
lemma normalizes_normalize (given : Mapping) : Normalizes given (normalize given) := by
  have hnamed : Mapping.IsNamed
      (given.map fun entry => (Value.str (normalKey entry.1), entry.2)) := by
    intro pair hpair
    obtain ⟨entry, -, rfl⟩ := List.mem_map.mp hpair
    exact ⟨_, rfl⟩
  have hlast : ∀ text value, Mapping.find? (normalize given) (.str text) = some value ↔
      Mapping.IsLast (fun key => some (normalKey key)) given text value := fun text value =>
    (Mapping.find?_ofPairs_iff hnamed).trans isLast_normal
  refine ⟨fun entry hentry => ?_, Mapping.isDistinct_ofPairs _, fun text => ?_, hlast⟩
  · have hkey := Mapping.keys_ofPairs_subset _ (List.mem_map_of_mem hentry)
    rw [List.map_map] at hkey
    obtain ⟨source, -, hsource⟩ := List.mem_map.mp hkey
    exact ⟨_, hsource.symm⟩
  · rw [Mapping.contains_eq_isSome_find?, Option.isSome_iff_exists]
    simp only [hlast, Mapping.exists_isLast_iff, Option.some.injEq]

/-! ## Options -/

/-- What options have under the key of the settings. -/
def given (settings : Settings) (entries : Mapping) : Value :=
  (Mapping.find? entries (.str settings.filtersKey)).getD .null

lemma filters_mapping (settings : Settings) (entries : Mapping) :
    filters settings (.mapping entries) =
      (read "filters" (given settings entries)).mapError (ReadFault.under settings.filtersKey) :=
  rfl

/-- What is no filter values: neither nothing at all nor a mapping, or a mapping with a key of too many
digits before any that is nested too deep. -/
def IsInvalid (value : Value) : Prop :=
  value ≠ .null ∧ ∀ inner, value = .mapping inner → firstFault? inner = some .tooManyDigits

lemma read_mapping (place : String) {inner : Mapping} (h : firstFault? inner = none) :
    read place (.mapping inner) = .ok (normalize inner) := by
  simp only [read, h]

/-- Filter values are read, or are invalid, or have a key that is nested too deep. -/
lemma read_cases (place : String) (value : Value) :
    (¬IsInvalid value ∧ (∀ inner, value = .mapping inner → firstFault? inner = none) ∧
      ∃ filters, read place value = .ok filters) ∨
    (IsInvalid value ∧ (∀ inner, value = .mapping inner → firstFault? inner ≠ some .tooDeep) ∧
      ∃ issues, read place value = .error (.invalid issues)) ∨
    ∃ inner, value = .mapping inner ∧ firstFault? inner = some .tooDeep ∧
      read place value = .error .tooDeep := by
  cases value with
  | null => exact .inl ⟨fun h => h.1 rfl, nofun, [], rfl⟩
  | mapping inner =>
      rw [read]
      cases hfault : firstFault? inner with
      | none =>
          refine .inl ⟨fun h => ?_, fun other hother => ?_, _, rfl⟩
          · cases hfault.symm.trans (h.2 inner rfl)
          · cases hother
            exact hfault
      | some fault =>
          cases fault with
          | tooManyDigits =>
              refine .inr (.inl ⟨⟨nofun, fun other hother => ?_⟩, fun other hother hdeep => ?_, _, rfl⟩)
              · cases hother
                exact hfault
              · cases hother
                cases hfault.symm.trans hdeep
          | tooDeep => exact .inr (.inr ⟨inner, rfl, hfault, rfl⟩)
  | _ => exact .inr (.inl ⟨⟨nofun, nofun⟩, nofun, _, rfl⟩)

/-- A query makes no other use of its options. -/
lemma query_congr {schema : Schema} {settings : Settings} {options options' : Value}
    (h : filters settings options = filters settings options') (base : Statement)
    (configure : Configure) :
    query schema settings base options configure =
      query schema settings base options' configure := by
  simp only [query, h]

/-- A mapping under the key of the settings, if its keys can be written, gives its normal form. -/
lemma filters_of_find {settings : Settings} {entries inner : Mapping}
    (hinner : Mapping.find? entries (.str settings.filtersKey) = some (.mapping inner))
    (hkeys : firstFault? inner = none) :
    filters settings (.mapping entries) = .ok (normalize inner) := by
  have hgiven : given settings entries = .mapping inner := by
    rw [given, hinner]
    rfl
  rw [filters_mapping, hgiven, read_mapping _ hkeys]
  rfl

/-- **Filter values from options.**  Options are refused as invalid exactly if they have something under the
key of the settings that is neither nothing nor a mapping, or a mapping of which the first key that cannot be
written has too many digits; and with another error if this key is nested too deep.  From nothing there come
no filter values, and from a mapping whose keys can be written what normal keys make of it; what stands under
other keys does not count.  Options that are read from such a mapping before mean the same to every query as
this mapping under the key of the settings. -/
theorem filters_law (settings : Settings) :
    (∀ entries : Mapping,
      ((∃ issues, filters settings (.mapping entries) =
        .error (.invalid settings.filtersKey issues)) ↔
      ∃ value, Mapping.find? entries (.str settings.filtersKey) = some value ∧ value ≠ .null ∧
        ∀ inner, value = .mapping inner → firstFault? inner = some .tooManyDigits) ∧
      (filters settings (.mapping entries) = .error .tooDeep ↔
      ∃ inner, Mapping.find? entries (.str settings.filtersKey) = some (.mapping inner) ∧
        firstFault? inner = some .tooDeep)) ∧
    (∀ entries : Mapping,
      Mapping.find? entries (.str settings.filtersKey) = none ∨
        Mapping.find? entries (.str settings.filtersKey) = some .null →
      filters settings (.mapping entries) = .ok []) ∧
    (∀ entries inner : Mapping,
      Mapping.find? entries (.str settings.filtersKey) = some (.mapping inner) →
      firstFault? inner = none →
      ∃ normal, filters settings (.mapping entries) = .ok normal ∧ Normalizes inner normal) ∧
    (∀ entries entries' : Mapping, given settings entries = given settings entries' →
      filters settings (.mapping entries) = filters settings (.mapping entries')) ∧
    (∀ inner : Mapping, firstFault? inner = none → ∃ normal,
      validate (.mapping [(.str "filters", .mapping inner)]) = .ok normal ∧
      ∀ (schema : Schema) (base : Statement) (configure : Configure),
        query schema settings base (toValue normal) configure =
          query schema settings base
            (.mapping [(.str settings.filtersKey, .mapping inner)]) configure) := by
  refine ⟨fun entries => ?_, fun entries hnothing => ?_, fun entries inner hinner hkeys => ?_,
    fun entries entries' hsame => ?_, fun inner hkeys => ?_⟩
  · rw [filters_mapping, given]
    cases hfound : Mapping.find? entries (.str settings.filtersKey) with
    | none => exact ⟨iff_of_false nofun nofun, iff_of_false nofun nofun⟩
    | some value =>
        simp only [Option.getD_some, Option.some.injEq, exists_eq_left']
        obtain ⟨hvalid, hkeys, filters, hread⟩ | ⟨hinvalid, hdeep, issues, hread⟩ |
          ⟨inner, rfl, hdeep, hread⟩ := read_cases "filters" value <;> rw [hread]
        · refine ⟨iff_of_false nofun hvalid, iff_of_false nofun ?_⟩
          rintro ⟨inner, rfl, hdeep⟩
          cases (hkeys inner rfl).symm.trans hdeep
        · refine ⟨iff_of_true ⟨issues, rfl⟩ hinvalid, iff_of_false nofun ?_⟩
          rintro ⟨inner, rfl, hfault⟩
          exact hdeep inner rfl hfault
        · refine ⟨iff_of_false nofun fun h => ?_, iff_of_true rfl ⟨inner, rfl, hdeep⟩⟩
          cases hdeep.symm.trans (h.2 inner rfl)
  · have hgiven : given settings entries = .null := by
      rcases hnothing with h | h <;> rw [given, h] <;> rfl
    rw [filters_mapping, hgiven]
    rfl
  · exact ⟨normalize inner, filters_of_find hinner hkeys, normalizes_normalize inner⟩
  · rw [filters_mapping, filters_mapping, hsame]
  · have hfind : Mapping.find? [(.str settings.filtersKey, .mapping inner)]
        (.str settings.filtersKey) = some (.mapping inner) := by
      rw [Mapping.find?_cons]
      simp [Value.text?]
    refine ⟨normalize inner, read_mapping _ hkeys, fun schema base configure =>
      query_congr ?_ base configure⟩
    rw [filters_of_find hfind hkeys]
    rfl

/-- Of the keys `1` and `'1'` the later one has the value, beside other options that do not count. -/
theorem filters_law_one : ∃ normal,
    filters .default (.mapping [(.str "page", .int 2),
      (.str "with", .mapping [(.int 1, .str "first"), (.str "1", .str "last")])]) = .ok normal ∧
    Mapping.find? normal (.str "1") = some (.str "last") := by
  obtain ⟨-, -, hmapping, -⟩ := filters_law .default
  obtain ⟨normal, hfilters, hnormal⟩ := hmapping [(.str "page", .int 2),
    (.str "with", .mapping [(.int 1, .str "first"), (.str "1", .str "last")])] _ rfl
      (by decide +kernel)
  exact ⟨normal, hfilters, (hnormal.last "1" _).mpr
    ⟨[(.int 1, .str "first")], .str "1", [], rfl, rfl, nofun⟩⟩

/-- A key with too many digits is none. -/
lemma keyFault?_of_isTooLong {number : Int} (h : Value.isTooLong number = true) :
    keyFault? (.int number) = some .tooManyDigits := by
  simp only [keyFault?, Value.writeFault?, h, if_true]

/-- **A mapping can be refused**: a whole number of too many digits becomes no text. -/
theorem not_refused_iff_no_mapping :
    ¬∀ (settings : Settings) (entries : Mapping),
      (∃ fault, filters settings (.mapping entries) = .error fault) ↔
      ∃ value, Mapping.find? entries (.str settings.filtersKey) = some value ∧
        value ≠ .null ∧ ∀ inner, value ≠ .mapping inner := by
  intro hiff
  -- the number itself is too large to calculate with
  obtain ⟨number, hlong⟩ : ∃ number : Int, Value.isTooLong number = true :=
    ⟨(Nat.pow 10 Text.digitLimit : Nat), by
      rw [Value.isTooLong, Int.natAbs_natCast]
      exact decide_eq_true (Nat.le_refl _)⟩
  have hrefused : filters .default (.mapping [(.str "with", .mapping [(.int number, .int 1)])]) =
      .error (.invalid "with" [⟨[.name "filters"], .unwrittenKey⟩]) := by
    have hgiven : given .default [(.str "with", .mapping [(.int number, .int 1)])] =
        .mapping [(.int number, .int 1)] := rfl
    rw [filters_mapping, hgiven, read, firstFault?, List.findSome?_cons, keyFault?_of_isTooLong hlong]
    rfl
  obtain ⟨value, hvalue, -, hmapping⟩ := (hiff .default _).mp ⟨_, hrefused⟩
  exact hmapping _ (Option.some.inj hvalue).symm

end FilterQuery.Options
