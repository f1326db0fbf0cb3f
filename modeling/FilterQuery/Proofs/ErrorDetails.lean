import Mathlib.Data.List.Nodup
import Mathlib.Tactic.Common
import FilterQuery.Details
import FilterQuery.Proofs.Mappings

/-!
# What errors have for details

The details of an error come of three parts, each put over the one before: the mapping that is passed, the
arguments that belong to the class, and all other arguments.

**Named values over a mapping.**  `Mapping.find?_putNamed` says what is found once they are put in, and
`Mapping.putNamed_eq_self_iff` when that is what was there before.

**Errors.**  Details are always such a merge (`ErrorClass.IsMerge`).  But what belongs to the class is
written into the very mapping that is passed, and null takes nothing in.  So `ErrorClass.isPure_iff`: an
error is made and leaves what is passed as it was exactly if nothing is passed, or all that would be
written is there already.
-/

namespace FilterQuery

/-! ## Named values over a mapping -/

namespace Mapping

/-- What is found under a key once named values are put over what was found there. -/
def overlaid (named : List (String × Value)) (found : Value → Option Value) (key : Value) :
    Option Value :=
  (key.text?.bind fun name => named.lookup name).or (found key)

variable {entries : Mapping} {named : List (String × Value)}

lemma putNamed_cons (entries : Mapping) (entry : String × Value) (rest : List (String × Value)) :
    putNamed entries (entry :: rest) = putNamed (insert entries (.str entry.1) entry.2) rest :=
  rfl

lemma IsDistinct.putNamed (h : IsDistinct entries) (named : List (String × Value)) :
    IsDistinct (putNamed entries named) := by
  induction named generalizing entries with
  | nil => exact h
  | cons entry rest ih => exact ih (h.insert _ _)

lemma lookup_of_mem (hnames : (named.map Prod.fst).Nodup) {entry : String × Value}
    (hentry : entry ∈ named) : named.lookup entry.1 = some entry.2 := by
  obtain ⟨before, after, rfl⟩ := List.append_of_mem hentry
  rw [List.map_append, List.map_cons, List.nodup_middle, List.nodup_cons] at hnames
  refine List.lookup_eq_some_iff.mpr ⟨before, after, rfl, fun other hother => ?_⟩
  rw [bne_iff_ne]
  intro hsame
  exact hnames.1 (List.mem_append_left _ (hsame ▸ List.mem_map_of_mem hother))

/-- What is found once named values are put in: theirs, and otherwise what was found before. -/
lemma find?_putNamed (hnames : (named.map Prod.fst).Nodup) (entries : Mapping) (key : Value) :
    find? (putNamed entries named) key = overlaid named (find? entries) key := by
  induction named generalizing entries with
  | nil => cases htext : key.text? <;> simp [overlaid, htext, putNamed, merge]
  | cons entry rest ih =>
      obtain ⟨known, value⟩ := entry
      obtain ⟨hnew, hrest⟩ := List.nodup_cons.mp hnames
      rw [putNamed_cons, ih hrest, overlaid, overlaid, find?_insert_of_text? rfl]
      cases key.text? with
      | none => simp
      | some name =>
          by_cases hname : name = known
          · subst hname
            have hnone : rest.lookup name = none := by
              rw [List.lookup_eq_none_iff]
              intro other hother
              rw [bne_iff_ne]
              rintro rfl
              exact hnew (List.mem_map.mpr ⟨other, hother, rfl⟩)
            simp [hnone]
          · simp [hname, List.lookup_cons, beq_false_of_ne hname]

lemma putNamed_eq_self_iff (hnames : (named.map Prod.fst).Nodup) :
    putNamed entries named = entries ↔
      ∀ entry ∈ named, find? entries (.str entry.1) = some entry.2 := by
  constructor
  · intro hsame entry hentry
    rw [← hsame, find?_putNamed hnames]
    simp [overlaid, Value.text?, lookup_of_mem hnames hentry]
  · intro hfound
    induction named with
    | nil => rfl
    | cons entry rest ih =>
        obtain ⟨hentry, hrest⟩ := List.forall_mem_cons.mp hfound
        rw [putNamed_cons, insert_of_find? hentry]
        exact ih (List.nodup_cons.mp hnames).2 hrest

end Mapping

/-! ## Errors -/

/-- The mapping that is passed for the details: an empty one if nothing is, or null. -/
def passedMapping : Option Value → Option Mapping
  | none => some []
  | some .null => some []
  | some (.mapping entries) => some entries
  | some _ => none

lemma getD_of_passedMapping {passed : Option Value} {base : Mapping} (hnull : passed ≠ some .null)
    (h : passedMapping passed = some base) : passed.getD (.mapping []) = .mapping base := by
  cases passed with
  | none =>
      obtain rfl := Option.some.inj h
      rfl
  | some value =>
      cases value with
      | null => exact absurd rfl hnull
      | mapping entries =>
          obtain rfl := Option.some.inj h
          rfl
      | _ => cases h

/-- Arguments by name: no name comes twice, and none belongs to an argument with a place. -/
structure AreByName (arguments : List (String × Value)) : Prop where
  nodup : (arguments.map Prod.fst).Nodup
  notPlaced : ∀ entry ∈ arguments, entry.1 ∉ placedArguments

namespace ErrorClass

/-- The details are a mapping with the arguments that belong to the class put over it, and all others put
over those. -/
structure IsMerge (errorClass : ErrorClass) (arguments : List (String × Value))
    (base details : Mapping) : Prop where
  distinct : details.IsDistinct
  found : ∀ key, details.find? key = Mapping.overlaid (errorClass.extra arguments)
    (Mapping.overlaid (errorClass.supplied arguments) base.find?) key

/-- An error with this message is made, its details are the merge, and what is passed for them is as it
was. -/
def IsPure (errorClass : ErrorClass) (message : Value) (arguments : List (String × Value))
    (base : Mapping) : Prop :=
  ∃ error, errorClass.construct message arguments = .ok error ∧ error.message = message ∧
    error.details.passed = arguments.lookup "details" ∧
    errorClass.IsMerge arguments base error.details.entries

variable {errorClass : ErrorClass} {message : Value} {arguments : List (String × Value)}
  {base : Mapping}

lemma nodup_supplied (errorClass : ErrorClass) (arguments : List (String × Value)) :
    ((errorClass.supplied arguments).map Prod.fst).Nodup := by
  have hown : errorClass.ownArguments.Nodup := by cases errorClass <;> decide
  rw [supplied, List.map_filterMap]
  refine hown.filterMap fun name other found hname hother => ?_
  simp only [Option.map_map, Option.mem_def, Option.map_eq_some_iff] at hname hother
  obtain ⟨_, -, rfl⟩ := hname
  obtain ⟨_, -, hsame⟩ := hother
  exact hsame.symm

lemma nodup_extra (h : AreByName arguments) :
    ((errorClass.extra arguments).map Prod.fst).Nodup :=
  (List.filter_sublist.map Prod.fst).nodup h.nodup

/-- Putting one part over the other is what gives the merge. -/
lemma isMerge_putNamed (h : AreByName arguments) (hbase : base.IsDistinct) :
    errorClass.IsMerge arguments base
      ((base.putNamed (errorClass.supplied arguments)).putNamed (errorClass.extra arguments)) where
  distinct := (hbase.putNamed _).putNamed _
  found key := by
    rw [Mapping.find?_putNamed (nodup_extra h)]
    exact congrArg _ (Mapping.find?_putNamed (nodup_supplied errorClass arguments) base _)

lemma foldlM_putEntry (entries : Mapping) (named : List (String × Value)) :
    named.foldlM (fun value entry => putEntry value entry.1 entry.2) (.mapping entries) =
      .ok (.mapping (entries.putNamed named)) := by
  induction named generalizing entries with
  | nil => rfl
  | cons entry rest ih => exact ih _

lemma find?_placed (h : AreByName arguments) :
    (arguments.find? fun entry => placedArguments.contains entry.1) = none := by
  simpa using h.notPlaced

/-- A mapping is written into, whether it is passed or the class's own. -/
lemma details_of_mapping (h : AreByName arguments) (hbase : base.IsDistinct)
    (hpassed : (arguments.lookup "details").getD (.mapping []) = .mapping base) :
    errorClass.details arguments =
      .ok ⟨(base.putNamed (errorClass.supplied arguments)).putNamed (errorClass.extra arguments),
        (arguments.lookup "details").map fun _ =>
          .mapping (base.putNamed (errorClass.supplied arguments))⟩ := by
  have hvalue := Mapping.ofValue_of_isDistinct (hbase.putNamed (errorClass.supplied arguments))
  simp only [details, find?_placed h, hpassed, foldlM_putEntry, bind, Except.bind]
  cases hwritten : base.putNamed (errorClass.supplied arguments) with
  | nil => rfl
  | cons entry rest =>
      rw [hwritten] at hvalue
      simp only [Value.isTruthy, List.isEmpty_cons, Bool.not_false, if_true, hvalue]
      rfl

/-- Null is left alone if there is nothing to be written. -/
lemma details_of_null (h : AreByName arguments)
    (hpassed : arguments.lookup "details" = some .null)
    (hsupplied : errorClass.supplied arguments = []) :
    errorClass.details arguments =
      .ok ⟨Mapping.putNamed [] (errorClass.extra arguments), some .null⟩ := by
  simp only [details, find?_placed h, hpassed, hsupplied]
  rfl

lemma details_of_null_of_ne (h : AreByName arguments)
    (hpassed : arguments.lookup "details" = some .null)
    (hsupplied : errorClass.supplied arguments ≠ []) :
    errorClass.details arguments = .error (.noEntries "NoneType") := by
  obtain ⟨entry, rest, hcons⟩ := List.exists_cons_of_ne_nil hsupplied
  simp only [details, find?_placed h, hpassed, hcons]
  rfl

lemma construct_of_details {details : Details} (h : errorClass.details arguments = .ok details) :
    errorClass.construct message arguments =
      .ok ⟨errorClass, message, details, errorClass.kept arguments⟩ := by
  rw [construct, h]
  rfl

lemma isPure_iff_of_details {details : Details} (h : errorClass.details arguments = .ok details) :
    errorClass.IsPure message arguments base ↔
      details.passed = arguments.lookup "details" ∧
        errorClass.IsMerge arguments base details.entries := by
  constructor
  · rintro ⟨error, herror, -, hpure⟩
    rw [construct_of_details h] at herror
    obtain rfl := Except.ok.inj herror
    exact hpure
  · exact fun hpure => ⟨_, construct_of_details h, rfl, hpure⟩

/-- A mapping that is passed stays as it was if nothing that is written into it is new. -/
lemma isPure_iff_of_mapping (h : AreByName arguments) (hbase : base.IsDistinct)
    (hpassed : (arguments.lookup "details").getD (.mapping []) = .mapping base) :
    errorClass.IsPure message arguments base ↔ arguments.lookup "details" = none ∨
      ∀ entry ∈ errorClass.supplied arguments, base.find? (.str entry.1) = some entry.2 := by
  rw [isPure_iff_of_details (details_of_mapping h hbase hpassed),
    and_iff_left (isMerge_putNamed h hbase),
    ← Mapping.putNamed_eq_self_iff (nodup_supplied errorClass arguments)]
  cases hlookup : arguments.lookup "details" with
  | none => simp
  | some value =>
      rw [hlookup] at hpassed
      simp [show value = .mapping base from hpassed]

lemma construct_of_null_of_ne (h : AreByName arguments)
    (hnull : arguments.lookup "details" = some .null)
    (hsupplied : errorClass.supplied arguments ≠ []) :
    errorClass.construct message arguments = .error (.noEntries "NoneType") := by
  rw [construct, details_of_null_of_ne h hnull hsupplied]
  rfl

/-- Null passes for an empty mapping if there is nothing to be written. -/
lemma isPure_iff_of_null (h : AreByName arguments)
    (hnull : arguments.lookup "details" = some .null) :
    errorClass.IsPure message arguments [] ↔ errorClass.supplied arguments = [] := by
  constructor
  · rintro ⟨error, herror, -⟩
    by_contra hsupplied
    rw [construct_of_null_of_ne h hnull hsupplied] at herror
    cases herror
  · intro hsupplied
    have hmerge : errorClass.IsMerge arguments [] _ := isMerge_putNamed h List.Pairwise.nil
    rw [hsupplied] at hmerge
    exact (isPure_iff_of_details (details_of_null h hnull hsupplied)).mpr ⟨hnull.symm, hmerge⟩

/-- **The details of errors.**  Whatever message, arguments and details are given, an error is made whose
details are the merge, and the mapping that is passed is as it was, exactly if none is passed or it has all
that belongs to the class already.  Otherwise null makes the construction fail, and a mapping is written
into, for the same details. -/
theorem isPure_iff (h : AreByName arguments) (hbase : base.IsDistinct)
    (hpassed : passedMapping (arguments.lookup "details") = some base) :
    (errorClass.IsPure message arguments base ↔ arguments.lookup "details" = none ∨
      ∀ entry ∈ errorClass.supplied arguments, base.find? (.str entry.1) = some entry.2) ∧
    (arguments.lookup "details" = some .null → errorClass.supplied arguments ≠ [] →
      errorClass.construct message arguments = .error (.noEntries "NoneType")) ∧
    (arguments.lookup "details" ≠ some .null →
      ∃ error, errorClass.construct message arguments = .ok error ∧ error.message = message ∧
        errorClass.IsMerge arguments base error.details.entries) := by
  by_cases hnull : arguments.lookup "details" = some .null
  · rw [hnull] at hpassed
    obtain rfl := Option.some.inj hpassed
    refine ⟨?_, construct_of_null_of_ne h, fun hother => absurd hnull hother⟩
    rw [isPure_iff_of_null h hnull, List.eq_nil_iff_forall_not_mem]
    simp [hnull, Mapping.find?]
  · have hstart := getD_of_passedMapping hnull hpassed
    exact ⟨isPure_iff_of_mapping h hbase hstart, fun hother => absurd hother hnull, fun _ =>
      ⟨_, construct_of_details (details_of_mapping h hbase hstart), rfl, isMerge_putNamed h hbase⟩⟩

/-- The operator is in the mapping already, under a key in front of which there is another. -/
theorem isPure_iff_known :
    let base : Mapping := [(.int 1, .str "x"), (.str "operator", .str "between")]
    unknownOperator.IsPure (.str "Unknown operator")
      [("operator", .str "between"), ("details", .mapping base), ("suggestion", .str "equal_to")]
      base := by
  intro base
  have hbase : base.IsDistinct :=
    List.pairwise_pair.mpr rfl
  refine (isPure_iff ⟨by decide, by decide⟩ hbase rfl).1.mpr (.inr ?_)
  exact List.forall_mem_singleton.mpr rfl

/-- With null there is no error of the class, and an empty mapping is not empty any more. -/
theorem not_isPure_of_config_key :
    ¬configuration.IsPure (.str "boom") [("config_key", .str "logging"), ("details", .null)] [] ∧
      ¬configuration.IsPure (.str "boom")
        [("config_key", .str "logging"), ("details", .mapping [])] [] := by
  constructor
  · rintro ⟨error, herror, -⟩
    cases herror
  · rintro ⟨error, herror, -, hpassed, -⟩
    cases herror
    cases hpassed

end ErrorClass

end FilterQuery
