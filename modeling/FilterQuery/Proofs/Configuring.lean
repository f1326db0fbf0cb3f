import Mathlib.Tactic.Common
import FilterQuery.Failure
import FilterQuery.Proofs.Handlers

/-!
# What configuring ends in

Configuring logging gives an installed manager or an error, and of the errors the library's own is the
one that is promised.  This file says exactly when another one leaves.

**Mappings.**  `Value.DescribesMapping` says which values can be read as settings, without going through
them one by one (`Mapping.exists_ofValue_iff`).

**Setups.**  Whatever keeps a manager from being installed is an error of one of few kinds
(`SetupFault.kind_cause_mem`), and the library's own error names it as its cause, unless the setup is broken
off.

**Configurations.**  `State.configure_ends`: the current manager is shut down, and what a configuration has
for logging is read, before the setup begins.  What goes wrong there is not told as the library's own error.
-/

namespace FilterQuery

/-! ## Mappings -/

namespace Value

/-- A value can be read as an entry: it yields two things, and the first of them may be a key. -/
def IsEntry (value : Value) : Prop :=
  ∃ key held, value.items? = some [key, held] ∧ key.unhashable? = none

/-- A value can be read as a mapping: it is one, or all that it yields can be read as entries. -/
def DescribesMapping : Value → Prop
  | mapping _ => True
  | value => ∃ items, value.items? = some items ∧ ∀ item ∈ items, item.IsEntry

end Value

namespace Mapping

/-- Items are put into a mapping just if each is an entry, by induction on the items. -/
lemma exists_addPairs_iff {entries : Mapping} {place : Nat} {items : List Value} :
    (∃ found, addPairs entries place items = .ok found) ↔ ∀ item ∈ items, item.IsEntry := by
  induction items generalizing entries place with
  | nil => simp [addPairs]
  | cons item rest ih =>
      rw [List.forall_mem_cons]
      by_cases hentry : item.IsEntry
      · obtain ⟨key, held, hitems, hkey⟩ := hentry
        simp only [addPairs, hitems, hkey, ih]
        exact ⟨fun h => ⟨⟨key, held, hitems, hkey⟩, h⟩, And.right⟩
      · refine iff_of_false ?_ fun h => hentry h.1
        rintro ⟨found, h⟩
        rw [addPairs] at h
        split at h
        · cases h
        · rename_i key held hitems
          split at h
          · cases h
          · rename_i hkey
            exact hentry ⟨key, held, hitems, hkey⟩
        · cases h

/-- So a value is read as a mapping just if it describes one. -/
lemma exists_ofValue_iff {value : Value} :
    (∃ entries, ofValue value = .ok entries) ↔ value.DescribesMapping := by
  cases value with
  | mapping entries => simp [ofValue, update, Value.DescribesMapping]
  | _ =>
    simp only [ofValue, update, Value.DescribesMapping]
    generalize Value.items? _ = found
    cases found with
    | none => simp
    | some items => simp [exists_addPairs_iff]

end Mapping

lemma MappingFault.kind_report_mem (fault : MappingFault) :
    fault.report.kind ∈ ["TypeError", "ValueError"] := by
  cases fault <;> simp [report]

namespace Logging

/-! ## Setups -/

/-- The kinds of errors that the library's own is made of when a setup fails. -/
def caughtErrors : List String :=
  ["OSError", "FileExistsError", "FileNotFoundError", "IsADirectoryError", "NotADirectoryError",
    "ValueError", "TypeError", "AttributeError"]

/-- The kinds of the errors that are told as they are met. -/
def passedErrors : List String :=
  ["TypeError", "ValueError", "OSError", "RecursionError"]

/-- A fault that is caught is an error of one of the first kinds, one that is not of one of the others. -/
lemma SetupFault.kind_cause_mem (fault : SetupFault) :
    fault.cause.kind ∈ if fault.isCaught then caughtErrors else passedErrors := by
  cases fault with
  | setting fault =>
      rcases fault with - | - | - | (- | -) <;> simp [cause, isCaught, SettingFault.report,
        Value.WriteFault.report, notIntegerReport, tooManyDigitsReport, caughtErrors, passedErrors]
  | disk fault =>
      cases fault <;> simp [cause, isCaught, DiskFault.report, caughtErrors, passedErrors]
  | closing => simp [cause, isCaught, DiskFault.report, passedErrors]
  | _ => simp [cause, isCaught, caughtErrors]

/-- What configuring fails with is told as the library's own error, made of an error that is caught or of
none, or it is told as it is met; the latter if it cannot be read as settings, or breaks configuring off. -/
lemma ConfigureFault.report_cases (fault : ConfigureFault) :
    (fault.report.kind = "ConfigurationError" ∧ fault.isAbrupt = false ∧
      (∀ found, fault ≠ .settings found) ∧
      ∀ cause, fault.report.cause = some cause → cause ∈ caughtErrors) ∨
    (fault.report.kind ∈ passedErrors ∧ (fault.isAbrupt = true ∨ ∃ found, fault = .settings found)) := by
  cases fault with
  | unsupported type => exact Or.inl ⟨rfl, rfl, nofun, nofun⟩
  | settings found =>
      refine Or.inr ⟨?_, Or.inr ⟨found, rfl⟩⟩
      have hmem : found.report.kind ∈ ["TypeError", "ValueError"] := found.kind_report_mem
      exact List.mem_append_left ["OSError", "RecursionError"] hmem
  | closing => exact Or.inr ⟨by simp [report, DiskFault.report, passedErrors], Or.inl rfl⟩
  | setup found =>
      have hkind := found.kind_cause_mem
      cases hcaught : found.isCaught with
      | true =>
          rw [hcaught, if_pos rfl] at hkind
          refine Or.inl ⟨?_, ?_, nofun, fun cause hcause => ?_⟩
          · rw [report, SetupFault.report, if_pos hcaught]
            rfl
          · simp [isAbrupt, hcaught]
          · rw [report, SetupFault.report, if_pos hcaught] at hcause
            obtain rfl := Option.some.inj hcause
            exact hkind
      | false =>
          rw [hcaught] at hkind
          refine Or.inr ⟨?_, Or.inl (by simp [isAbrupt, hcaught])⟩
          simpa [report, SetupFault.report, hcaught] using hkind

/-- So the library's own error is told unless configuring is broken off or settings cannot be read. -/
lemma ConfigureFault.kind_report_ne_iff (fault : ConfigureFault) :
    fault.report.kind ≠ "ConfigurationError" ↔
      fault.isAbrupt = true ∨ ∃ found, fault = .settings found := by
  rcases fault.report_cases with ⟨hkind, hgoes, hread, -⟩ | ⟨hkind, hreason⟩
  · refine iff_of_false (fun hne => hne hkind) ?_
    rintro (habrupt | ⟨found, hfound⟩)
    · rw [hgoes] at habrupt
      cases habrupt
    · exact hread found hfound
  · refine iff_of_true (fun hsame => ?_) hreason
    rw [hsame] at hkind
    simp [passedErrors] at hkind

/-! ## Configurations -/

/-- What a configuration has for logging: the entry of a mapping, or the field of settings. -/
def given? : Value → Option Value
  | .mapping entries => Mapping.find? entries (.str "logging")
  | .record "IndexQueryConfig" fields => fields.lookup "logging"
  | _ => none

/-- What a configuration has for logging is what counts. -/
lemma loggingPart_of_given {configuration part : Value} (usual : Settings)
    (h : given? configuration = some part) : loggingPart usual configuration = .ok part := by
  unfold given? at h
  split at h
  · rw [loggingPart, h]
    rfl
  · rw [loggingPart, h]
    rfl
  · cases h

/-- Otherwise a mapping counts, or nothing. -/
lemma given_of_loggingPart {usual : Settings} {configuration part : Value}
    (h : loggingPart usual configuration = .ok part) :
    given? configuration = some part ∨ part.isTruthy = false ∨ part.DescribesMapping := by
  unfold loggingPart at h
  split at h
  · cases h
    exact Or.inr (Or.inr trivial)
  · rename_i fields
    cases hfield : fields.lookup "logging" with
    | none =>
        rw [hfield] at h
        cases h
        exact Or.inr (Or.inl rfl)
    | some found =>
        rw [hfield] at h
        cases h
        exact Or.inl hfield
  · rename_i entries
    cases hentry : Mapping.find? entries (.str "logging") with
    | none =>
        rw [hentry] at h
        cases h
        exact Or.inr (Or.inr trivial)
    | some found =>
        rw [hentry] at h
        cases h
        exact Or.inl hentry
  · cases h

/-- A configuration in which there is nothing to read for logging is refused for its type. -/
lemma loggingPart_eq_error {usual : Settings} {configuration : Value} {fault : ConfigureFault}
    (h : loggingPart usual configuration = .error fault) :
    fault = .unsupported configuration.typeName := by
  unfold loggingPart at h
  split at h <;> cases h
  rfl

/-- What counts as true has to describe a mapping. -/
lemma exists_managerSettings_eq_error_iff {part : Value} :
    (∃ fault, managerSettings part = .error fault) ↔
      part.isTruthy = true ∧ ¬part.DescribesMapping := by
  rw [managerSettings, ← Mapping.exists_ofValue_iff]
  cases part.isTruthy with
  | false => simp
  | true => cases Mapping.ofValue part <;> simp

namespace State

/-- A manager that is returned is installed and is the current one. -/
lemma isInstalled_of_configure {state after : State} {usual : Settings} {configuration : Value}
    {id : Nat} (h : state.configure usual configuration = (.ok id, after)) :
    after.isInstalled id = true ∧ after.current = some id := by
  obtain ⟨_, -, hrun⟩ | ⟨_, -, ⟨_, _, -, hrun⟩ | ⟨retired, -, ⟨_, -, hrun⟩ | ⟨settings, -,
    ⟨_, _, -, hrun⟩ | ⟨_, hinstall, hrun⟩⟩⟩⟩ := state.configure_cases usual configuration <;>
    cases hrun.symm.trans h
  obtain ⟨new, reached, hgains, -, hcases⟩ :=
    (retired.renewed settings).install_cases retired.managers.length
  rcases hcases with ⟨fault, output, -, hfailed⟩ | ⟨fault, closed, output, -, hfailed, -⟩ |
    ⟨rendering, output, hok⟩
  · cases hfailed.symm.trans hinstall
  · cases hfailed.symm.trans hinstall
  · obtain rfl := congrArg Prod.snd (hok.symm.trans hinstall)
    have hlt : retired.managers.length < reached.managers.length :=
      hgains.length_managers ▸ retired.lt_length_renewed settings
    exact ⟨(isInstalled_markInstalled hlt).mpr (Or.inr rfl), hgains.current⟩

/-- **What configuring ends in.**  A manager that is returned is installed and is the current one.  The
error is the library's own, unless one of three things happens once the configuration has got past its
type: the current manager is installed and a handler of it keeps something back; or a mapping or settings
have something for logging that counts as true and describes no mapping; or the setup of the new manager is
broken off.  These are told as they are met.  Whatever else keeps logging from being configured is of a
kind that the library's own error is made of, which names that kind. -/
theorem configure_ends (state : State) (usual : Settings) (configuration : Value) :
    let result := state.configure usual configuration
    (∀ id, result.1 = .ok id → result.2.isInstalled id = true ∧ result.2.current = some id) ∧
    ((∃ fault, result.1 = .error fault ∧ fault.report.kind ≠ "ConfigurationError") ↔
      ((∃ part, loggingPart usual configuration = .ok part) ∧
        ∃ id, state.current = some id ∧ state.isInstalled id = true ∧ state.KeepsBack id) ∨
      (∃ part, given? configuration = some part ∧ part.isTruthy = true ∧ ¬part.DescribesMapping) ∨
      ∃ part settings fault, loggingPart usual configuration = .ok part ∧
        managerSettings part = .ok settings ∧
        ((state.retire.2.renewed settings).install state.retire.2.managers.length).1 = .error fault ∧
        fault.isCaught = false) ∧
    ∀ fault, result.1 = .error fault →
      (fault.report.kind = "ConfigurationError" ∧
        ∀ cause, fault.report.cause = some cause → cause ∈ caughtErrors) ∨
      fault.report.kind ∈ passedErrors := by
  refine ⟨fun id h => isInstalled_of_configure (Prod.ext h rfl), ⟨?_, ?_⟩, fun fault _ => ?_⟩
  · rintro ⟨fault, hfault, hkind⟩
    rw [fault.kind_report_ne_iff] at hkind
    obtain ⟨found, hpart, hrun⟩ | ⟨part, hpart, ⟨found, retired, hretire, hrun⟩ | ⟨retired, hretire,
      ⟨found, hsettings, hrun⟩ | ⟨settings, hsettings, ⟨found, after, hinstall, hrun⟩ |
        ⟨after, -, hrun⟩⟩⟩⟩ := state.configure_cases usual configuration <;>
      cases (congrArg Prod.fst hrun).symm.trans hfault
    · obtain rfl := loggingPart_eq_error hpart
      simp [ConfigureFault.isAbrupt] at hkind
    · exact Or.inl ⟨⟨part, hpart⟩, retire_eq_error_iff.mp ⟨found, congrArg Prod.fst hretire⟩⟩
    · obtain ⟨htruthy, hnot⟩ := exists_managerSettings_eq_error_iff.mp ⟨found, hsettings⟩
      obtain hgiven | hfalsy | hdescribes := given_of_loggingPart hpart
      · exact Or.inr (Or.inl ⟨part, hgiven, htruthy, hnot⟩)
      · simp [htruthy] at hfalsy
      · exact absurd hdescribes hnot
    · have hbroken : found.isCaught = false := by simpa [ConfigureFault.isAbrupt] using hkind
      refine Or.inr (Or.inr ⟨part, settings, found, hpart, hsettings, ?_, hbroken⟩)
      rw [hretire, hinstall]
  · intro hreason
    obtain ⟨part, hpart⟩ : ∃ part, loggingPart usual configuration = .ok part := by
      rcases hreason with ⟨hpart, -⟩ | ⟨part, hgiven, -⟩ | ⟨part, -, -, hpart, -⟩
      · exact hpart
      · exact ⟨part, loggingPart_of_given usual hgiven⟩
      · exact ⟨part, hpart⟩
    rcases hretire : state.retire with ⟨found | _, retired⟩
    · exact ⟨.closing, congrArg Prod.fst (configure_of_closing hpart hretire),
        (ConfigureFault.kind_report_ne_iff _).mpr (Or.inl rfl)⟩
    rcases hreason with ⟨-, hkeeps⟩ | ⟨given, hgiven, hbad⟩ |
      ⟨found, settings, fault, hfound, hsettings, hinstall, hbroken⟩
    · obtain ⟨fault, hfault⟩ := retire_eq_error_iff.mpr hkeeps
      rw [hretire] at hfault
      cases hfault
    · obtain rfl := Except.ok.inj ((loggingPart_of_given usual hgiven).symm.trans hpart)
      obtain ⟨fault, hsettings⟩ := exists_managerSettings_eq_error_iff.mpr hbad
      exact ⟨.settings fault, congrArg Prod.fst (configure_of_unread hpart hretire hsettings),
        (ConfigureFault.kind_report_ne_iff _).mpr (Or.inr ⟨fault, rfl⟩)⟩
    · obtain rfl := Except.ok.inj (hfound.symm.trans hpart)
      rw [hretire] at hinstall
      refine ⟨.setup fault, ?_, (ConfigureFault.kind_report_ne_iff _).mpr (Or.inl ?_)⟩
      · rw [configure_of_settings hpart hretire hsettings,
          show State.install _ _ = (.error fault, _) from Prod.ext hinstall rfl]
      · simp [ConfigureFault.isAbrupt, hbroken]
  · rcases fault.report_cases with ⟨hkind, -, -, hcause⟩ | ⟨hkind, -⟩
    · exact Or.inl ⟨hkind, hcause⟩
    · exact Or.inr hkind

/-- A number in place of the settings of logging. -/
theorem not_configuration_error_of_int :
    ∃ fault, ((start "/home").configure .default (.mapping [(.str "logging", .int 5)])).1 =
      .error fault ∧ fault.report.kind = "TypeError" :=
  ⟨.settings (.notIterable "int"), rfl, rfl⟩

end State

end Logging

end FilterQuery
