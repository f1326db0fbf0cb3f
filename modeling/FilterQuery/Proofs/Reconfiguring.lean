import Mathlib.Data.List.Induction
import Mathlib.Tactic.Common
import FilterQuery.Proofs.Ownership

/-!
# Configuring logging again

Configuring makes a new manager current and shuts its predecessor down, before it is known whether the
new one can be installed.

**One at a time.**  `Single`: as long as managers are installed by configuring alone, none but the
current one is ever installed.  Every such action that is not broken off keeps this, and
`Single.configure_cases` says what configuring comes to then.

**What stands.**  `Standing` reads off the actions which handlers are to be there: those of the last
configuration that succeeded, if nothing was done to its manager since.  `standing_of_run` says that
these are there, and no others, unless an action is broken off (`not_standing_of_brokenOff`).

**Failing.**  `configure_failed`: what a configuration that fails does, and `not_unchanged_of_failed`
that this is not nothing.
-/

namespace FilterQuery.Logging

/-! ## One at a time -/

/-- None but the current manager is installed, with one handler of each kind at most. -/
structure Single (first added : List Handler) (state : State) : Prop
    extends Orderly first added state where
  only : ∀ id, state.isInstalled id = true → state.current = some id
  kinds : (added.map Handler.kind).Sublist [.console, .file]

/-- An action that installs no manager but by configuring. -/
def Action.IsIndirect : Action → Prop
  | .install _ => False
  | _ => True

section Steps

variable {first added : List Handler} {state after : State} {id : Nat}

/-- Where nobody is installed, there are no handlers but the first ones. -/
lemma Orderly.single_of_none (h : Orderly first added state)
    (hnone : ∀ id, state.isInstalled id = false) : Single first [] state := by
  have hnil : added = [] := by
    rw [List.eq_nil_iff_forall_not_mem]
    intro handler hhandler
    obtain ⟨id, hrecords⟩ := h.owner handler hhandler
    exact h.idle id (hnone id) handler.id hrecords
  subst hnil
  refine ⟨h, fun id hinstalled => ?_, List.nil_sublist _⟩
  rw [hnone id] at hinstalled
  cases hinstalled

/-- Releasing a manager makes no other one installed. -/
lemma Single.release (h : Single first added state) (id : Nat) :
    Single first (added.filter fun handler => !state.owns id handler) (state.release id) where
  toOrderly := h.toOrderly.release id
  only := fun other hinstalled => h.only other (State.isInstalled_release.mp hinstalled).1
  kinds := (List.filter_sublist.map _).trans h.kinds

/-- What is written makes no difference. -/
lemma Single.output (h : Single first added state) (output : Output) :
    Single first added { state with output := output } :=
  ⟨h.toOrderly.output output, h.only, h.kinds⟩

/-- A new manager is not installed. -/
lemma Single.addManager (h : Single first added state) (settings : Mapping) :
    Single first added (state.addManager settings).2 where
  toOrderly := h.toOrderly.addManager settings
  only := fun id hinstalled =>
    h.only id ((State.isInstalled_addManager settings).symm.trans hinstalled)
  kinds := h.kinds

lemma Single.deliver (h : Single first added state) (record : Record) :
    Single first added (state.deliver record) := by
  obtain ⟨output, houtput⟩ := state.deliver_eq record
  rw [houtput]
  exact h.output output

/-- Nobody is installed when the current manager is retired. -/
lemma Single.retire (h : Single first added state) (hrun : state.retire = (.ok (), after)) :
    Single first [] after ∧ ∀ id, after.isInstalled id = false := by
  have hnone : ∀ id, after.isInstalled id = false := by
    intro id
    rw [← Bool.not_eq_true]
    intro hinstalled
    rcases h.toOrderly.retire_ok hrun with ⟨hcurrent, rfl⟩ | ⟨current, output, hcurrent, rfl⟩
    · have hsame := h.only id hinstalled
      rw [hcurrent] at hsame
      cases hsame
    · obtain ⟨hbefore, hne⟩ := State.isInstalled_release.mp hinstalled
      have hsame := h.only id hbefore
      rw [hcurrent] at hsame
      exact hne (Option.some.inj hsame).symm
  obtain ⟨more, hmore⟩ := h.toOrderly.retire hrun
  exact ⟨hmore.single_of_none hnone, hnone⟩

/-- **What configuring comes to.**  It is refused, and nothing happens; or it fails later on, and nobody
is installed; or the new manager is the only one that is installed. -/
theorem Single.configure_cases (h : Single first added state) {usual : Settings}
    {configuration : Value} (hthrough : state.breaksOff (.configure usual configuration) = false) :
    ((∃ fault, loggingPart usual configuration = .error fault) ∧
      ∃ fault, state.configure usual configuration = (.error fault, state)) ∨
    (∃ part, loggingPart usual configuration = .ok part) ∧
      ((∃ fault after, state.configure usual configuration = (.error fault, after) ∧
        Single first [] after ∧ ∀ id, after.isInstalled id = false) ∨
      ∃ new after, state.configure usual configuration = (.ok state.managers.length, after) ∧
        Single first new after ∧
        ∀ id, after.isInstalled id = true ↔ id = state.managers.length) := by
  have hnot : ∀ fault, (state.configure usual configuration).1 = .error fault →
      fault.isAbrupt = false := fun _ => State.isAbrupt_eq_false hthrough
  rcases state.configure_cases usual configuration with ⟨fault, hpart, hrun⟩ | ⟨part, hpart, hcases⟩
  · exact Or.inl ⟨⟨fault, hpart⟩, fault, hrun⟩
  refine Or.inr ⟨⟨part, hpart⟩, ?_⟩
  rcases hcases with ⟨fault, reached, -, hrun⟩ | ⟨retired, hretire, hcases⟩
  · cases hnot _ (congrArg Prod.fst hrun)
  obtain ⟨hretired, hnone⟩ := h.retire hretire
  have hlength := State.length_retire hretire
  rcases hcases with ⟨fault, -, hrun⟩ | ⟨settings, -, hinstalls⟩
  · exact Or.inl ⟨_, _, hrun, hretired, hnone⟩
  have hrenewed := hretired.toOrderly.renewed settings
  have hbefore : ∀ id, (retired.renewed settings).isInstalled id = false := fun id =>
    (State.isInstalled_addManager settings).trans (hnone id)
  rcases hinstalls with ⟨fault, after, hinstall, hrun⟩ | ⟨after, hinstall, hrun⟩
  · have hcaught : fault.isCaught = true := by
      simpa [ConfigureFault.isAbrupt] using hnot _ (congrArg Prod.fst hrun)
    obtain ⟨hhandlers, hmanagers, -, hnext⟩ :=
      hrenewed.toOwned.install_failed (retired.lt_length_renewed settings) hcaught hinstall
    have horderly := (hrenewed.release retired.managers.length).congr hhandlers hmanagers hnext
    have hafter : ∀ id, after.isInstalled id = false := by
      intro id
      rw [State.isInstalled_congr hmanagers, ← Bool.not_eq_true, State.isInstalled_release, hbefore]
      simp
    exact Or.inl ⟨_, after, hrun, horderly.single_of_none hafter, hafter⟩
  · obtain ⟨new, horderly, hkinds, hcurrent, hinstalled⟩ :=
      hrenewed.install_ok (retired.lt_length_renewed settings) hinstall
    have hafter : ∀ id, after.isInstalled id = true ↔ id = state.managers.length := by
      intro id
      rw [hinstalled, hbefore, hlength]
      simp
    rw [hlength] at hrun
    refine Or.inr ⟨new, after, hrun, ⟨horderly, fun id hid => ?_, hkinds⟩, hafter⟩
    rw [hcurrent, (hafter id).mp hid, ← hlength]
    rfl

/-- **One action** keeps it so. -/
theorem Single.act (h : Single first added state) {action : Action}
    (hindirect : action.IsIndirect) (hthrough : state.breaksOff action = false) :
    ∃ more, Single first more (state.act action) := by
  cases action with
  | configure usual configuration =>
      rcases h.configure_cases hthrough with ⟨-, fault, hrun⟩ |
        ⟨-, ⟨fault, after, hrun, hafter, -⟩ | ⟨new, after, hrun, hafter, -⟩⟩ <;>
        rw [State.act, hrun]
      · exact ⟨added, h⟩
      · exact ⟨_, hafter⟩
      · exact ⟨new, hafter⟩
  | construct part =>
      rw [State.act]
      cases managerSettings part with
      | ok settings => exact ⟨added, h.addManager settings⟩
      | error fault => exact ⟨added, h⟩
  | install id => exact hindirect.elim
  | shutdown id =>
      obtain ⟨output, hrun⟩ := State.shutdown_of_through hthrough
      rw [State.act, hrun]
      exact ⟨_, (h.release id).output output⟩
  | log record => exact ⟨added, h.deliver record⟩

end Steps

/-- **A run** keeps it so, by induction on the actions. -/
theorem single_run {start : State} (hstart : start.IsFresh) {actions : List Action}
    (hindirect : ∀ action ∈ actions, action.IsIndirect)
    (hthrough : start.runsThrough actions = true) :
    ∃ added, Single start.handlers added (start.run actions) := by
  induction actions using List.reverseRecOn with
  | nil =>
      refine ⟨[], hstart.orderly.single_of_none fun id => ?_⟩
      simp [State.isInstalled, State.manager?, hstart.managers]
  | append_singleton actions action ih =>
      obtain ⟨hfirst, hlast⟩ := State.runsThrough_concat.mp hthrough
      obtain ⟨added, hsingle⟩ := ih (fun other hother =>
        hindirect other (List.mem_append_left _ hother)) hfirst
      rw [State.run_concat]
      exact hsingle.act (hindirect action (by simp)) hlast

/-! ## What stands -/

/-- An action that does nothing to an installed manager: a configuration is refused for its type, and
another manager may be shut down. -/
def Action.Spares (id : Nat) : Action → Prop
  | .configure usual configuration => ∃ fault, loggingPart usual configuration = .error fault
  | .shutdown other => other ≠ id
  | _ => True

/-- The handlers that a manager has on its list. -/
def State.handlersOf (state : State) (id : Nat) : List Handler :=
  state.handlers.filter fun handler => state.owns id handler

/-- The last configuration that succeeded made this manager and installed these handlers; it has not
been shut down since, and no configuration has got past its type. -/
def Standing (start : State) (actions : List Action) (id : Nat) (installed : List Handler) : Prop :=
  ∃ before usual configuration after, actions = before ++ .configure usual configuration :: after ∧
    ((start.run before).configure usual configuration).1 = .ok id ∧
    (∀ action ∈ after, action.Spares id) ∧
    installed = ((start.run before).configure usual configuration).2.handlersOf id

section Standings

variable {first added installed : List Handler} {start state : State} {actions : List Action}
  {action : Action} {id : Nat}

/-- What stands is spared by the next action. -/
lemma Standing.concat (h : Standing start actions id installed) (hspares : action.Spares id) :
    Standing start (actions ++ [action]) id installed := by
  obtain ⟨before, usual, configuration, after, rfl, hrun, hafter, hinstalled⟩ := h
  refine ⟨before, usual, configuration, after ++ [action], by simp, hrun, ?_, hinstalled⟩
  intro other hother
  rcases List.mem_append.mp hother with hother | hother
  · exact hafter other hother
  · rw [List.mem_singleton.mp hother]
    exact hspares

/-- Whoever is installed was just made by configuring, or was spared. -/
lemma Single.isInstalled_act (h : Single first added state) (hindirect : action.IsIndirect)
    (hthrough : state.breaksOff action = false)
    (hinstalled : (state.act action).isInstalled id = true) :
    (∃ usual configuration, action = .configure usual configuration ∧
      (state.configure usual configuration).1 = .ok id ∧ id = state.managers.length) ∨
    state.isInstalled id = true ∧ action.Spares id := by
  cases action with
  | configure usual configuration =>
      rcases h.configure_cases hthrough with ⟨hrefused, fault, hrun⟩ |
        ⟨-, ⟨fault, after, hrun, -, hnone⟩ | ⟨new, after, hrun, -, hone⟩⟩ <;>
        rw [State.act, hrun] at hinstalled
      · exact Or.inr ⟨hinstalled, hrefused⟩
      · rw [hnone id] at hinstalled
        cases hinstalled
      · obtain rfl := (hone id).mp hinstalled
        exact Or.inl ⟨usual, configuration, rfl, by rw [hrun], rfl⟩
  | construct part =>
      refine Or.inr ⟨?_, trivial⟩
      rw [State.act] at hinstalled
      cases hsettings : managerSettings part with
      | ok settings =>
          rw [hsettings] at hinstalled
          exact (State.isInstalled_addManager settings).symm.trans hinstalled
      | error fault =>
          rw [hsettings] at hinstalled
          exact hinstalled
  | install id => exact hindirect.elim
  | shutdown other =>
      obtain ⟨output, hrun⟩ := State.shutdown_of_through hthrough
      rw [State.act, hrun] at hinstalled
      obtain ⟨hbefore, hne⟩ := State.isInstalled_release.mp hinstalled
      exact Or.inr ⟨hbefore, hne.symm⟩
  | log record =>
      obtain ⟨output, houtput⟩ := state.deliver_eq record
      rw [State.act, houtput] at hinstalled
      exact Or.inr ⟨hinstalled, trivial⟩

/-- An installed manager that is spared stays what it is, and so do its handlers. -/
lemma Single.spared (h : Single first added state) (hinstalled : state.isInstalled id = true)
    (hindirect : action.IsIndirect) (hthrough : state.breaksOff action = false)
    (hspares : action.Spares id) :
    Single first added (state.act action) ∧ (state.act action).isInstalled id = true := by
  cases action with
  | configure usual configuration =>
      obtain ⟨fault, hrefused⟩ := hspares
      have hrun : state.act (.configure usual configuration) = state := by
        rw [State.act, State.configure, hrefused]
      rw [hrun]
      exact ⟨h, hinstalled⟩
  | construct part =>
      rw [State.act]
      cases managerSettings part with
      | ok settings =>
          exact ⟨h.addManager settings, (State.isInstalled_addManager settings).trans hinstalled⟩
      | error fault => exact ⟨h, hinstalled⟩
  | install id => exact hindirect.elim
  | shutdown other =>
      have hidle : state.isInstalled other = false := by
        rw [← Bool.not_eq_true]
        intro hother
        have hsame := (h.only other hother).symm.trans (h.only id hinstalled)
        exact hspares (Option.some.inj hsame)
      obtain ⟨output, hrun⟩ := State.shutdown_of_through hthrough
      rw [State.act, hrun, State.release_of_idle hidle (h.idle other hidle)]
      exact ⟨h.output output, hinstalled⟩
  | log record =>
      refine ⟨h.deliver record, ?_⟩
      obtain ⟨output, houtput⟩ := state.deliver_eq record
      rw [State.act, houtput]
      exact hinstalled

/-- All handlers but the first ones are those of the manager that is installed. -/
lemma Single.handlersOf (h : Single first added state) (hinstalled : state.isInstalled id = true) :
    state.handlersOf id = added := by
  have hfirst : (first.filter fun handler => state.owns id handler) = [] := by
    rw [List.filter_eq_nil_iff]
    intro handler hhandler howns
    exact h.apart handler hhandler id (State.owns_iff.mp howns)
  have hadded : (added.filter fun handler => state.owns id handler) = added := by
    rw [List.filter_eq_self]
    intro handler hhandler
    obtain ⟨owner, howner⟩ := h.owner handler hhandler
    have hactive : state.isInstalled owner = true := by
      rw [← Bool.not_eq_false]
      exact fun hidle => h.idle owner hidle handler.id howner
    have hsame := (h.only owner hactive).symm.trans (h.only id hinstalled)
    rw [← Option.some.inj hsame]
    exact State.owns_iff.mpr howner
  rw [State.handlersOf, h.handlers, List.filter_append, hfirst, hadded, List.nil_append]

/-- What is spared stays, by induction on the actions. -/
lemma Single.spared_run (h : Single first added state) (hinstalled : state.isInstalled id = true)
    (hindirect : ∀ action ∈ actions, action.IsIndirect)
    (hthrough : state.runsThrough actions = true)
    (hspares : ∀ action ∈ actions, action.Spares id) :
    Single first added (state.run actions) ∧ (state.run actions).isInstalled id = true := by
  induction actions generalizing state with
  | nil => exact ⟨h, hinstalled⟩
  | cons action rest ih =>
      obtain ⟨hfirst, hrest⟩ := State.runsThrough_cons.mp hthrough
      obtain ⟨hnext, hstill⟩ := h.spared hinstalled (hindirect action List.mem_cons_self) hfirst
        (hspares action List.mem_cons_self)
      exact ih hnext hstill (fun other hother => hindirect other (List.mem_cons_of_mem _ hother))
        hrest fun other hother => hspares other (List.mem_cons_of_mem _ hother)

/-- A manager that is not installed stays so, by induction on the actions: only new managers are
installed. -/
lemma Single.not_isInstalled_run (h : Single first added state) (hlt : id < state.managers.length)
    (hidle : state.isInstalled id = false) (hindirect : ∀ action ∈ actions, action.IsIndirect)
    (hthrough : state.runsThrough actions = true) : (state.run actions).isInstalled id = false := by
  induction actions generalizing added state with
  | nil => exact hidle
  | cons action rest ih =>
      obtain ⟨hgoes, hrest⟩ := State.runsThrough_cons.mp hthrough
      have hfirst := hindirect action List.mem_cons_self
      obtain ⟨more, hnext⟩ := h.act hfirst hgoes
      have hstill : (state.act action).isInstalled id = false := by
        rw [← Bool.not_eq_true]
        intro hinstalled
        rcases h.isInstalled_act hfirst hgoes hinstalled with ⟨-, -, -, -, hnew⟩ | ⟨hbefore, -⟩
        · omega
        · rw [hidle] at hbefore
          cases hbefore
      exact ih hnext (Nat.lt_of_lt_of_le hlt (state.length_le_act action)) hstill
        (fun other hother => hindirect other (List.mem_cons_of_mem _ hother)) hrest

/-- What stands is there, and there is nothing else. -/
lemma Standing.single (hstart : start.IsFresh) (hindirect : ∀ action ∈ actions, action.IsIndirect)
    (hthrough : start.runsThrough actions = true) (h : Standing start actions id installed) :
    Single start.handlers installed (start.run actions) ∧
      (start.run actions).isInstalled id = true := by
  obtain ⟨before, usual, configuration, after, rfl, hok, hspares, rfl⟩ := h
  obtain ⟨hfirst, hrest⟩ := State.runsThrough_append.mp hthrough
  obtain ⟨hgoes, hlater⟩ := State.runsThrough_cons.mp hrest
  obtain ⟨added, hbefore⟩ := single_run hstart (fun action haction =>
    hindirect action (List.mem_append_left _ haction)) hfirst
  rw [State.run_append]
  rcases hbefore.configure_cases hgoes with ⟨-, fault, hrun⟩ |
    ⟨-, ⟨fault, reached, hrun, -, -⟩ | ⟨new, reached, hrun, hreached, hone⟩⟩ <;>
    rw [hrun] at hok
  · cases hok
  · cases hok
  · have hinstalled : reached.isInstalled id = true := (hone id).mpr (Except.ok.inj hok).symm
    rw [hrun, hreached.handlersOf hinstalled]
    have hact : (start.run before).run (.configure usual configuration :: after) =
        reached.run after := congrArg (fun next => State.run next.2 after) hrun
    rw [State.act, hrun] at hlater
    rw [hact]
    exact hreached.spared_run hinstalled
      (fun action haction => hindirect action (by simp [haction])) hlater hspares

/-- Whoever is installed stands, by induction on the actions. -/
lemma standing_of_isInstalled (hstart : start.IsFresh)
    (hindirect : ∀ action ∈ actions, action.IsIndirect)
    (hthrough : start.runsThrough actions = true)
    (hinstalled : (start.run actions).isInstalled id = true) :
    ∃ installed, Standing start actions id installed := by
  induction actions using List.reverseRecOn with
  | nil => simp [State.isInstalled, State.manager?, hstart.managers] at hinstalled
  | append_singleton actions action ih =>
      have hbefore : ∀ other ∈ actions, other.IsIndirect := fun other hother =>
        hindirect other (List.mem_append_left _ hother)
      obtain ⟨hfirst, hlast⟩ := State.runsThrough_concat.mp hthrough
      obtain ⟨added, hsingle⟩ := single_run hstart hbefore hfirst
      rw [State.run_concat] at hinstalled
      rcases hsingle.isInstalled_act (hindirect action (by simp)) hlast hinstalled with
        ⟨usual, configuration, rfl, hrun, -⟩ | ⟨hold, hspares⟩
      · exact ⟨_, actions, usual, configuration, [], rfl, hrun, by simp, rfl⟩
      · obtain ⟨installed, hstanding⟩ := ih hbefore hfirst hold
        exact ⟨installed, hstanding.concat hspares⟩

/-- A manager that was made by configuring is not installed any more once another configuration has
got past its type. -/
lemma superseded_not_isInstalled {before middle after : List Action} {usual usual' : Settings}
    {configuration configuration' part : Value} (hstart : start.IsFresh)
    (hindirect : ∀ action ∈ (before ++ .configure usual configuration :: middle) ++
      .configure usual' configuration' :: after, action.IsIndirect)
    (hthrough : start.runsThrough ((before ++ .configure usual configuration :: middle) ++
      .configure usual' configuration' :: after) = true)
    (hrun : ((start.run before).configure usual configuration).1 = .ok id)
    (hpart : loggingPart usual' configuration' = .ok part) :
    (start.run ((before ++ .configure usual configuration :: middle) ++
      .configure usual' configuration' :: after)).isInstalled id = false := by
  obtain ⟨hfirst, hrest⟩ := State.runsThrough_append.mp hthrough
  obtain ⟨added, hsingle⟩ := single_run hstart (fun action haction =>
    hindirect action (List.mem_append_left _ haction)) hfirst
  have hlt : id < (start.run (before ++ .configure usual configuration :: middle)).managers.length := by
    rw [State.run_append]
    exact Nat.lt_of_lt_of_le (((start.run before).length_configure usual configuration).2 id hrun)
      (State.length_le_run _ middle)
  rw [State.run_append]
  generalize start.run (before ++ .configure usual configuration :: middle) = state
    at hsingle hlt hrest
  obtain ⟨hgoes, hremains⟩ := State.runsThrough_cons.mp hrest
  have hlater : (Action.configure usual' configuration').IsIndirect := trivial
  obtain ⟨more, hnext⟩ := hsingle.act hlater hgoes
  show ((state.act (.configure usual' configuration')).run after).isInstalled id = false
  refine hnext.not_isInstalled_run (Nat.lt_of_lt_of_le hlt (state.length_le_act _)) ?_
    (fun action haction => hindirect action ?_) hremains
  · rw [← Bool.not_eq_true]
    intro hinstalled
    rcases hsingle.isInstalled_act hlater hgoes hinstalled with
      ⟨-, -, -, -, hnew⟩ | ⟨-, fault, hrefused⟩
    · omega
    · rw [hpart] at hrefused
      cases hrefused
  · simp [haction]

end Standings

/-- **Configuring replaces.**  Start from any handlers, configure logging any number of times, whether
it fails or not, make managers and shut managers down, with nothing broken off.  Then the handlers are
those from the start and behind them those of the last configuration that succeeded, if its manager
still stands; without such a manager they are those from the start.  So at most one handler for the
console and one for a file is there besides, and a manager is not installed any more once a later
configuration has got past its type. -/
theorem standing_of_run {start : State} {actions : List Action} (hstart : start.IsFresh)
    (hindirect : ∀ action ∈ actions, action.IsIndirect)
    (hthrough : start.runsThrough actions = true) :
    (∀ id installed, Standing start actions id installed →
      (start.run actions).handlers = start.handlers ++ installed) ∧
    ((∀ id installed, ¬Standing start actions id installed) →
      (start.run actions).handlers = start.handlers) ∧
    (∃ added, (start.run actions).handlers = start.handlers ++ added ∧
      ∀ kind, (added.map Handler.kind).count kind ≤ 1) ∧
    ∀ before usual configuration after id,
      actions = before ++ .configure usual configuration :: after →
      ((start.run before).configure usual configuration).1 = .ok id →
      (∃ usual' configuration' part, .configure usual' configuration' ∈ after ∧
        loggingPart usual' configuration' = .ok part) →
      (start.run actions).isInstalled id = false := by
  obtain ⟨added, hsingle⟩ := single_run hstart hindirect hthrough
  refine ⟨fun id installed hstanding => ?_, fun hnone => ?_, ⟨added, hsingle.handlers, ?_⟩, ?_⟩
  · exact (hstanding.single hstart hindirect hthrough).1.handlers
  · have hidle : ∀ id, (start.run actions).isInstalled id = false := by
      intro id
      rw [← Bool.not_eq_true]
      intro hinstalled
      obtain ⟨installed, hstanding⟩ := standing_of_isInstalled hstart hindirect hthrough hinstalled
      exact hnone id installed hstanding
    rw [(hsingle.toOrderly.single_of_none hidle).handlers, List.append_nil]
  · intro kind
    have hcount := hsingle.kinds.count_le kind
    exact Nat.le_trans hcount (by cases kind <;> decide)
  · rintro before usual configuration after id rfl hrun ⟨usual', configuration', part, hmem, hpart⟩
    obtain ⟨middle, rest, rfl⟩ := List.append_of_mem hmem
    rw [← List.cons_append, ← List.append_assoc] at hindirect hthrough ⊢
    exact superseded_not_isInstalled hstart hindirect hthrough hrun hpart

namespace Sample

/-- A level that can be read, and in place of a section for the console something that is none. -/
def broken : Value := .mapping [(.str "level", .str "DEBUG"), (.str "console", .str "x")]

/-- Logging is configured, is not, and is configured again; what follows makes no difference. -/
def reconfigured : List Action :=
  [.configure .default .null, .configure .default broken, .configure .default .null, .shutdown 0,
    .construct .null, .configure .default (.int 42)]

/-- The handler that the third configuration installs. -/
def secondConsole : Handler := ⟨2, .console, Level.gravity .info, .json⟩

lemma standing_reconfigured : Standing oneHandler reconfigured 2 [secondConsole] := by
  refine ⟨[.configure .default .null, .configure .default broken], .default, .null,
    [.shutdown 0, .construct .null, .configure .default (.int 42)], rfl, ?_, ?_, ?_⟩
  · decide +kernel
  · simp only [List.forall_mem_cons]
    exact ⟨Nat.zero_ne_add_one 1, trivial, ⟨_, rfl⟩, by simp⟩
  · decide +kernel

end Sample

/-- The handlers are the one from the start and that of the third configuration. -/
theorem standing_of_run_reconfigured :
    (Sample.oneHandler.run Sample.reconfigured).handlers =
        Sample.oneHandler.handlers ++ [Sample.secondConsole] ∧
      (Sample.oneHandler.run Sample.reconfigured).isInstalled 0 = false := by
  have hindirect : ∀ action ∈ Sample.reconfigured, action.IsIndirect := by
    simp [Sample.reconfigured, Action.IsIndirect]
  have hlaw := standing_of_run Sample.oneHandler_isFresh hindirect (by decide +kernel)
  refine ⟨hlaw.1 _ _ Sample.standing_reconfigured, hlaw.2.2.2 [] _ _ _ 0 rfl ?_ ?_⟩
  · decide +kernel
  · exact ⟨.default, .null, _, by simp, rfl⟩

/-- **What is broken off does not stand.**  A handler is there though no configuration has succeeded, when
the folders of a file are too many; and a manager stays installed after a later configuration has got past
its type, when its file is a full device. -/
theorem not_standing_of_brokenOff :
    (¬∀ (start : State) (actions : List Action), start.IsFresh →
      (∀ action ∈ actions, action.IsIndirect) →
      (∀ id installed, ¬Standing start actions id installed) →
      (start.run actions).handlers = start.handlers) ∧
    ¬∀ (start : State) (actions : List Action), start.IsFresh →
      (∀ action ∈ actions, action.IsIndirect) →
      ∀ before usual configuration after id,
        actions = before ++ .configure usual configuration :: after →
        ((start.run before).configure usual configuration).1 = .ok id →
        (∃ usual' configuration' part, .configure usual' configuration' ∈ after ∧
          loggingPart usual' configuration' = .ok part) →
        (start.run actions).isInstalled id = false := by
  have hstart := State.isFresh_start "/home"
  constructor
  · intro hgone
    obtain ⟨depth, hdepth⟩ : ∃ depth, Disk.folderLimit < depth := ⟨12000, by decide⟩
    have hrun := Sample.configure_deep hdepth
    have hnone := hgone (State.start "/home")
      [.configure .default (.mapping (Sample.deepSettings depth))] hstart
      (by simp [Action.IsIndirect]) ?_
    · have hleaked : (State.start "/home").run
          [.configure .default (.mapping (Sample.deepSettings depth))] = Sample.leaked depth :=
        congrArg Prod.snd hrun
      rw [hleaked] at hnone
      cases hnone
    · rintro id installed ⟨before, usual, configuration, after, hactions, hok, -, -⟩
      -- the only configuration is the one that fails
      cases before with
      | nil =>
          obtain ⟨rfl, rfl⟩ := Action.configure.inj (List.cons.inj hactions).1
          rw [State.run_nil, hrun] at hok
          cases hok
      | cons action rest => simp at hactions
  · intro hidle
    have hstill : ((State.start "/home").run [.configure .default Sample.fullDevice,
        .configure .default .null]).isInstalled 0 = true := by decide +kernel
    have hended := hidle _ _ hstart (by simp [Action.IsIndirect]) [] .default Sample.fullDevice
      [.configure .default .null] 0 rfl (by decide +kernel) ⟨.default, .null, _, by simp, rfl⟩
    cases hended.symm.trans hstill

/-! ## Failing -/

section Failing

variable {first added : List Handler} {state after : State} {fault : ConfigureFault}

/-- What retiring the current manager does: if it is installed, its handlers are gone, and it is not
installed any more. -/
lemma State.retire_eq (hrun : state.retire = (.ok (), after)) :
    after.handlers = (state.handlers.filter fun handler =>
        !state.current.any fun id => state.isInstalled id && state.owns id handler) ∧
      after.rootLevel = state.rootLevel ∧
      (∀ id, state.current = some id → after.isInstalled id = false) ∧
      ∀ id, state.current ≠ some id → after.manager? id = state.manager? id := by
  rcases state.retire_cases with ⟨hidle, hretire⟩ | ⟨current, hcurrent, hinstalled, hretire⟩
  · obtain rfl := congrArg Prod.snd (hretire.symm.trans hrun)
    refine ⟨(List.filter_eq_self.mpr fun handler _ => ?_).symm, rfl, hidle, fun _ _ => rfl⟩
    cases hcurrent : state.current with
    | none => rfl
    | some current => simp [hidle current hcurrent]
  · rcases state.shutdown_cases current with ⟨output, hshut⟩ | ⟨fault, closed, output, hshut, -⟩ <;>
      rw [hretire, hshut] at hrun <;> cases hrun
    refine ⟨?_, rfl, ?_, ?_⟩
    · show state.handlers.filter (fun handler => !state.owns current handler) = _
      simp [hcurrent, hinstalled]
    · rintro id hid
      obtain rfl := Option.some.inj (hcurrent.symm.trans hid)
      rw [← Bool.not_eq_true]
      exact fun hstill => (State.isInstalled_release.mp hstill).2 rfl
    · intro id hid
      refine (State.manager?_of_modify state rfl id).trans (if_neg ?_)
      rintro rfl
      exact hid hcurrent

/-- A failed attempt to install the new manager leaves what retiring its predecessor left, and a
manager that is not installed. -/
lemma Owned.renewed_failed (h : Owned first added state) {settings : Mapping}
    {refusal : SetupFault} (hcaught : refusal.isCaught = true)
    (hrun : (state.renewed settings).install state.managers.length = (.error refusal, after)) :
    after.handlers = state.handlers ∧
      after.managers = (state.addManager settings).2.managers ∧
      after.rootLevel = state.levelAfter settings := by
  obtain ⟨hidle, hnone, hsettings⟩ := state.renewed_new settings
  obtain ⟨hhandlers, hmanagers, hlevel, -⟩ :=
    (h.renewed settings).install_failed (state.lt_length_renewed settings) hcaught hrun
  rw [State.release_of_idle hidle hnone] at hhandlers hmanagers
  rw [hsettings] at hlevel
  exact ⟨hhandlers, hmanagers, hlevel⟩

/-- A configuration that fails once it has got past its type, and is not broken off, leaves what retiring
the current manager left, but for the root level and a manager that is not installed. -/
lemma Owned.configure_retired (h : Owned first added state) {usual : Settings}
    {configuration part : Value} (hpart : loggingPart usual configuration = .ok part)
    (hrun : state.configure usual configuration = (.error fault, after))
    (habrupt : fault.isAbrupt = false) :
    ∃ retired, state.retire = (.ok (), retired) ∧
      after.handlers = retired.handlers ∧
      (∀ id, after.isInstalled id = retired.isInstalled id) ∧
      (∀ id < state.managers.length, after.manager? id = retired.manager? id) ∧
      after.rootLevel =
        match managerSettings part with
        | .ok settings => retired.levelAfter settings
        | .error _ => retired.rootLevel := by
  obtain ⟨more, hmore⟩ := h.retire
  rcases state.configure_cases usual configuration with ⟨refusal, hrefused, -⟩ |
    ⟨found, hfound, hcases⟩
  · rw [hpart] at hrefused
    cases hrefused
  obtain rfl : part = found := Except.ok.inj (hpart.symm.trans hfound)
  rcases hcases with ⟨closing, reached, -, hcase⟩ | ⟨retired, hretire, hcases⟩
  · obtain rfl := Except.error.inj (congrArg Prod.fst (hcase.symm.trans hrun))
    cases habrupt
  rw [hretire] at hmore
  refine ⟨retired, hretire, ?_⟩
  rcases hcases with ⟨refusal, hsettings, hcase⟩ | ⟨settings, hsettings, hcases⟩
  · obtain rfl : retired = after := congrArg Prod.snd (hcase.symm.trans hrun)
    rw [hsettings]
    exact ⟨rfl, fun _ => rfl, fun _ _ => rfl, rfl⟩
  rcases hcases with ⟨refusal, failed, hfailed, hcase⟩ | ⟨installed, -, hcase⟩
  · obtain rfl : failed = after := congrArg Prod.snd (hcase.symm.trans hrun)
    obtain rfl := Except.error.inj (congrArg Prod.fst (hcase.symm.trans hrun))
    have hcaught : refusal.isCaught = true := by simpa [ConfigureFault.isAbrupt] using habrupt
    obtain ⟨hhandlers, hmanagers, hlevel⟩ := hmore.renewed_failed hcaught hfailed
    rw [hsettings]
    refine ⟨hhandlers, fun id => ?_, fun id hid => ?_, hlevel⟩
    · exact (State.isInstalled_congr hmanagers).trans (State.isInstalled_addManager settings)
    · have hne : id ≠ retired.managers.length :=
        Nat.ne_of_lt ((State.length_retire hretire).symm ▸ hid)
      rw [State.manager?, hmanagers]
      exact (State.manager?_addManager settings id).trans (if_neg hne)
  · rw [hcase] at hrun
    cases hrun

/-- **A configuration that fails.**  In any state that can be reached, a configuration that is refused
for its type does nothing.  Any other that fails and is not broken off leaves the manager that was current
before not installed, and takes its handlers away if it was installed; the other handlers stay, in order,
and none is added.  The other managers are as they were, and none that is new is installed.  The root level
is the one of the new configuration if this and the name of the format can be read, else it stays. -/
theorem configure_failed {start : State} {usual : Settings} {configuration : Value}
    (hstart : start.IsFresh) (actions : List Action) (hstate : state = start.run actions)
    (hrun : state.configure usual configuration = (.error fault, after))
    (habrupt : fault.isAbrupt = false) :
    ((∃ refusal, loggingPart usual configuration = .error refusal) → after = state) ∧
    ∀ part, loggingPart usual configuration = .ok part →
      (∀ id, state.current = some id → after.isInstalled id = false) ∧
      after.handlers = (state.handlers.filter fun handler =>
        !state.current.any fun id => state.isInstalled id && state.owns id handler) ∧
      (∀ id < state.managers.length, state.current ≠ some id →
        after.manager? id = state.manager? id) ∧
      (∀ id, state.managers.length ≤ id → after.isInstalled id = false) ∧
      after.rootLevel =
        match managerSettings part with
        | .ok settings => state.levelAfter settings
        | .error _ => state.rootLevel := by
  subst hstate
  obtain ⟨added, howned⟩ := owned_run hstart actions
  generalize start.run actions = state at hrun howned ⊢
  refine ⟨?_, fun part hpart => ?_⟩
  · rintro ⟨refusal, hrefused⟩
    rw [State.configure, hrefused] at hrun
    exact (congrArg Prod.snd hrun).symm
  obtain ⟨retired, hretire, hhandlers, hinstalled, hkept, hlevel⟩ :=
    howned.configure_retired hpart hrun habrupt
  obtain ⟨hfiltered, hsame, hidle, hothers⟩ := State.retire_eq hretire
  -- retiring makes no manager, so none is there beyond those before
  have hnew : ∀ id, state.managers.length ≤ id → retired.isInstalled id = false := by
    intro id hid
    rw [← Bool.not_eq_true]
    intro hstill
    have hlt := State.lt_of_isInstalled hstill
    exact Nat.not_lt.mpr hid (State.length_retire hretire ▸ hlt)
  refine ⟨fun id hid => (hinstalled id).trans (hidle id hid), hhandlers.trans hfiltered,
    fun id hid hother => (hkept id hid).trans (hothers id hother),
    fun id hid => (hinstalled id).trans (hnew id hid), ?_⟩
  simpa only [State.levelAfter, hsame] using hlevel

end Failing

namespace Sample

/-- Logging is configured. -/
def configured : State :=
  oneHandler.run [.configure .default .null]

lemma configure_broken : configured.configure .default broken =
    (.error (.setup (.notSection "str")), (configured.configure .default broken).2) :=
  Prod.ext (by decide +kernel) rfl

end Sample

/-- With a level that can be read and no section for the console, nobody is installed, no handler is
left but the one from the start, and the level is the new one. -/
theorem configure_failed_broken :
    (Sample.configured.configure .default Sample.broken).2.isInstalled 0 = false ∧
      (Sample.configured.configure .default Sample.broken).2.isInstalled 1 = false ∧
      (Sample.configured.configure .default Sample.broken).2.handlers =
        Sample.oneHandler.handlers ∧
      (Sample.configured.configure .default Sample.broken).2.rootLevel = Level.gravity .debug := by
  have hpart : loggingPart .default Sample.broken = .ok Sample.broken := rfl
  obtain ⟨hidle, hhandlers, -, hnew, hlevel⟩ :=
    (configure_failed Sample.oneHandler_isFresh _ rfl Sample.configure_broken rfl).2 Sample.broken
      hpart
  refine ⟨hidle 0 (by decide +kernel), hnew 1 (by decide +kernel), ?_, ?_⟩
  · rw [hhandlers]
    decide +kernel
  · rw [hlevel]
    decide +kernel

/-- **A configuration that fails does change something**: handlers that were there are gone. -/
theorem not_unchanged_of_failed :
    ¬∀ (start state after : State) (actions : List Action) (usual : Settings) (configuration : Value)
      (fault : ConfigureFault), start.IsFresh → state = start.run actions →
      state.configure usual configuration = (.error fault, after) →
      after.handlers = state.handlers ∧ after.rootLevel = state.rootLevel ∧
        ∀ id, state.current = some id → after.isInstalled id = state.isInstalled id := by
  intro hunchanged
  have hsame := (hunchanged Sample.oneHandler Sample.configured _ _ .default Sample.broken _
    Sample.oneHandler_isFresh rfl Sample.configure_broken).1
  have hchanged : (Sample.configured.configure .default Sample.broken).2.handlers ≠
      Sample.configured.handlers := by
    decide +kernel
  exact hchanged hsame

end FilterQuery.Logging
