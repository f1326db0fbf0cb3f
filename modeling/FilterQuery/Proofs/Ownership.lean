import Mathlib.Data.List.Induction
import Mathlib.Tactic.Common
import FilterQuery.Proofs.Handlers

/-!
# Who owns the handlers

Managers come and go, are installed more than once, fail and are shut down in any order.  Through all
of this every handler that was added belongs to exactly one manager.

**Actions.**  `Action` is what can be done to logging, `State.run` does one after the other.  An action may
be broken off by a fault, which leaves half of it done (`State.breaksOff`).

**Two invariants.**  `Owned`: the handlers are the first ones and then others, each of which is on the list
of one manager.  Every action keeps it, whether it is broken off or not.  `Orderly`: besides, whatever is on
a list is attached, and only installed managers have anything on theirs.  This is kept by actions that are
not broken off, and lost by others (`not_orderly_of_brokenOff`).

**Ownership.**  `owned_of_run` says so of all states that can be reached, and that nothing is left when
all managers are shut down.

**Broken off.**  Two ways to lose order: a file behind more missing folders than can be gone through
(`configure_deep`), and a file on a full device.
-/

namespace FilterQuery.Logging

/-! ## Actions -/

/-- What can be done to logging. -/
inductive Action where
  /-- Logging is configured, where these settings hold without a configuration. -/
  | configure (usual : Settings) (configuration : Value)
  /-- A manager is made of a section of settings. -/
  | construct (part : Value)
  /-- A manager is installed. -/
  | install (id : Nat)
  | shutdown (id : Nat)
  /-- A record is handed out. -/
  | log (record : Record)

namespace State

/-- What comes of an action, whether it fails or not.  Only a manager that is there can be
installed. -/
def act (state : State) : Action → State
  | .configure usual configuration => (state.configure usual configuration).2
  | .construct part =>
    match managerSettings part with
    | .ok settings => (state.addManager settings).2
    | .error _ => state
  | .install id => if id < state.managers.length then (state.install id).2 else state
  | .shutdown id => (state.shutdown id).2
  | .log record => state.deliver record

/-- Whether an action is broken off: a handler cannot be closed, or a setup fails and is not undone. -/
def breaksOff (state : State) : Action → Bool
  | .configure usual configuration =>
    match (state.configure usual configuration).1 with
    | .ok _ => false
    | .error fault => fault.isAbrupt
  | .install id =>
    match (state.install id).1 with
    | .ok _ => false
    | .error fault => id < state.managers.length && !fault.isCaught
  | .shutdown id => !(state.shutdown id).1.isOk
  | .construct _ | .log _ => false

/-- What comes of actions, one after the other. -/
def run (state : State) (actions : List Action) : State :=
  actions.foldl act state

@[simp]
lemma run_nil (state : State) : state.run [] = state := rfl

@[simp]
lemma run_concat (state : State) (actions : List Action) (action : Action) :
    state.run (actions ++ [action]) = (state.run actions).act action := by
  rw [run, List.foldl_append]
  rfl

lemma run_append (state : State) (actions more : List Action) :
    state.run (actions ++ more) = (state.run actions).run more :=
  List.foldl_append

/-- Whether no action of a run is broken off. -/
def runsThrough (state : State) : List Action → Bool
  | [] => true
  | action :: rest => !state.breaksOff action && (state.act action).runsThrough rest

@[simp]
lemma runsThrough_cons {state : State} {action : Action} {rest : List Action} :
    state.runsThrough (action :: rest) = true ↔
      state.breaksOff action = false ∧ (state.act action).runsThrough rest = true := by
  rw [runsThrough, Bool.and_eq_true, Bool.not_eq_true']

/-- A run goes through if its first part and its second part do, by induction on the first. -/
lemma runsThrough_append {state : State} {actions more : List Action} :
    state.runsThrough (actions ++ more) = true ↔
      state.runsThrough actions = true ∧ (state.run actions).runsThrough more = true := by
  induction actions generalizing state with
  | nil => simp [runsThrough]
  | cons action rest ih =>
      rw [List.cons_append, runsThrough_cons, runsThrough_cons, ih, and_assoc]
      rfl

lemma runsThrough_concat {state : State} {actions : List Action} {action : Action} :
    state.runsThrough (actions ++ [action]) = true ↔
      state.runsThrough actions = true ∧ (state.run actions).breaksOff action = false := by
  rw [runsThrough_append, runsThrough_cons]
  simp [runsThrough]

/-- A configuration that is not broken off succeeds, or fails in another way. -/
lemma isAbrupt_eq_false {state : State} {usual : Settings} {configuration : Value}
    {fault : ConfigureFault} (h : state.breaksOff (.configure usual configuration) = false)
    (hfault : (state.configure usual configuration).1 = .error fault) : fault.isAbrupt = false := by
  rw [breaksOff, hfault] at h
  exact h

/-- A shutdown that is not broken off releases the manager. -/
lemma shutdown_of_through {state : State} {id : Nat} (h : state.breaksOff (.shutdown id) = false) :
    ∃ output, state.shutdown id = (.ok (), { state.release id with output := output }) := by
  rcases state.shutdown_cases id with hok | ⟨fault, closed, output, hrun, -⟩
  · exact hok
  · rw [breaksOff, hrun] at h
    cases h

/-- No action unmakes a manager. -/
lemma length_le_act (state : State) (action : Action) :
    state.managers.length ≤ (state.act action).managers.length := by
  cases action with
  | configure usual configuration => exact (state.length_configure usual configuration).1
  | construct part =>
      rw [act]
      cases managerSettings part with
      | ok settings => simp [addManager]
      | error fault => exact Nat.le_refl _
  | install id =>
      rw [act]
      split
      · exact Nat.le_of_eq (state.length_install id).symm
      · exact Nat.le_refl _
  | shutdown id => exact Nat.le_of_eq (state.length_shutdown id).symm
  | log record =>
      obtain ⟨output, houtput⟩ := state.deliver_eq record
      exact Nat.le_of_eq (by rw [act, houtput])

/-- Nor does a run, by induction on the actions. -/
lemma length_le_run (state : State) (actions : List Action) :
    state.managers.length ≤ (state.run actions).managers.length := by
  induction actions generalizing state with
  | nil => exact Nat.le_refl _
  | cons action rest ih => exact Nat.le_trans (state.length_le_act action) (ih (state.act action))

/-- There are no managers yet.  Handlers may be there, numbered below the next one. -/
structure IsFresh (state : State) : Prop where
  managers : state.managers = []
  current : state.current = none
  bounded : ∀ handler ∈ state.handlers, handler.id < state.nextHandler

/-- Nothing is configured at the start. -/
lemma isFresh_start (home : String) : (start home).IsFresh :=
  ⟨rfl, rfl, by simp [start]⟩

end State

/-! ## The invariant -/

/-- The handlers of a state are some first ones, which belong to no manager, and then others, each of
which is on the list of one manager.  What is on a list is numbered below the next handler. -/
structure Owned (first added : List Handler) (state : State) : Prop where
  handlers : state.handlers = first ++ added
  owner : ∀ handler ∈ added, ∃ id, state.Records id handler.id
  sole : ∀ id other number, state.Records id number → state.Records other number → id = other
  apart : ∀ handler ∈ first, ∀ id, ¬state.Records id handler.id
  bounded : ∀ handler ∈ state.handlers, handler.id < state.nextHandler
  recorded : ∀ id number, state.Records id number → number < state.nextHandler

/-- Besides, what is on a list is attached, and a manager that is not installed has nothing on its
list. -/
structure Orderly (first added : List Handler) (state : State) : Prop
    extends Owned first added state where
  attached : ∀ id number, state.Records id number → ∃ handler ∈ state.handlers, handler.id = number
  idle : ∀ id, state.isInstalled id = false → ∀ number, ¬state.Records id number

section Keeping

variable {first added new : List Handler} {state after : State} {id : Nat}

/-- Ownership is about handlers and lists only. -/
lemma Owned.congr (h : Owned first added state) (hhandlers : after.handlers = state.handlers)
    (hrecords : ∀ id number, after.Records id number ↔ state.Records id number)
    (hnext : state.nextHandler ≤ after.nextHandler) : Owned first added after where
  handlers := hhandlers.trans h.handlers
  owner := by simpa only [hrecords] using h.owner
  sole := by simpa only [hrecords] using h.sole
  apart := by simpa only [hrecords] using h.apart
  bounded := by
    rw [hhandlers]
    exact fun handler hhandler => Nat.lt_of_lt_of_le (h.bounded handler hhandler) hnext
  recorded := fun id number hnumber =>
    Nat.lt_of_lt_of_le (h.recorded id number ((hrecords id number).mp hnumber)) hnext

/-- So is order, and about who is installed. -/
lemma Orderly.congr (h : Orderly first added state) (hhandlers : after.handlers = state.handlers)
    (hmanagers : after.managers = state.managers) (hnext : state.nextHandler ≤ after.nextHandler) :
    Orderly first added after where
  toOwned := h.toOwned.congr hhandlers (fun _ _ => State.records_congr hmanagers) hnext
  attached := by
    intro id number hrecords
    rw [hhandlers]
    exact h.attached id number ((State.records_congr hmanagers).mp hrecords)
  idle := by
    intro id hidle number
    rw [State.isInstalled_congr hmanagers] at hidle
    rw [State.records_congr hmanagers]
    exact h.idle id hidle number

/-- What is written makes no difference. -/
lemma Orderly.output (h : Orderly first added state) (output : Output) :
    Orderly first added { state with output := output } :=
  h.congr rfl rfl (Nat.le_refl _)

/-- The handlers that a manager gains have not been on any list, by their numbers. -/
lemma Owned.gains (h : Owned first added state) (hgains : state.Gains id new after)
    (hid : id < state.managers.length) : Owned first (added ++ new) after where
  handlers := by rw [hgains.handlers, h.handlers, List.append_assoc]
  owner := by
    intro handler hhandler
    simp only [hgains.records hid]
    rcases List.mem_append.mp hhandler with hadded | hnew
    · obtain ⟨owner, howner⟩ := h.owner handler hadded
      exact ⟨owner, Or.inl howner⟩
    · exact ⟨id, Or.inr ⟨rfl, List.mem_map_of_mem hnew⟩⟩
  sole := by
    intro one other number hone hother
    rcases (hgains.records hid).mp hone with hone | ⟨rfl, hone⟩ <;>
      rcases (hgains.records hid).mp hother with hother | ⟨rfl, hother⟩
    · exact h.sole one other number hone hother
    · exact absurd (h.recorded _ _ hone) (Nat.not_lt.mpr (hgains.le_of_mem hother))
    · exact absurd (h.recorded _ _ hother) (Nat.not_lt.mpr (hgains.le_of_mem hone))
    · rfl
  apart := by
    intro handler hhandler other hrecords
    rcases (hgains.records hid).mp hrecords with hold | ⟨-, hnew⟩
    · exact h.apart handler hhandler other hold
    · have hlt := h.bounded handler (h.handlers ▸ List.mem_append_left added hhandler)
      exact absurd hlt (Nat.not_lt.mpr (hgains.le_of_mem hnew))
  bounded := by
    rw [hgains.handlers]
    intro handler hhandler
    rcases List.mem_append.mp hhandler with hold | hnew
    · exact Nat.lt_of_lt_of_le (h.bounded handler hold) hgains.next
    · exact (hgains.numbers handler hnew).2

  recorded := by
    intro other number hrecords
    rcases (hgains.records hid).mp hrecords with hold | ⟨-, hnew⟩
    · exact Nat.lt_of_lt_of_le (h.recorded other number hold) hgains.next
    · obtain ⟨handler, hhandler, rfl⟩ := List.mem_map.mp hnew
      exact (hgains.numbers handler hhandler).2

/-- What is taken away is on a list, so none of the first handlers is. -/
lemma Owned.filter_first (h : Owned first added state) {gone : Handler → Bool}
    (hgone : ∀ handler, gone handler = true → ∃ id, state.Records id handler.id) :
    first.filter (fun handler => !gone handler) = first := by
  rw [List.filter_eq_self]
  intro handler hhandler
  rw [Bool.not_eq_true', ← Bool.not_eq_true]
  intro hgoes
  obtain ⟨id, hrecords⟩ := hgone handler hgoes
  exact h.apart handler hhandler id hrecords

/-- A manager that is released takes its handlers with it, and nobody else's. -/
lemma Owned.release (h : Owned first added state) (id : Nat) :
    Owned first (added.filter fun handler => !state.owns id handler) (state.release id) where
  handlers := by
    show state.handlers.filter (fun handler => !state.owns id handler) = _
    rw [h.handlers, List.filter_append, h.filter_first fun _ howns => ⟨id, State.owns_iff.mp howns⟩]
  owner := by
    intro handler hhandler
    obtain ⟨hadded, howns⟩ := List.mem_filter.mp hhandler
    obtain ⟨owner, howner⟩ := h.owner handler hadded
    refine ⟨owner, State.records_release.mpr ⟨howner, ?_⟩⟩
    rintro rfl
    simp [State.owns_iff.mpr howner] at howns
  sole := by
    intro one other number hone hother
    exact h.sole one other number (State.records_release.mp hone).1
      (State.records_release.mp hother).1
  apart := by
    intro handler hhandler other hrecords
    exact h.apart handler hhandler other (State.records_release.mp hrecords).1
  bounded := fun handler hhandler => h.bounded handler (List.mem_filter.mp hhandler).1
  recorded := fun other number hrecords =>
    h.recorded other number (State.records_release.mp hrecords).1

lemma Orderly.release (h : Orderly first added state) (id : Nat) :
    Orderly first (added.filter fun handler => !state.owns id handler) (state.release id) where
  toOwned := h.toOwned.release id
  attached := by
    intro other number hrecords
    obtain ⟨hrecords, hne⟩ := State.records_release.mp hrecords
    obtain ⟨handler, hhandler, rfl⟩ := h.attached other number hrecords
    refine ⟨handler, List.mem_filter.mpr ⟨hhandler, ?_⟩, rfl⟩
    rw [Bool.not_eq_true', ← Bool.not_eq_true, State.owns_iff]
    -- no handler is on two lists, so this one stays
    exact fun hsame => hne (h.sole other id handler.id hrecords hsame)
  idle := by
    intro other hidle number hrecords
    obtain ⟨hrecords, hne⟩ := State.records_release.mp hrecords
    refine h.idle other ?_ number hrecords
    rw [← Bool.not_eq_true, State.isInstalled_release] at hidle
    rw [← Bool.not_eq_true]
    exact fun hinstalled => hidle ⟨hinstalled, hne⟩

/-- When only some of what is on a list is taken away, the lists stay; what is left still has one
owner. -/
lemma Owned.without (h : Owned first added state) {closed : List Nat}
    (hclosed : ∀ number ∈ closed, state.Records id number) (output : Output) :
    Owned first (added.filter fun handler => !closed.contains handler.id)
      (state.without closed output) where
  handlers := by
    have hrecorded : ∀ handler : Handler, closed.contains handler.id = true →
        ∃ id, state.Records id handler.id := fun handler hmem =>
      ⟨id, hclosed handler.id (List.contains_iff_mem.mp hmem)⟩
    show state.handlers.filter (fun handler => !closed.contains handler.id) = _
    rw [h.handlers, List.filter_append, h.filter_first hrecorded]
  owner := fun handler hhandler => h.owner handler (List.mem_filter.mp hhandler).1
  sole := h.sole
  apart := h.apart
  bounded := fun handler hhandler => h.bounded handler (List.mem_filter.mp hhandler).1
  recorded := h.recorded

/-- However a manager is shut down, ownership is kept. -/
lemma Owned.shutdown (h : Owned first added state) (id : Nat) :
    ∃ more, Owned first more (state.shutdown id).2 := by
  rcases state.shutdown_cases id with ⟨output, hrun⟩ | ⟨fault, closed, output, hrun, hclosed⟩ <;>
    rw [hrun]
  · exact ⟨_, (h.release id).congr rfl (fun _ _ => Iff.rfl) (Nat.le_refl _)⟩
  · exact ⟨_, h.without hclosed output⟩

/-- A new manager owns nothing. -/
lemma Owned.addManager (h : Owned first added state) (settings : Mapping) :
    Owned first added (state.addManager settings).2 :=
  h.congr rfl (fun _ _ => State.records_addManager settings) (Nat.le_refl _)

lemma Orderly.addManager (h : Orderly first added state) (settings : Mapping) :
    Orderly first added (state.addManager settings).2 where
  toOwned := h.toOwned.addManager settings
  attached := fun id number hrecords =>
    h.attached id number ((State.records_addManager settings).mp hrecords)
  idle := by
    intro id hidle number
    rw [State.isInstalled_addManager] at hidle
    rw [State.records_addManager]
    exact h.idle id hidle number

/-- Of a setup that is undone nothing is left but the root level. -/
lemma Owned.install_failed (h : Owned first added state) (hid : id < state.managers.length)
    {fault : SetupFault} (hcaught : fault.isCaught = true)
    (hrun : state.install id = (.error fault, after)) :
    after.handlers = (state.release id).handlers ∧ after.managers = (state.release id).managers ∧
      after.rootLevel = state.levelAfter (state.settingsOf id) ∧
      state.nextHandler ≤ after.nextHandler := by
  obtain ⟨new, reached, hgains, -, hcases⟩ := state.install_cases id
  rcases hcases with ⟨found, output, -, hfailed⟩ | ⟨found, closed, output, hbroken, hfailed, -⟩ |
    ⟨rendering, output, hok⟩
  · obtain ⟨hhandlers, hmanagers⟩ := hgains.release hid h.bounded
    obtain rfl := congrArg Prod.snd (hfailed.symm.trans hrun)
    exact ⟨hhandlers, hmanagers, hgains.rootLevel, hgains.next⟩
  · obtain rfl := Except.error.inj (congrArg Prod.fst (hfailed.symm.trans hrun))
    rw [hcaught] at hbroken
    cases hbroken
  · rw [hok] at hrun
    cases hrun

/-- A manager that is installed keeps the handlers that it gains, one of each kind at most. -/
lemma Orderly.install_ok (h : Orderly first added state) (hid : id < state.managers.length)
    (hrun : state.install id = (.ok (), after)) :
    ∃ new, Orderly first (added ++ new) after ∧ (new.map Handler.kind).Sublist [.console, .file] ∧
      after.current = state.current ∧
      ∀ other, after.isInstalled other = true ↔ state.isInstalled other = true ∨ other = id := by
  obtain ⟨new, reached, hgains, hkinds, hcases⟩ := state.install_cases id
  rcases hcases with ⟨found, output, -, hfailed⟩ | ⟨found, closed, output, -, hfailed, -⟩ |
    ⟨rendering, output, hok⟩
  · rw [hfailed] at hrun
    cases hrun
  · rw [hfailed] at hrun
    cases hrun
  have hlevel : Owned first added
      { state with rootLevel := state.levelAfter (state.settingsOf id) } :=
    h.toOwned.congr rfl (fun _ _ => Iff.rfl) (Nat.le_refl _)
  have hlength : id < reached.managers.length := hgains.length_managers ▸ hid
  have howned := hlevel.gains hgains hid
  obtain rfl : State.markInstalled { reached with rendering := rendering, output := output } id =
    after := congrArg Prod.snd (hok.symm.trans hrun)
  have hinstalled : ∀ other, (State.markInstalled
      { reached with rendering := rendering, output := output } id).isInstalled other = true ↔
        state.isInstalled other = true ∨ other = id := by
    intro other
    refine (State.isInstalled_markInstalled hlength).trans (or_congr_left ?_)
    rw [hgains.isInstalled]
    rfl
  have hrecords : ∀ other number, (State.markInstalled
      { reached with rendering := rendering, output := output } id).Records other number ↔
        state.Records other number ∨ other = id ∧ number ∈ new.map Handler.id := by
    intro other number
    rw [State.records_markInstalled]
    exact hgains.records hid
  refine ⟨new, ⟨howned.congr rfl (fun _ _ => State.records_markInstalled) (Nat.le_refl _), ?_, ?_⟩,
    hkinds, hgains.current, hinstalled⟩
  · intro other number hnumber
    show ∃ handler ∈ reached.handlers, handler.id = number
    rw [hgains.handlers]
    rcases (hrecords other number).mp hnumber with hold | ⟨-, hnew⟩
    · obtain ⟨handler, hhandler, hsame⟩ := h.attached other number hold
      exact ⟨handler, List.mem_append_left new hhandler, hsame⟩
    · obtain ⟨handler, hhandler, hsame⟩ := List.mem_map.mp hnew
      exact ⟨handler, List.mem_append_right _ hhandler, hsame⟩
  · intro other hidle number
    have hnot : ¬(state.isInstalled other = true ∨ other = id) := fun hor =>
      Bool.false_ne_true (hidle.symm.trans ((hinstalled other).mpr hor))
    obtain ⟨hbefore, hne⟩ := not_or.mp hnot
    rw [hrecords]
    rintro (hold | ⟨hsame, -⟩)
    · exact h.idle other (Bool.not_eq_true _ ▸ hbefore) number hold
    · exact hne hsame

/-- However installing ends, ownership is kept. -/
lemma Owned.install (h : Owned first added state) (hid : id < state.managers.length) :
    ∃ more, Owned first more (state.install id).2 := by
  have hlevel : Owned first added
      { state with rootLevel := state.levelAfter (state.settingsOf id) } :=
    h.congr rfl (fun _ _ => Iff.rfl) (Nat.le_refl _)
  obtain ⟨new, reached, hgains, -, hcases⟩ := state.install_cases id
  have hreached := hlevel.gains hgains hid
  rcases hcases with ⟨fault, output, -, hrun⟩ | ⟨fault, closed, output, -, hrun, hclosed⟩ |
    ⟨rendering, output, hrun⟩ <;> rw [hrun]
  · exact ⟨_, (hreached.release id).congr rfl (fun _ _ => Iff.rfl) (Nat.le_refl _)⟩
  · exact ⟨_, hreached.without hclosed output⟩
  · exact ⟨_, hreached.congr rfl (fun _ _ => State.records_markInstalled) (Nat.le_refl _)⟩

/-- Order is kept unless installing is broken off. -/
lemma Orderly.install (h : Orderly first added state) (hid : id < state.managers.length)
    (hthrough : ∀ fault, (state.install id).1 = .error fault → fault.isCaught = true) :
    ∃ more, Orderly first more (state.install id).2 := by
  rcases hrun : state.install id with ⟨fault | _, after⟩
  · obtain ⟨hhandlers, hmanagers, -, hnext⟩ :=
      h.toOwned.install_failed hid (hthrough fault (congrArg Prod.fst hrun)) hrun
    exact ⟨_, (h.release id).congr hhandlers hmanagers hnext⟩
  · obtain ⟨new, hnew, -⟩ := h.install_ok hid hrun
    exact ⟨_, hnew⟩

/-- However the current manager is retired, ownership is kept. -/
lemma Owned.retire (h : Owned first added state) : ∃ more, Owned first more state.retire.2 := by
  rcases state.retire_cases with ⟨-, hrun⟩ | ⟨id, -, -, hrun⟩ <;> rw [hrun]
  · exact ⟨added, h⟩
  · exact h.shutdown id

/-- If it can be retired, it is released; if it is not installed, it has nothing to give up. -/
lemma Orderly.retire_ok (h : Orderly first added state) (hrun : state.retire = (.ok (), after)) :
    (state.current = none ∧ after = state) ∨
      ∃ id output, state.current = some id ∧ after = { state.release id with output := output } := by
  rcases state.retire_cases with ⟨hidle, hretire⟩ | ⟨id, hcurrent, -, hretire⟩
  · obtain rfl := congrArg Prod.snd (hretire.symm.trans hrun)
    cases hcurrent : state.current with
    | none => exact Or.inl ⟨rfl, rfl⟩
    | some id =>
        refine Or.inr ⟨id, state.output, rfl, ?_⟩
        have hnot := hidle id hcurrent
        exact (State.release_of_idle hnot (h.idle id hnot)).symm
  · rcases state.shutdown_cases id with ⟨output, hshut⟩ | ⟨fault, closed, output, hshut, -⟩ <;>
      rw [hretire, hshut] at hrun <;> cases hrun
    exact Or.inr ⟨id, output, hcurrent, rfl⟩

lemma Orderly.retire (h : Orderly first added state) (hrun : state.retire = (.ok (), after)) :
    ∃ more, Orderly first more after := by
  rcases h.retire_ok hrun with ⟨-, rfl⟩ | ⟨id, output, -, rfl⟩
  · exact ⟨added, h⟩
  · exact ⟨_, (h.release id).output output⟩

lemma Owned.renewed (h : Owned first added state) (settings : Mapping) :
    Owned first added (state.renewed settings) :=
  (h.addManager settings).congr rfl (fun _ _ => Iff.rfl) (Nat.le_refl _)

lemma Orderly.renewed (h : Orderly first added state) (settings : Mapping) :
    Orderly first added (state.renewed settings) :=
  (h.addManager settings).congr rfl rfl (Nat.le_refl _)

/-- However logging is configured, ownership is kept. -/
lemma Owned.configure (h : Owned first added state) (usual : Settings) (configuration : Value) :
    ∃ more, Owned first more (state.configure usual configuration).2 := by
  obtain ⟨retired, hretired⟩ := h.retire
  rcases state.configure_cases usual configuration with ⟨fault, -, hrun⟩ | ⟨part, -,
    ⟨fault, reached, hretire, hrun⟩ | ⟨reached, hretire, ⟨fault, -, hrun⟩ | ⟨settings, -,
      ⟨fault, after, hinstall, hrun⟩ | ⟨after, hinstall, hrun⟩⟩⟩⟩ <;> rw [hrun]
  · exact ⟨added, h⟩
  all_goals rw [hretire] at hretired
  · exact ⟨retired, hretired⟩
  · exact ⟨retired, hretired⟩
  all_goals
    obtain ⟨more, hmore⟩ := (hretired.renewed settings).install (reached.lt_length_renewed settings)
    rw [hinstall] at hmore
    exact ⟨more, hmore⟩

/-- Order is kept unless configuring is broken off. -/
lemma Orderly.configure (h : Orderly first added state) {usual : Settings} {configuration : Value}
    (hthrough : state.breaksOff (.configure usual configuration) = false) :
    ∃ more, Orderly first more (state.configure usual configuration).2 := by
  have hnot : ∀ fault, (state.configure usual configuration).1 = .error fault →
      fault.isAbrupt = false := fun _ => State.isAbrupt_eq_false hthrough
  rcases state.configure_cases usual configuration with ⟨fault, -, hrun⟩ | ⟨part, -,
    ⟨fault, reached, hretire, hrun⟩ | ⟨reached, hretire, ⟨fault, -, hrun⟩ | ⟨settings, -,
      ⟨fault, after, hinstall, hrun⟩ | ⟨after, hinstall, hrun⟩⟩⟩⟩ <;> rw [hrun] at hnot ⊢
  · exact ⟨added, h⟩
  · cases hnot _ rfl
  all_goals obtain ⟨retired, hretired⟩ := h.retire hretire
  · exact ⟨retired, hretired⟩
  all_goals
    have hkept := (hretired.renewed settings).install (reached.lt_length_renewed settings)
    rw [hinstall] at hkept
  · refine hkept fun found hfound => ?_
    obtain rfl := Except.error.inj hfound
    simpa [ConfigureFault.isAbrupt] using hnot _ rfl
  · exact hkept nofun

/-- **One action** keeps ownership, however it ends. -/
theorem Owned.act (h : Owned first added state) (action : Action) :
    ∃ more, Owned first more (state.act action) := by
  cases action with
  | configure usual configuration => exact h.configure usual configuration
  | construct part =>
      rw [State.act]
      cases managerSettings part with
      | ok settings => exact ⟨added, h.addManager settings⟩
      | error fault => exact ⟨added, h⟩
  | install id =>
      rw [State.act]
      split_ifs with hid
      · exact h.install hid
      · exact ⟨added, h⟩
  | shutdown id => exact h.shutdown id
  | log record =>
      obtain ⟨output, houtput⟩ := state.deliver_eq record
      rw [State.act, houtput]
      exact ⟨added, h.congr rfl (fun _ _ => Iff.rfl) (Nat.le_refl _)⟩

/-- One that is not broken off keeps order. -/
theorem Orderly.act (h : Orderly first added state) {action : Action}
    (hthrough : state.breaksOff action = false) : ∃ more, Orderly first more (state.act action) := by
  cases action with
  | configure usual configuration => exact h.configure hthrough
  | construct part =>
      rw [State.act]
      cases managerSettings part with
      | ok settings => exact ⟨added, h.addManager settings⟩
      | error fault => exact ⟨added, h⟩
  | install id =>
      rw [State.act]
      split_ifs with hid
      · refine h.install hid fun fault hfault => ?_
        rw [State.breaksOff, hfault] at hthrough
        simpa [hid] using hthrough
      · exact ⟨added, h⟩
  | shutdown id =>
      obtain ⟨output, hrun⟩ := State.shutdown_of_through hthrough
      rw [State.act, hrun]
      exact ⟨_, (h.release id).output output⟩
  | log record =>
      obtain ⟨output, houtput⟩ := state.deliver_eq record
      rw [State.act, houtput]
      exact ⟨added, h.output output⟩

end Keeping

/-- Before anything is done. -/
lemma State.IsFresh.orderly {start : State} (h : start.IsFresh) :
    Orderly start.handlers [] start := by
  have hnone : ∀ id number, ¬start.Records id number := by
    rintro id number ⟨manager, hmanager, -⟩
    simp [State.manager?, h.managers] at hmanager
  refine ⟨⟨(List.append_nil _).symm, by simp, ?_, ?_, h.bounded, ?_⟩, ?_, fun id _ => hnone id⟩
  · exact fun id _ number hrecords => absurd hrecords (hnone id number)
  · exact fun _ _ id => hnone id _
  · exact fun id number hrecords => absurd hrecords (hnone id number)
  · exact fun id number hrecords => absurd hrecords (hnone id number)

/-- **A whole run** keeps ownership, by induction on the actions. -/
theorem owned_run {start : State} (hstart : start.IsFresh) (actions : List Action) :
    ∃ added, Owned start.handlers added (start.run actions) := by
  induction actions using List.reverseRecOn with
  | nil => exact ⟨[], hstart.orderly.toOwned⟩
  | append_singleton actions action ih =>
      obtain ⟨added, howned⟩ := ih
      rw [State.run_concat]
      exact howned.act action

/-- Further actions of which none is broken off keep order, by induction on them. -/
theorem Orderly.run {first added : List Handler} {state : State} (h : Orderly first added state)
    {actions : List Action} (hthrough : state.runsThrough actions = true) :
    ∃ more, Orderly first more (state.run actions) := by
  induction actions generalizing added state with
  | nil => exact ⟨added, h⟩
  | cons action rest ih =>
      obtain ⟨hfirst, hrest⟩ := State.runsThrough_cons.mp hthrough
      obtain ⟨more, hmore⟩ := h.act hfirst
      exact ih hmore hrest

/-! ## Ownership -/

/-- Shutting down managers takes away what they have on their lists, by induction on how many there
are. -/
lemma records_shutdownAll {state : State} {ids : List Nat}
    (hthrough : state.runsThrough (ids.map .shutdown) = true) {id number : Nat}
    (hrecords : (state.run (ids.map .shutdown)).Records id number) :
    id ∉ ids ∧ state.Records id number := by
  induction ids generalizing state with
  | nil => exact ⟨List.not_mem_nil, hrecords⟩
  | cons first ids ih =>
      obtain ⟨hfirst, hrest⟩ := State.runsThrough_cons.mp hthrough
      obtain ⟨hnot, hbefore⟩ := ih hrest hrecords
      obtain ⟨output, hrun⟩ := State.shutdown_of_through hfirst
      rw [State.act, hrun] at hbefore
      obtain ⟨hbefore, hne⟩ := State.records_release.mp hbefore
      exact ⟨by simp [hne, hnot], hbefore⟩

/-- **Every handler has one owner.**  Start from any handlers, and do anything to logging, any number
of times, whether it fails or not.  Then the handlers are those from the start, in their order, and
behind them others; each of the others is on the list of exactly one manager, and none of the first
is on any.  If no action was broken off, whatever is on a list is attached, and a manager that is not
installed has nothing on its list.  When all managers are shut down and no handler resists, the handlers
are those from the start again. -/
theorem owned_of_run {start : State} (hstart : start.IsFresh) (actions : List Action) :
    (∃ added, (start.run actions).handlers = start.handlers ++ added ∧
      (∀ handler ∈ added, ∃! id, (start.run actions).Records id handler.id) ∧
      ∀ handler ∈ start.handlers, ∀ id, ¬(start.run actions).Records id handler.id) ∧
    (start.runsThrough actions = true →
      (∀ id number, (start.run actions).Records id number →
        ∃ handler ∈ (start.run actions).handlers, handler.id = number) ∧
      ∀ id manager, (start.run actions).manager? id = some manager →
        manager.isInstalled = false → manager.handlers = []) ∧
    ∀ ids : List Nat, (∀ id < (start.run actions).managers.length, id ∈ ids) →
      (start.run actions).runsThrough (ids.map .shutdown) = true →
      ((start.run actions).run (ids.map .shutdown)).handlers = start.handlers := by
  obtain ⟨added, howned⟩ := owned_run hstart actions
  refine ⟨⟨added, howned.handlers, ?_, howned.apart⟩, fun hthrough => ?_, ?_⟩
  · intro handler hhandler
    obtain ⟨id, hrecords⟩ := howned.owner handler hhandler
    exact ⟨id, hrecords, fun other hother => howned.sole other id handler.id hother hrecords⟩
  · obtain ⟨more, horderly⟩ := hstart.orderly.run hthrough
    refine ⟨horderly.attached, fun id manager hmanager hidle => ?_⟩
    rw [List.eq_nil_iff_forall_not_mem]
    intro number hnumber
    refine horderly.idle id ?_ number ⟨manager, hmanager, hnumber⟩
    rw [State.isInstalled, hmanager]
    exact hidle
  · intro ids hall hthrough
    obtain ⟨more, hmore⟩ := owned_run hstart (actions ++ ids.map .shutdown)
    rw [State.run_append] at hmore
    have hnone : more = [] := by
      rw [List.eq_nil_iff_forall_not_mem]
      intro handler hhandler
      obtain ⟨id, hrecords⟩ := hmore.owner handler hhandler
      obtain ⟨hnot, manager, hmanager, -⟩ := records_shutdownAll hthrough hrecords
      exact hnot (hall id (List.getElem?_eq_some_iff.mp hmanager).1)
    rw [hmore.handlers, hnone, List.append_nil]

namespace Sample

/-- One handler is there from the start. -/
def oneHandler : State :=
  { State.start "/" with handlers := [⟨0, .console, Level.gravity .warning, .text⟩], nextHandler := 1 }

/-- Logging is configured, and then with a level that is none; a manager is installed twice. -/
def manyActions : List Action :=
  [.configure .default .null, .configure .default (.mapping [(.str "level", .str "LOUD")]),
    .construct .null, .install 2, .install 2]

lemma oneHandler_isFresh : oneHandler.IsFresh := ⟨rfl, rfl, by decide⟩

end Sample

/-- The manager that was installed twice has two handlers, which are attached; they are gone when all
managers are shut down. -/
theorem owned_of_run_many :
    (Sample.oneHandler.run Sample.manyActions).handlers.map Handler.id = [0, 2, 3] ∧
      (∀ number, (Sample.oneHandler.run Sample.manyActions).Records 2 number →
        ∃ handler ∈ (Sample.oneHandler.run Sample.manyActions).handlers, handler.id = number) ∧
      ((Sample.oneHandler.run Sample.manyActions).run ([0, 1, 2].map .shutdown)).handlers =
        Sample.oneHandler.handlers := by
  have hlength : (Sample.oneHandler.run Sample.manyActions).managers.length = 3 := by
    decide +kernel
  obtain ⟨-, hattached, hrestored⟩ := owned_of_run Sample.oneHandler_isFresh Sample.manyActions
  refine ⟨by decide +kernel, (hattached (by decide +kernel)).1 2, hrestored _ ?_ (by decide +kernel)⟩
  rw [hlength]
  decide

/-! ## Broken off -/

namespace Sample

/-- A path through so many folders. -/
def deepPath (depth : Nat) : String :=
  String.ofList ((List.replicate depth ['a', '/']).flatten ++ "x.log".toList)

/-- A path is cut at each of its folders, by induction on how many there are. -/
lemma splitOn_deep (depth : Nat) (rest : List Char) :
    ((List.replicate depth ['a', '/']).flatten ++ rest).splitOn '/' =
      List.replicate depth ['a'] ++ rest.splitOn '/' := by
  induction depth with
  | zero => rfl
  | succ depth ih =>
      rw [List.splitOn] at ih
      rw [List.replicate_succ, List.flatten_cons, List.append_assoc, List.replicate_succ]
      show ('a' :: '/' :: ((List.replicate depth ['a', '/']).flatten ++ rest)).splitOn '/' = _
      rw [List.splitOn, List.splitOnP_cons_eq_if_modifyHead, List.splitOnP_cons_eq_if_modifyHead]
      simp [ih]

lemma names_deepPath (depth : Nat) :
    Place.names (deepPath depth) = List.replicate depth "a" ++ ["x.log"] := by
  have hname : String.ofList ['a'] = "a" := rfl
  have hrest : "x.log".toList.splitOn '/' = ["x.log".toList] := by decide +kernel
  rw [Place.names, deepPath, String.toList_ofList, splitOn_deep, hrest, List.map_append,
    List.map_replicate, List.filter_append, List.filter_replicate]
  simp [hname]

/-- If the first of too many folders is missing, none is created. -/
lemma makeFolders_deepPath {disk : Disk} {depth : Nat} (hmissing : disk.node? ["a"] = none)
    (hdepth : Disk.folderLimit < depth) :
    disk.makeFolders (deepPath depth) = (disk, some .tooManyFolders) := by
  obtain ⟨less, rfl⟩ : ∃ less, depth = less + 1 := ⟨depth - 1, by omega⟩
  have hstart : Place.start (deepPath (less + 1)) = [] := by
    rw [Place.start, deepPath, String.toList_ofList]
    rfl
  have hcount : disk.missingFrom [] (List.replicate (less + 1) "a") = less + 1 := by
    have hstep : Place.step [] "a" = ["a"] := rfl
    rw [List.replicate_succ, Disk.missingFrom, hstep, hmissing, List.length_replicate]
  rw [Disk.makeFolders, names_deepPath, List.dropLast_concat, hstart, hcount, if_pos hdepth]

/-- Settings with a file at such a path. -/
def deepSettings (depth : Nat) : Mapping :=
  [(.str "file", .mapping [(.str "enabled", .bool true), (.str "path", .str (deepPath depth))])]

/-- The handler for the console is attached, and its manager is not installed. -/
def leaked (depth : Nat) : State :=
  { State.start "/home" with
    rootLevel := Level.gravity .info
    handlers := [⟨0, .console, Level.gravity .info, .json⟩]
    nextHandler := 1
    managers := [⟨deepSettings depth, [0], false⟩]
    current := some 0 }

/-- The handler for the console is attached before the folders of the file are created, and is not taken
away when there are too many of them. -/
lemma configure_deep {depth : Nat} (hdepth : Disk.folderLimit < depth) :
    (State.start "/home").configure .default (.mapping (deepSettings depth)) =
      (.error (.setup (.disk .tooManyFolders)), leaked depth) := by
  have hlevel : levelOf [] = .ok (Level.gravity .info) := by decide +kernel
  have hname : formatName [] = .ok "json" := by decide +kernel
  have hformat : Format.ofName "json" = .json := rfl
  have hmissing : (Disk.empty "/home").node? ["a"] = none := by decide
  have hretired : (State.start "/home").retire = (.ok (), State.start "/home") := rfl
  have hread : managerSettings (.mapping (deepSettings depth)) = .ok (deepSettings depth) := rfl
  have hfirst : (State.start "/home").managers.length = 0 := rfl
  have hsettings : ((State.start "/home").renewed (deepSettings depth)).settingsOf 0 =
      deepSettings depth := ((State.start "/home").renewed_new (deepSettings depth)).2.2
  have hconsole : (State.setUpConsole 0 (deepSettings depth) .json).run
      { (State.start "/home").renewed (deepSettings depth) with rootLevel := Level.gravity .info } =
        (.ok (), leaked depth) := by
    have hsection : sectionOf (deepSettings depth) "console" = .ok [] := rfl
    have henabled : (settingOr [] "enabled" (.bool true)).isTruthy = true := rfl
    simp only [State.setUpConsole, State.run_bind, State.run_reading, hsection, henabled, hlevel,
      if_true]
    rfl
  have hfile : (State.setUpFile 0 (deepSettings depth) (Level.gravity .info) .json).run
      (leaked depth) = (.error (.disk .tooManyFolders), leaked depth) :=
    State.setUpFile_of_folders rfl rfl rfl (makeFolders_deepPath hmissing hdepth)
  have hrun : (State.setUp 0 (deepSettings depth)).run
      ((State.start "/home").renewed (deepSettings depth)) =
        (.error (.disk .tooManyFolders), leaked depth) := by
    have hlevels : levelOf (deepSettings depth) = levelOf [] := rfl
    have hnames : formatName (deepSettings depth) = formatName [] := rfl
    simp only [State.setUp, State.run_bind, State.run_reading, State.run_modify, hlevels, hlevel,
      hnames, hname, hformat, hconsole, hfile]
  rw [State.configure_of_settings rfl hretired hread]
  rw [hfirst, State.install_of_fault (by rw [hsettings]; exact hrun)]
  rfl

/-- Everything is written to a full device. -/
def fullDevice : Value :=
  .mapping [(.str "level", .str "DEBUG"), (.str "format", .str "text"),
    (.str "file", .mapping [(.str "enabled", .bool true), (.str "path", .str "/dev/full")])]

end Sample

/-- **What is broken off is not orderly.**  A manager that is not installed has a handler on its list, which
is attached, when the folders of its file are too many; and a manager has handlers on its list that are not
attached, when it is shut down and its file is a full device. -/
theorem not_orderly_of_brokenOff :
    (¬∀ (start : State) (actions : List Action), start.IsFresh →
      ∀ id manager, (start.run actions).manager? id = some manager → manager.isInstalled = false →
        manager.handlers = []) ∧
    ¬∀ (start : State) (actions : List Action), start.IsFresh →
      ∀ id number, (start.run actions).Records id number →
        ∃ handler ∈ (start.run actions).handlers, handler.id = number := by
  have hstart := State.isFresh_start "/home"
  constructor
  · intro hidle
    obtain ⟨depth, hdepth⟩ : ∃ depth, Disk.folderLimit < depth := ⟨12000, by decide⟩
    have hrun : (State.start "/home").run
        [.configure .default (.mapping (Sample.deepSettings depth))] = Sample.leaked depth :=
      congrArg Prod.snd (Sample.configure_deep hdepth)
    have hnone := hidle _ [.configure .default (.mapping (Sample.deepSettings depth))] hstart 0
      ⟨Sample.deepSettings depth, [0], false⟩ (by rw [hrun]; rfl) rfl
    cases hnone
  · intro hattached
    have howned : ((State.start "/home").run [.configure .default Sample.fullDevice,
        .shutdown 0]).owns 0 ⟨1, .console, Level.gravity .debug, .text⟩ = true := by decide +kernel
    obtain ⟨handler, hhandler, -⟩ := hattached _ _ hstart 0 1 (State.owns_iff.mp howned)
    have hgone : ((State.start "/home").run
        [.configure .default Sample.fullDevice, .shutdown 0]).handlers = [] := by decide +kernel
    rw [hgone] at hhandler
    cases hhandler

end FilterQuery.Logging
