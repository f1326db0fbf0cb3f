import Mathlib.Tactic.Common
import FilterQuery.Logging.Manager

/-!
# Handlers and their managers

What the steps of logging do to the list of handlers and to the lists of the managers.

**Lists.**  `State.Records`: a manager has a handler on its list.  Releasing a manager from what it
owns, adding one and marking one as installed are calculated with this.

**Shutting down.**  `shutdown_cases`: a manager is released (`State.release`), or a handler cannot be closed
and only some are gone (`State.without`).

**Setting up.**  `State.Gains` is what a setup may do: attach new handlers and put them on the list of
its manager.  `Attaches` bounds their kinds, and is closed under everything that setups are made of.

**Installing.**  `install_cases`: a manager is installed with the handlers that it gains, or what it
gained is taken away again, or this is broken off.  `Gains.release` says that nothing is left in the second
case but the root level.

**Configuring.**  `configure_cases` are the ways in which logging is configured, or is not.
-/

namespace FilterQuery.Logging

/-- A handler writes to the console, or to a file. -/
inductive Kind where
  | console
  | file
  deriving DecidableEq

/-- Where a handler writes. -/
def Handler.kind (handler : Handler) : Kind :=
  match handler.target with
  | .console => .console
  | .file .. => .file

/-- Whether a fault breaks configuring off: the current manager is neither shut down nor left alone, or the
new one is neither installed nor shut down. -/
def ConfigureFault.isAbrupt : ConfigureFault → Bool
  | closing => true
  | setup fault => !fault.isCaught
  | _ => false

namespace State

/-! ## Lists -/

section Lists

variable {state after : State} {id other number : Nat}

/-- A manager has the handler of a number on its list. -/
def Records (state : State) (id number : Nat) : Prop :=
  ∃ manager, state.manager? id = some manager ∧ number ∈ manager.handlers

/-- Whether a handler is on the list of a manager. -/
def owns (state : State) (id : Nat) (handler : Handler) : Bool :=
  (((state.manager? id).map Manager.handlers).getD []).contains handler.id

@[simp]
lemma owns_iff {handler : Handler} : state.owns id handler = true ↔ state.Records id handler.id := by
  rw [owns, Records]
  cases state.manager? id <;> simp

lemma isInstalled_iff : state.isInstalled id = true ↔
    ∃ manager, state.manager? id = some manager ∧ manager.isInstalled = true := by
  rw [isInstalled]
  cases state.manager? id <;> simp

/-- A manager that is there has a number below the number of managers. -/
lemma lt_of_isInstalled (h : state.isInstalled id = true) : id < state.managers.length := by
  obtain ⟨manager, hmanager, -⟩ := isInstalled_iff.mp h
  exact (List.getElem?_eq_some_iff.mp hmanager).1

/-- The managers after one of them has been changed. -/
lemma manager?_of_modify (state : State) {change : Manager → Manager}
    (h : after.managers = state.managers.modify id change) (other : Nat) :
    after.manager? other =
      if id = other then (state.manager? other).map change else state.manager? other := by
  rw [manager?, h, List.getElem?_modify, manager?]
  split <;> cases state.managers[other]? <;> rfl

/-- The lists are those of the managers. -/
lemma records_congr (h : after.managers = state.managers) :
    after.Records id number ↔ state.Records id number := by
  rw [Records, manager?, h]
  rfl

lemma isInstalled_congr (h : after.managers = state.managers) :
    after.isInstalled id = state.isInstalled id := by
  rw [isInstalled, manager?, h]
  rfl

/-- The state without what a manager owns; the manager is not installed any more. -/
def release (state : State) (id : Nat) : State :=
  { state with
    handlers := state.handlers.filter fun handler => !state.owns id handler }.modifyManager id
      fun manager => { manager with handlers := [], isInstalled := false }

/-- A manager that is released gives up its handlers, and no other does. -/
@[simp]
lemma records_release :
    (state.release id).Records other number ↔ state.Records other number ∧ other ≠ id := by
  rw [Records, manager?_of_modify state rfl]
  by_cases hid : id = other
  · simp [hid]
  · simp [hid, Records, Ne.symm hid]

@[simp]
lemma isInstalled_release : (state.release id).isInstalled other = true ↔
    state.isInstalled other = true ∧ other ≠ id := by
  rw [isInstalled_iff, isInstalled_iff, manager?_of_modify state rfl]
  by_cases hid : id = other
  · simp [hid]
  · simp [hid, Ne.symm hid]

/-- Releasing a manager that is not installed and has nothing on its list does nothing. -/
lemma release_of_idle (hinstalled : state.isInstalled id = false)
    (hnone : ∀ number, ¬state.Records id number) : state.release id = state := by
  have hhandlers : (state.release id).handlers = state.handlers := by
    show state.handlers.filter (fun handler => !state.owns id handler) = state.handlers
    rw [List.filter_eq_self]
    intro handler _
    simp [← Bool.not_eq_true, hnone]
  have hmanagers : (state.release id).managers = state.managers := by
    refine List.ext_getElem? fun other => ?_
    have hmodified : (state.release id).manager? other = _ := manager?_of_modify state rfl other
    rw [manager?, manager?] at hmodified
    rw [hmodified]
    split
    · subst id
      cases hmanager : state.managers[other]? with
      | none => rfl
      | some manager =>
          have hlist : manager.handlers = [] := by
            rw [List.eq_nil_iff_forall_not_mem]
            exact fun number hnumber => hnone number ⟨manager, hmanager, hnumber⟩
          have hflag : manager.isInstalled = false := by
            simpa [isInstalled, manager?, hmanager] using hinstalled
          rw [Option.map_some, ← hlist, ← hflag]
    · rfl
  calc state.release id
      = { state with
          handlers := (state.release id).handlers, managers := (state.release id).managers } := rfl
    _ = state := by rw [hhandlers, hmanagers]

/-- A manager that is added has nothing on its list and is not installed. -/
lemma manager?_addManager (settings : Mapping) (id : Nat) :
    (state.addManager settings).2.manager? id =
      if id = state.managers.length then some (.new settings) else state.manager? id := by
  rw [manager?, manager?, addManager, List.getElem?_append]
  split_ifs with hlt heq heq
  · omega
  · rfl
  · simp [heq]
  · rw [List.getElem?_eq_none (by simp; omega), List.getElem?_eq_none (by omega)]

@[simp]
lemma records_addManager (settings : Mapping) :
    (state.addManager settings).2.Records id number ↔ state.Records id number := by
  rw [Records, manager?_addManager]
  split_ifs with hid
  · subst hid
    simp [Records, manager?, Manager.new]
  · rfl

@[simp]
lemma isInstalled_addManager (settings : Mapping) :
    (state.addManager settings).2.isInstalled id = state.isInstalled id := by
  rw [isInstalled, manager?_addManager]
  split_ifs with hid
  · subst hid
    simp [isInstalled, manager?, Manager.new]
  · rfl

/-- Marks a manager as installed. -/
def markInstalled (state : State) (id : Nat) : State :=
  state.modifyManager id fun manager => { manager with isInstalled := true }

@[simp]
lemma records_markInstalled :
    (state.markInstalled id).Records other number ↔ state.Records other number := by
  rw [Records, manager?_of_modify state rfl]
  by_cases hid : id = other
  · simp [hid, Records]
  · simp [hid, Records]

@[simp]
lemma isInstalled_markInstalled (hid : id < state.managers.length) :
    (state.markInstalled id).isInstalled other = true ↔
      state.isInstalled other = true ∨ other = id := by
  rw [isInstalled_iff, isInstalled_iff, manager?_of_modify state rfl]
  by_cases hother : id = other
  · subst hother
    simp [manager?, hid]
  · simp [hother, Ne.symm hother]

/-- A record that is handed out changes nothing but the output. -/
lemma deliver_eq (state : State) (record : Record) :
    ∃ output, state.deliver record = { state with output := output } := by
  rw [deliver]
  split
  · exact ⟨_, rfl⟩
  · exact ⟨state.output, rfl⟩

end Lists

/-! ## Shutting down -/

section ShuttingDown

variable {state : State} {id : Nat}

/-- The state without some handlers. -/
def without (state : State) (closed : List Nat) (output : Output) : State :=
  { state with
    handlers := state.handlers.filter fun handler => !closed.contains handler.id
    output := output }

lemma without_nil (state : State) (output : Output) :
    state.without [] output = { state with output := output } := by
  rw [without, List.filter_eq_self.mpr (by simp)]

lemma without_cons (state : State) (number : Nat) (closed : List Nat) (output : Output) :
    state.without (number :: closed) output =
      (State.without { state with handlers := state.handlers.filter (·.id != number) } closed
        output) := by
  simp only [without, List.filter_filter]
  congr 2
  funext handler
  rw [List.contains_cons, Bool.not_or, Bool.and_comm]
  rfl

/-- Handlers are closed in order, by induction on them: all, or those before one that cannot be closed,
and that one. -/
lemma closeAll_cases (state : State) (numbers : List Nat) :
    ∃ closed output, (state.closeAll numbers).2 = state.without closed output ∧ closed <+: numbers ∧
      ((state.closeAll numbers).1 = .ok () → closed = numbers) := by
  induction numbers generalizing state with
  | nil => exact ⟨[], state.output, (without_nil state _).symm, List.prefix_rfl, fun _ => rfl⟩
  | cons number rest ih =>
      rw [closeAll]
      rcases state.output.finish number with ⟨fault | _, output⟩
      · refine ⟨[number], output, ?_, by simp, by simp⟩
        rw [without_cons, without_nil]
      · obtain ⟨closed, last, hleft, hprefix, hall⟩ := ih
          { state with handlers := state.handlers.filter (·.id != number), output := output }
        refine ⟨number :: closed, last, hleft.trans ?_, by simpa using hprefix, fun hok => ?_⟩
        · rw [without_cons]
          rfl
        · rw [hall hok]

/-- **A manager is shut down**: it is released, or a handler on its list cannot be closed and nothing else
happens than that some of them are gone. -/
theorem shutdown_cases (state : State) (id : Nat) :
    (∃ output, state.shutdown id = (.ok (), { state.release id with output := output })) ∨
    ∃ fault closed output, state.shutdown id = (.error fault, state.without closed output) ∧
      ∀ number ∈ closed, state.Records id number := by
  obtain ⟨closed, output, hleft, hprefix, hall⟩ :=
    state.closeAll_cases (((state.manager? id).map Manager.handlers).getD [])
  rw [shutdown]
  rcases hrun : state.closeAll (((state.manager? id).map Manager.handlers).getD []) with
    ⟨fault | _, left⟩ <;> rw [hrun] at hleft hall <;> obtain rfl := hleft
  · refine Or.inr ⟨fault, closed, output, rfl, fun number hnumber => ?_⟩
    have hlisted := hprefix.subset hnumber
    rw [Records]
    cases hmanager : state.manager? id <;> simp_all
  · obtain rfl := hall rfl
    exact Or.inl ⟨output, rfl⟩

/-- A handler of a manager keeps back what its file has not taken. -/
def KeepsBack (state : State) (id : Nat) : Prop :=
  ∃ number, state.Records id number ∧ number ∈ state.output.pending

/-- Closing handlers fails just if one of them keeps something back, by induction on them: closing those
before it makes no difference to it. -/
lemma closeAll_eq_error_iff {numbers : List Nat} :
    (∃ fault, (state.closeAll numbers).1 = .error fault) ↔
      ∃ number ∈ numbers, number ∈ state.output.pending := by
  induction numbers generalizing state with
  | nil => simp [closeAll]
  | cons number rest ih =>
      rw [closeAll]
      by_cases hpending : number ∈ state.output.pending
      · simp [Output.finish, hpending]
      · have hkept : state.output.pending.filter (· != number) = state.output.pending :=
          List.filter_eq_self.mpr fun other hother => bne_iff_ne.mpr fun hsame =>
            hpending (hsame ▸ hother)
        simp [Output.finish, hpending, hkept, ih]

/-- A manager can be shut down unless a handler of it keeps something back. -/
lemma shutdown_eq_error_iff :
    (∃ fault, (state.shutdown id).1 = .error fault) ↔ state.KeepsBack id := by
  have hsame : (state.shutdown id).1 =
      (state.closeAll (((state.manager? id).map Manager.handlers).getD [])).1 := by
    rw [shutdown]
    split <;> simp [*]
  rw [hsame, closeAll_eq_error_iff, KeepsBack]
  simp only [Records]
  cases state.manager? id <;> simp

/-- Shutting a manager down unmakes none. -/
lemma length_shutdown (state : State) (id : Nat) :
    (state.shutdown id).2.managers.length = state.managers.length := by
  rcases state.shutdown_cases id with ⟨output, hrun⟩ | ⟨fault, closed, output, hrun, -⟩ <;> rw [hrun]
  · exact List.length_modify ..
  · rfl

end ShuttingDown

/-! ## Setting up -/

/-- What a setup may do to handlers and managers: attach new handlers, and put them on the list of its
manager. -/
structure Gains (state : State) (id : Nat) (new : List Handler) (after : State) : Prop where
  handlers : after.handlers = state.handlers ++ new
  managers : after.managers = state.managers.modify id fun manager =>
    { manager with handlers := manager.handlers ++ new.map Handler.id }
  current : after.current = state.current
  rootLevel : after.rootLevel = state.rootLevel
  next : state.nextHandler ≤ after.nextHandler
  numbers : ∀ handler ∈ new, state.nextHandler ≤ handler.id ∧ handler.id < after.nextHandler

namespace Gains

variable {state middle after : State} {id other number : Nat} {new more : List Handler}

/-- Nothing new. -/
lemma refl (state : State) (id : Nat) (output : Output) :
    state.Gains id [] { state with output := output } where
  handlers := (List.append_nil _).symm
  managers := by
    simp only [List.map_nil, List.append_nil]
    exact (List.modify_id id state.managers).symm
  current := rfl
  rootLevel := rfl
  next := Nat.le_refl _
  numbers := by simp

/-- Something new, and then more. -/
lemma trans (h : state.Gains id new middle) (h' : middle.Gains id more after) :
    state.Gains id (new ++ more) after where
  handlers := by rw [h'.handlers, h.handlers, List.append_assoc]
  managers := by
    rw [h'.managers, h.managers, List.modify_modify_eq]
    congr 1
    funext manager
    simp
  current := h'.current.trans h.current
  rootLevel := h'.rootLevel.trans h.rootLevel
  next := Nat.le_trans h.next h'.next
  numbers := by
    intro handler hhandler
    rcases List.mem_append.mp hhandler with hnew | hmore
    · have hnumber := h.numbers handler hnew
      have hnext := h'.next
      omega
    · have hnumber := h'.numbers handler hmore
      have hnext := h.next
      omega

/-- There are as many managers as before. -/
lemma length_managers (h : state.Gains id new after) :
    after.managers.length = state.managers.length := by
  rw [h.managers, List.length_modify]

/-- The new handlers are numbered from the next one on. -/
lemma le_of_mem (h : state.Gains id new after) (hnumber : number ∈ new.map Handler.id) :
    state.nextHandler ≤ number := by
  obtain ⟨handler, hhandler, rfl⟩ := List.mem_map.mp hnumber
  exact (h.numbers handler hhandler).1

/-- The new handlers are on the list of the manager. -/
lemma records (h : state.Gains id new after) (hid : id < state.managers.length) :
    after.Records other number ↔
      state.Records other number ∨ other = id ∧ number ∈ new.map Handler.id := by
  rw [Records, manager?_of_modify state h.managers]
  by_cases hother : id = other
  · subst hother
    simp [Records, manager?, hid]
  · simp [hother, Ne.symm hother, Records]

lemma isInstalled (h : state.Gains id new after) :
    after.isInstalled other = state.isInstalled other := by
  rw [State.isInstalled, manager?_of_modify state h.managers, State.isInstalled]
  split <;> cases state.manager? other <;> rfl

/-- What was gained is taken away by releasing the manager. -/
lemma release (h : state.Gains id new after) (hid : id < state.managers.length)
    (hbounded : ∀ handler ∈ state.handlers, handler.id < state.nextHandler) :
    (after.release id).handlers = (state.release id).handlers ∧
      (after.release id).managers = (state.release id).managers := by
  constructor
  · have hold : ∀ handler ∈ state.handlers, after.owns id handler = state.owns id handler := by
      intro handler hhandler
      have hnew : handler.id ∉ new.map Handler.id := fun hmem =>
        Nat.not_lt.mpr (h.le_of_mem hmem) (hbounded handler hhandler)
      rw [Bool.eq_iff_iff, owns_iff, owns_iff, h.records hid]
      simp [hnew]
    have hgained : new.filter (fun handler => !after.owns id handler) = [] := by
      rw [List.filter_eq_nil_iff]
      intro handler hhandler
      have howns : after.owns id handler = true :=
        owns_iff.mpr ((h.records hid).mpr (Or.inr ⟨rfl, List.mem_map_of_mem hhandler⟩))
      simp [howns]
    show after.handlers.filter (fun handler => !after.owns id handler) =
      state.handlers.filter fun handler => !state.owns id handler
    rw [h.handlers, List.filter_append, hgained, List.append_nil]
    exact List.filter_congr fun handler hhandler => by rw [hold handler hhandler]
  · show after.managers.modify id _ = state.managers.modify id _
    rw [h.managers, List.modify_modify_eq]
    rfl

end Gains

/-- A handler that is attached is gained. -/
lemma gains_attach (id : Nat) (output : Output) (target : Target) (level : Int) (format : Format)
    (state : State) :
    state.Gains id [⟨state.nextHandler, target, level, format⟩]
      ({ state with output := output }.attach id target level format) where
  handlers := rfl
  managers := rfl
  current := rfl
  rootLevel := rfl
  next := Nat.le_succ _
  numbers := by
    intro handler hhandler
    obtain rfl := List.mem_singleton.mp hhandler
    exact ⟨Nat.le_refl _, Nat.lt_succ_self _⟩

section Setups

variable {α β : Type} {id : Nat} {kinds more : List Kind}

/-- What comes second goes on from where the first came to, or does not run at all. -/
lemma run_bind (x : Setup α) (f : α → Setup β) (state : State) :
    (x >>= f).run state =
      match x.run state with
      | (.ok a, reached) => (f a).run reached
      | (.error fault, reached) => (.error fault, reached) := by
  show (ExceptT.bindCont f (x.run state).1 : StateM State _) (x.run state).2 = _
  rcases x.run state with ⟨_ | a, reached⟩ <;> rfl

lemma run_get (state : State) : (get : Setup State).run state = (.ok state, state) := rfl

lemma run_modify (change : State → State) (state : State) :
    (modify change : Setup PUnit).run state = (.ok ⟨⟩, change state) := rfl

lemma run_reading (result : Except SetupFault α) (state : State) :
    (reading result).run state = (result, state) := rfl

/-- Whether it fails or not, a setup does nothing to handlers and managers but attach handlers of a
manager: handlers of these kinds, in this order, some of them possibly left out. -/
def Attaches (id : Nat) (kinds : List Kind) (x : Setup α) : Prop :=
  ∀ state : State, ∃ new, state.Gains id new (x.run state).2 ∧ (new.map Handler.kind).Sublist kinds

namespace Attaches

/-- Nothing is attached. -/
lemma of_output {x : Setup α} (h : ∀ state : State, ∃ output,
    (x.run state).2 = { state with output := output }) : Attaches id kinds x := by
  intro state
  obtain ⟨output, houtput⟩ := h state
  rw [houtput]
  exact ⟨[], .refl state id output, List.nil_sublist kinds⟩

lemma of_pure (a : α) : Attaches id kinds (pure a) := of_output fun state => ⟨state.output, rfl⟩

/-- One after the other. -/
lemma bind {x : Setup α} {f : α → Setup β} (h : Attaches id kinds x)
    (hf : ∀ a, Attaches id more (f a)) : Attaches id (kinds ++ more) (x >>= f) := by
  intro state
  obtain ⟨new, hgains, hkinds⟩ := h state
  rw [run_bind]
  rcases hx : x.run state with ⟨fault | a, reached⟩
  · rw [hx] at hgains
    exact ⟨new, hgains, hkinds.trans (List.sublist_append_left _ _)⟩
  · rw [hx] at hgains
    obtain ⟨next, hnext, hmore⟩ := hf a reached
    refine ⟨new ++ next, hgains.trans hnext, ?_⟩
    rw [List.map_append]
    exact hkinds.append hmore

/-- What is read from settings attaches nothing. -/
lemma of_reading {f : α → Setup β} (result : Except SetupFault α)
    (hf : ∀ a, Attaches id kinds (f a)) : Attaches id kinds (reading result >>= f) := by
  have hreading : Attaches id [] (reading result) := of_output fun state => ⟨state.output, rfl⟩
  exact hreading.bind hf

/-- Nor does a change of the disk. -/
lemma of_onDisk {f : Unit → Setup β} (change : Disk → Disk × Option DiskFault)
    (hf : ∀ a, Attaches id kinds (f a)) : Attaches id kinds (onDisk change >>= f) := by
  have hchange : Attaches id [] (onDisk change) := by
    refine of_output fun state => ?_
    rcases hdisk : change state.output.disk with ⟨disk, _ | fault⟩ <;>
      exact ⟨{ state.output with disk := disk }, by
        simp only [onDisk, run_bind, run_get, hdisk]; rfl⟩
  exact hchange.bind hf

end Attaches

/-- The console gets one handler at most. -/
lemma attaches_setUpConsole (id : Nat) (settings : Mapping) (format : Format) :
    Attaches id [.console] (setUpConsole id settings format) := by
  refine Attaches.of_reading _ fun console => ?_
  split
  · refine Attaches.of_reading _ fun level state => ?_
    exact ⟨_, gains_attach id state.output .console level format state, List.Sublist.refl _⟩
  · exact .of_pure ()

/-- And so does a file. -/
lemma attaches_setUpFile (id : Nat) (settings : Mapping) (level : Int) (format : Format) :
    Attaches id [.file] (setUpFile id settings level format) := by
  refine Attaches.of_reading _ fun file => ?_
  split
  · refine Attaches.of_reading _ fun path => Attaches.of_onDisk _ fun _ =>
      Attaches.of_reading _ fun rotation => Attaches.of_reading _ fun retention state => ?_
    simp only [run_bind, run_get]
    cases state.output.disk.openFile path with
    | error fault => exact ⟨[], .refl state id state.output, List.nil_sublist _⟩
    | ok opened =>
        exact ⟨_, gains_attach id _ (.file (Place.ofPath path) rotation retention) level format state,
          List.Sublist.refl _⟩
  · exact .of_pure ()

/-- Folders that cannot be created end the setup of a file. -/
lemma setUpFile_of_folders {settings file : Mapping} {level : Int} {format : Format} {path : String}
    {state : State} {disk : Disk} {fault : DiskFault} (hfile : sectionOf settings "file" = .ok file)
    (henabled : (settingOr file "enabled" (.bool false)).isTruthy = true)
    (hpath : pathOf (settingOr file "path" (.str "logs/indexquery.log")) = .ok path)
    (hfolders : state.output.disk.makeFolders path = (disk, some fault)) :
    (setUpFile id settings level format).run state =
      (.error (.disk fault), { state with output := { state.output with disk := disk } }) := by
  simp only [setUpFile, onDisk, run_bind, run_reading, run_get, hfile, henabled, if_true, hpath,
    hfolders]
  rfl

/-! ## Installing -/

/-- The settings of a manager. -/
def settingsOf (state : State) (id : Nat) : Mapping :=
  ((state.manager? id).map Manager.settings).getD []

/-- The root level that these settings ask for; it stays unless the level and the name of the format can
be read. -/
def levelAfter (state : State) (settings : Mapping) : Int :=
  match levelOf settings, formatName settings with
  | .ok level, .ok _ => level
  | _, _ => state.rootLevel

/-- What a manager gains when it is set up, whether that fails or not. -/
lemma setUp_cases (id : Nat) (settings : Mapping) (state : State) :
    ∃ new reached,
      { state with rootLevel := state.levelAfter settings }.Gains id new reached ∧
      (new.map Handler.kind).Sublist [.console, .file] ∧
      ((∃ fault, (setUp id settings).run state = (.error fault, reached)) ∨
        ∃ name rendering, (setUp id settings).run state =
          (.ok name, { reached with rendering := rendering }.markInstalled id)) := by
  rw [levelAfter, setUp]
  cases levelOf settings with
  | error fault =>
      refine ⟨[], state, .refl state id state.output, List.nil_sublist _, Or.inl ⟨fault, ?_⟩⟩
      simp only [run_bind, run_reading]
  | ok level =>
  cases formatName settings with
  | error fault =>
      refine ⟨[], state, .refl state id state.output, List.nil_sublist _, Or.inl ⟨fault, ?_⟩⟩
      simp only [run_bind, run_reading]
  | ok name =>
      simp only [run_bind, run_reading, run_modify]
      generalize Format.ofName name = format
      obtain ⟨new, hgains, hkinds⟩ := (attaches_setUpConsole id settings format).bind
        (fun _ => attaches_setUpFile id settings level format) { state with rootLevel := level }
      rw [run_bind] at hgains
      rcases hconsole : (setUpConsole id settings format).run { state with rootLevel := level } with
        ⟨fault | _, middle⟩ <;> rw [hconsole] at hgains
      · exact ⟨new, middle, hgains, hkinds, Or.inl ⟨fault, rfl⟩⟩
      dsimp only at hgains ⊢
      rcases hfile : (setUpFile id settings level format).run middle with ⟨fault | _, reached⟩ <;>
        rw [hfile] at hgains
      · exact ⟨new, reached, hgains, hkinds, Or.inl ⟨fault, rfl⟩⟩
      · exact ⟨new, reached, hgains, hkinds, Or.inr ⟨name, some format, rfl⟩⟩

/-- A setup that fails is undone if the fault is caught. -/
lemma install_of_fault {state reached : State} {fault : SetupFault}
    (h : (setUp id (state.settingsOf id)).run state = (.error fault, reached)) :
    state.install id = reached.undo id fault := by
  have hrun : (setUp id (((state.manager? id).map Manager.settings).getD [])).run.run state =
      (.error fault, reached) := h
  rw [install, hrun]

/-- One that does not is told. -/
lemma install_of_setUp {state reached : State} {name : String}
    (h : (setUp id (state.settingsOf id)).run state = (.ok name, reached)) :
    state.install id = (.ok (), reached.deliver (configuredRecord name)) := by
  have hrun : (setUp id (((state.manager? id).map Manager.settings).getD [])).run.run state =
      (.ok name, reached) := h
  rw [install, hrun]

/-- Undoing releases the manager, or is broken off. -/
lemma undo_cases (state : State) (id : Nat) (fault : SetupFault) :
    (fault.isCaught = true ∧
      ∃ output, state.undo id fault = (.error fault, { state.release id with output := output })) ∨
    ∃ trouble closed output, trouble.isCaught = false ∧
      state.undo id fault = (.error trouble, state.without closed output) ∧
      ∀ number ∈ closed, state.Records id number := by
  rw [undo]
  split_ifs with hcaught
  · rcases state.shutdown_cases id with ⟨output, hrun⟩ | ⟨trouble, closed, output, hrun, hclosed⟩ <;>
      rw [hrun]
    · exact Or.inl ⟨hcaught, output, rfl⟩
    · exact Or.inr ⟨.closing, closed, output, rfl, rfl, hclosed⟩
  · refine Or.inr ⟨fault, [], state.output, Bool.not_eq_true _ ▸ hcaught, ?_, by simp⟩
    rw [without_nil]

/-- **A manager is installed** with what it has gained, or what it has gained is taken away again, or
this is broken off. -/
theorem install_cases (state : State) (id : Nat) :
    ∃ new reached,
      { state with rootLevel := state.levelAfter (state.settingsOf id) }.Gains id new reached ∧
      (new.map Handler.kind).Sublist [.console, .file] ∧
      ((∃ fault output, fault.isCaught = true ∧
          state.install id = (.error fault, { reached.release id with output := output })) ∨
        (∃ fault closed output, fault.isCaught = false ∧
          state.install id = (.error fault, reached.without closed output) ∧
          ∀ number ∈ closed, reached.Records id number) ∨
        ∃ rendering output, state.install id =
          (.ok (), { reached with rendering := rendering, output := output }.markInstalled id)) := by
  obtain ⟨new, reached, hgains, hkinds, ⟨fault, hrun⟩ | ⟨name, rendering, hrun⟩⟩ :=
    setUp_cases id (state.settingsOf id) state
  · refine ⟨new, reached, hgains, hkinds, ?_⟩
    rw [install_of_fault hrun]
    rcases reached.undo_cases id fault with ⟨hcaught, output, hundo⟩ |
      ⟨trouble, closed, output, hbroken, hundo, hclosed⟩
    · exact Or.inl ⟨fault, output, hcaught, hundo⟩
    · exact Or.inr (Or.inl ⟨trouble, closed, output, hbroken, hundo, hclosed⟩)
  · obtain ⟨output, houtput⟩ := deliver_eq ({ reached with rendering := rendering }.markInstalled id)
      (configuredRecord name)
    refine ⟨new, reached, hgains, hkinds, Or.inr (Or.inr ⟨rendering, output, ?_⟩)⟩
    exact (install_of_setUp hrun).trans (congrArg (Prod.mk _) houtput)

/-- Installing makes no manager. -/
lemma length_install (state : State) (id : Nat) :
    (state.install id).2.managers.length = state.managers.length := by
  obtain ⟨new, reached, hgains, -, hcases⟩ := state.install_cases id
  rcases hcases with ⟨fault, output, -, hrun⟩ | ⟨fault, closed, output, -, hrun, -⟩ |
    ⟨rendering, output, hrun⟩ <;> rw [hrun]
  · exact (List.length_modify ..).trans hgains.length_managers
  · exact hgains.length_managers
  · exact (List.length_modify ..).trans hgains.length_managers

end Setups

/-! ## Configuring -/

section Configuring

variable {state : State} {id : Nat}

/-- Retiring is shutting the current manager down, if it is installed. -/
lemma retire_cases (state : State) :
    ((∀ id, state.current = some id → state.isInstalled id = false) ∧
      state.retire = (.ok (), state)) ∨
    ∃ id, state.current = some id ∧ state.isInstalled id = true ∧
      state.retire = state.shutdown id := by
  rw [retire]
  cases state.current with
  | none => exact Or.inl ⟨by simp, rfl⟩
  | some id =>
      dsimp only
      split_ifs with hinstalled
      · exact Or.inr ⟨id, rfl, hinstalled, rfl⟩
      · refine Or.inl ⟨?_, rfl⟩
        rintro other hother
        obtain rfl := Option.some.inj hother
        exact Bool.not_eq_true _ ▸ hinstalled

/-- The current manager can be retired unless it is installed and a handler of it keeps something
back. -/
lemma retire_eq_error_iff : (∃ fault, state.retire.1 = .error fault) ↔
    ∃ id, state.current = some id ∧ state.isInstalled id = true ∧ state.KeepsBack id := by
  rcases state.retire_cases with ⟨hidle, hrun⟩ | ⟨id, hcurrent, hinstalled, hrun⟩ <;> rw [hrun]
  · refine iff_of_false (by simp) ?_
    rintro ⟨id, hcurrent, hinstalled, -⟩
    rw [hidle id hcurrent] at hinstalled
    cases hinstalled
  · rw [shutdown_eq_error_iff]
    simp [hcurrent, hinstalled]

/-- There are as many managers as before. -/
lemma length_retire {retired : State} {outcome : Except DiskFault Unit}
    (h : state.retire = (outcome, retired)) :
    retired.managers.length = state.managers.length := by
  obtain rfl : state.retire.2 = retired := congrArg Prod.snd h
  rcases state.retire_cases with ⟨-, hrun⟩ | ⟨id, -, -, hrun⟩ <;> rw [hrun]
  exact state.length_shutdown id

/-- A new manager is there and is the current one. -/
def renewed (state : State) (settings : Mapping) : State :=
  { (state.addManager settings).2 with current := some state.managers.length }

/-- The new manager is not installed, has nothing on its list, and has these settings. -/
lemma renewed_new (state : State) (settings : Mapping) :
    (state.renewed settings).isInstalled state.managers.length = false ∧
      (∀ number, ¬(state.renewed settings).Records state.managers.length number) ∧
      (state.renewed settings).settingsOf state.managers.length = settings := by
  have hnew : (state.renewed settings).manager? state.managers.length = some (.new settings) := by
    refine (manager?_addManager settings _).trans ?_
    rw [if_pos rfl]
  refine ⟨?_, ?_, ?_⟩
  · rw [isInstalled, hnew]
    rfl
  · rintro number ⟨manager, hmanager, hnumber⟩
    obtain rfl := Option.some.inj (hnew.symm.trans hmanager)
    cases hnumber
  · rw [settingsOf, hnew]
    rfl

lemma lt_length_renewed (state : State) (settings : Mapping) :
    state.managers.length < (state.renewed settings).managers.length := by
  simp [renewed, addManager]

variable {retired : State} {usual : Settings} {configuration part : Value}

/-- A predecessor that cannot be shut down stops configuring. -/
lemma configure_of_closing {fault : DiskFault} (hpart : loggingPart usual configuration = .ok part)
    (hretired : state.retire = (.error fault, retired)) :
    state.configure usual configuration = (.error .closing, retired) := by
  rw [configure, hpart]
  dsimp only
  rw [hretired]

/-- So do settings that cannot be read, when the predecessor is retired. -/
lemma configure_of_unread {fault : MappingFault} (hpart : loggingPart usual configuration = .ok part)
    (hretired : state.retire = (.ok (), retired))
    (hsettings : managerSettings part = .error fault) :
    state.configure usual configuration = (.error (.settings fault), retired) := by
  rw [configure, hpart]
  dsimp only
  rw [hretired]
  dsimp only
  rw [hsettings]

/-- With a predecessor that is retired and settings that can be read, what remains is to install the new
manager. -/
lemma configure_of_settings {settings : Mapping}
    (hpart : loggingPart usual configuration = .ok part)
    (hretired : state.retire = (.ok (), retired))
    (hsettings : managerSettings part = .ok settings) :
    state.configure usual configuration =
      match (retired.renewed settings).install retired.managers.length with
      | (.ok _, after) => (.ok retired.managers.length, after)
      | (.error fault, after) => (.error (.setup fault), after) := by
  rw [configure, hpart]
  dsimp only
  rw [hretired]
  dsimp only
  rw [hsettings]
  rfl

/-- **How logging is configured**, or is not: the configuration is of no type that it can have; or the
current manager cannot be shut down; or the configuration has no settings in it; or a new manager is made,
which is installed or not. -/
theorem configure_cases (state : State) (usual : Settings) (configuration : Value) :
    (∃ fault, loggingPart usual configuration = .error fault ∧
      state.configure usual configuration = (.error fault, state)) ∨
    ∃ part, loggingPart usual configuration = .ok part ∧
      ((∃ fault retired, state.retire = (.error fault, retired) ∧
        state.configure usual configuration = (.error .closing, retired)) ∨
      ∃ retired, state.retire = (.ok (), retired) ∧
        ((∃ fault, managerSettings part = .error fault ∧
          state.configure usual configuration = (.error (.settings fault), retired)) ∨
        ∃ settings, managerSettings part = .ok settings ∧
          ((∃ fault after,
            (retired.renewed settings).install retired.managers.length = (.error fault, after) ∧
            state.configure usual configuration = (.error (.setup fault), after)) ∨
          ∃ after,
            (retired.renewed settings).install retired.managers.length = (.ok (), after) ∧
            state.configure usual configuration = (.ok retired.managers.length, after)))) := by
  cases hpart : loggingPart usual configuration with
  | error fault => exact Or.inl ⟨fault, rfl, by rw [configure, hpart]⟩
  | ok part =>
  refine Or.inr ⟨part, rfl, ?_⟩
  rcases hretired : state.retire with ⟨fault | _, retired⟩
  · exact Or.inl ⟨fault, retired, rfl, configure_of_closing hpart hretired⟩
  refine Or.inr ⟨retired, rfl, ?_⟩
  cases hsettings : managerSettings part with
  | error fault => exact Or.inl ⟨fault, rfl, configure_of_unread hpart hretired hsettings⟩
  | ok settings =>
      refine Or.inr ⟨settings, rfl, ?_⟩
      rw [configure_of_settings hpart hretired hsettings]
      rcases (retired.renewed settings).install retired.managers.length with ⟨fault | _, after⟩
      · exact Or.inl ⟨fault, after, rfl, rfl⟩
      · exact Or.inr ⟨after, rfl, rfl⟩

/-- Configuring unmakes no manager, and the one that it gives is there. -/
lemma length_configure (state : State) (usual : Settings) (configuration : Value) :
    state.managers.length ≤ (state.configure usual configuration).2.managers.length ∧
      ∀ id, (state.configure usual configuration).1 = .ok id →
        id < (state.configure usual configuration).2.managers.length := by
  have hinstall : ∀ retired : State, ∀ settings, retired.managers.length <
      ((retired.renewed settings).install retired.managers.length).2.managers.length := by
    intro retired settings
    rw [length_install]
    exact retired.lt_length_renewed settings
  rcases state.configure_cases usual configuration with ⟨fault, -, hrun⟩ | ⟨part, -,
    ⟨fault, retired, hretired, hrun⟩ | ⟨retired, hretired, ⟨fault, -, hrun⟩ | ⟨settings, -,
      ⟨fault, after, hrenewed, hrun⟩ | ⟨after, hrenewed, hrun⟩⟩⟩⟩ <;> rw [hrun]
  · exact ⟨Nat.le_refl _, by simp⟩
  · exact ⟨Nat.le_of_eq (length_retire hretired).symm, by simp⟩
  · exact ⟨Nat.le_of_eq (length_retire hretired).symm, by simp⟩
  all_goals
    have hretire := length_retire hretired
    have hlength := hinstall retired settings
    rw [hrenewed] at hlength
    dsimp only at hlength
  · exact ⟨by dsimp only; omega, by simp⟩
  · refine ⟨by dsimp only; omega, fun id hid => ?_⟩
    obtain rfl := Except.ok.inj hid
    exact hlength

end Configuring

end State

end FilterQuery.Logging
