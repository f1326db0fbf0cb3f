import FilterQuery.Logging.Output
import FilterQuery.Settings

/-!
# Managers of logging

All loggers hand their records to one list of handlers.  A manager adds handlers to that list as a
section of settings says, remembers them as its own, and takes them away again when it is shut
down.  At any time at most one manager is the current one; configuring makes a new one current and
shuts its predecessor down.

Some faults break these steps off where they are met.  A handler that cannot be closed ends a
shutdown: the manager stays as it was, with handlers on its list that are gone.  A setup is undone
for the faults that are caught (`SetupFault.isCaught`); for any other what it did stays.

* `State`, `Manager` — what logging is made of.
* `State.shutdown` — takes the handlers of a manager away.
* `State.install` — adds the handlers of a manager; if that fails, it is shut down.
* `State.configure` — makes a new manager current and installs it.
-/

namespace FilterQuery.Logging

/-! ## State -/

/-- A manager of handlers. -/
structure Manager where
  /-- The settings of the manager. -/
  settings : Mapping
  /-- The handlers that the manager added, in order. -/
  handlers : List Nat
  isInstalled : Bool
  deriving Repr

/-- A manager that has not added anything. -/
def Manager.new (settings : Mapping) : Manager :=
  ⟨settings, [], false⟩

/-- What logging is made of. -/
structure State where
  /-- The least gravity of records that are handed to handlers at all. -/
  rootLevel : Int
  /-- The handlers, in the order in which they get records. -/
  handlers : List Handler
  /-- What the next handler is told apart by. -/
  nextHandler : Nat
  /-- All managers, each under its number. -/
  managers : List Manager
  /-- The number of the current manager. -/
  current : Option Nat
  /-- The format for which structured events are made records of; nothing is made of them as long
  as there is none. -/
  rendering : Option Format
  output : Output
  deriving Repr

namespace State

/-- Nothing is configured yet. -/
def start (home : String) : State :=
  ⟨Level.gravity .warning, [], 0, [], none, none, .empty home⟩

/-- The manager under a number. -/
def manager? (state : State) (id : Nat) : Option Manager :=
  state.managers[id]?

/-- Changes the manager under a number. -/
def modifyManager (state : State) (id : Nat) (change : Manager → Manager) : State :=
  { state with managers := state.managers.modify id change }

/-- Whether the manager under a number is installed. -/
def isInstalled (state : State) (id : Nat) : Bool :=
  ((state.manager? id).map Manager.isInstalled).getD false

/-- Adds a manager, and gives it a number. -/
def addManager (state : State) (settings : Mapping) : Nat × State :=
  (state.managers.length, { state with managers := state.managers ++ [.new settings] })

/-- Hands a record to the handlers if it is grave enough. -/
def deliver (state : State) (record : Record) : State :=
  if state.rootLevel ≤ record.level.gravity then
    { state with output := state.output.deliver state.handlers record }
  else state

end State

/-! ## Reading the settings of a manager -/

/-- Why a manager cannot be installed. -/
inductive SetupFault where
  | setting (fault : SettingFault)
  /-- A value of this type in place of a section. -/
  | notSection (type : String)
  /-- A value of this type in place of a path. -/
  | notPath (type : String)
  /-- Bytes in place of a path. -/
  | bytesPath
  | disk (fault : DiskFault)
  /-- A handler cannot be closed while a setup is undone: its file has no space for what it keeps
  back. -/
  | closing
  deriving DecidableEq, Repr

/-- Whether a fault is one that a setup is undone for.  Calls nested too deep are not, nor is a fault
of undoing itself. -/
def SetupFault.isCaught : SetupFault → Bool
  | setting (.unwritten .tooDeep) | disk .tooManyFolders | closing => false
  | _ => true

/-- A setting, or what holds if it is not given. -/
def settingOr (settings : Mapping) (name : String) (usual : Value) : Value :=
  (settings.find? (.str name)).getD usual

/-- The level in some settings. -/
def levelOf (settings : Mapping) : Except SetupFault Int :=
  ((readLevel (settingOr settings "level" (.str "INFO"))).map Whole.toInt).mapError .setting

/-- The name of the format in some settings, in small letters. -/
def formatName (settings : Mapping) : Except SetupFault String :=
  ((settingOr settings "format" (.str "json")).written.map Text.lowerCase).mapError fun fault =>
    .setting (.unwritten fault)

/-- The format of a name: anything but JSON is text. -/
def Format.ofName (name : String) : Format :=
  if name = "json" then .json else .text

/-- A section of settings. -/
def sectionOf (settings : Mapping) (name : String) : Except SetupFault Mapping :=
  match settingOr settings name (.mapping []) with
  | .mapping entries => .ok entries
  | value => .error (.notSection value.qualifiedTypeName)

/-- The path that a value is. -/
def pathOf (value : Value) : Except SetupFault String :=
  match value with
  | .bytes _ => .error .bytesPath
  | _ =>
    match value.text? with
    | some text => .ok text
    | none => .error (.notPath value.qualifiedTypeName)

/-! ## Shutting down -/

namespace State

/-- Takes handlers from the list and closes them, one after the other, until one cannot be
closed. -/
def closeAll (state : State) : List Nat → Except DiskFault Unit × State
  | [] => (.ok (), state)
  | number :: rest =>
    let (result, output) := state.output.finish number
    let left := { state with
      handlers := state.handlers.filter (·.id != number), output := output }
    match result with
    | .ok () => closeAll left rest
    | .error fault => (.error fault, left)

/-- Takes the handlers of a manager away; the manager is not installed any more.  If one of them
cannot be closed, those behind it stay, and so does all that the manager knows of itself. -/
def shutdown (state : State) (id : Nat) : Except DiskFault Unit × State :=
  match state.closeAll (((state.manager? id).map Manager.handlers).getD []) with
  | (.error fault, left) => (.error fault, left)
  | (.ok (), left) =>
    (.ok (), left.modifyManager id fun manager =>
      { manager with handlers := [], isInstalled := false })

/-! ## Installing -/

/-- Adds a handler to the list, as one of a manager. -/
def attach (state : State) (id : Nat) (target : Target) (level : Int) (format : Format) : State :=
  let handler : Handler := ⟨state.nextHandler, target, level, format⟩
  { state with
    handlers := state.handlers ++ [handler]
    nextHandler := state.nextHandler + 1
    managers := state.managers.modify id fun manager =>
      { manager with handlers := manager.handlers ++ [handler.id] } }

/-- What can fail, and leaves a state behind either way. -/
abbrev Setup := ExceptT SetupFault (StateM State)

/-- A reading of settings as a step of the setup. -/
def reading {α : Type} (result : Except SetupFault α) : Setup α :=
  ExceptT.mk (pure result)

/-- Does something to the disk that leaves it changed even if it fails. -/
def onDisk (change : Disk → Disk × Option DiskFault) : Setup Unit := do
  let state ← get
  let (disk, fault) := change state.output.disk
  set { state with output := { state.output with disk := disk } }
  match fault with
  | none => pure ()
  | some fault => throw (.disk fault)

/-- Adds the handler for the console, if it is wanted. -/
def setUpConsole (id : Nat) (settings : Mapping) (format : Format) : Setup Unit := do
  let console ← reading (sectionOf settings "console")
  if (settingOr console "enabled" (.bool true)).isTruthy then
    let level ← reading (levelOf console)
    modify fun state => state.attach id .console level format

/-- Adds the handler for a file, if it is wanted.  The folders are created before the sizes are
read, and the file is created after that. -/
def setUpFile (id : Nat) (settings : Mapping) (level : Int) (format : Format) : Setup Unit := do
  let file ← reading (sectionOf settings "file")
  if (settingOr file "enabled" (.bool false)).isTruthy then
    let path ← reading (pathOf (settingOr file "path" (.str "logs/indexquery.log")))
    onDisk fun disk => disk.makeFolders path
    let rotation ← reading ((readRotation (settingOr file "rotation" (.str "10 MB"))).mapError
      .setting)
    let retention ← reading ((readRetention (settingOr file "retention" (.str "30 days"))).mapError
      .setting)
    let state ← get
    match state.output.disk.openFile path with
    | .error fault => throw (.disk fault)
    | .ok (number, disk) =>
      let output := { state.output with
        disk := disk, opened := (state.nextHandler, number) :: state.output.opened }
      let target := Target.file (Place.ofPath path) rotation retention
      set ({ state with output := output }.attach id target level format)

/-- Adds the handlers of a manager as its settings say, and gives the name of the format.  The level
of all records is set when both can be read, and stays whatever happens; the manager that was installed
last decides how structured events are written. -/
def setUp (id : Nat) (settings : Mapping) : Setup String := do
  let level ← reading (levelOf settings)
  let name ← reading (formatName settings)
  let format := Format.ofName name
  modify fun state => { state with rootLevel := level }
  setUpConsole id settings format
  setUpFile id settings level format
  modify fun state =>
    { state with rendering := some format }.modifyManager id fun manager =>
      { manager with isInstalled := true }
  return name

/-- The record that tells that logging is configured, with the name of the format. -/
def configuredRecord (name : String) : Record :=
  ⟨"root", .debug, Line.ofText "Logging configured", [("format", .value (.str name))]⟩

/-- Undoes a setup for a fault that is caught. -/
def undo (state : State) (id : Nat) (fault : SetupFault) : Except SetupFault Unit × State :=
  if fault.isCaught then
    match state.shutdown id with
    | (.ok (), left) => (.error fault, left)
    | (.error _, left) => (.error .closing, left)
  else (.error fault, state)

/-- Installs a manager, or undoes what was set up. -/
def install (state : State) (id : Nat) : Except SetupFault Unit × State :=
  let settings := ((state.manager? id).map Manager.settings).getD []
  match (setUp id settings).run.run state with
  | (.ok name, reached) => (.ok (), reached.deliver (configuredRecord name))
  | (.error fault, reached) => reached.undo id fault

end State

/-! ## Configuring -/

/-- Why logging cannot be configured. -/
inductive ConfigureFault where
  /-- The configuration is of a type that it cannot have. -/
  | unsupported (type : String)
  /-- The settings of logging are no mapping. -/
  | settings (fault : MappingFault)
  | setup (fault : SetupFault)
  /-- A handler of the current manager cannot be closed, for the same reason. -/
  | closing
  deriving DecidableEq, Repr

/-- The settings of a manager that a value describes; a value that counts as false has none. -/
def managerSettings (value : Value) : Except MappingFault Mapping :=
  if value.isTruthy then Mapping.ofValue value else .ok []

/-- The value that a configuration gives for logging: settings hold theirs, and a mapping either
has an entry for it or is that entry itself.  Without a configuration the usual settings hold. -/
def loggingPart (usual : Settings) (configuration : Value) : Except ConfigureFault Value :=
  match configuration with
  | .null => .ok (.mapping usual.logging)
  | .record "IndexQueryConfig" fields =>
    .ok ((fields.lookup "logging").getD .null)
  | .mapping entries => .ok ((Mapping.find? entries (.str "logging")).getD configuration)
  | _ => .error (.unsupported configuration.typeName)

namespace State

/-- Shuts the current manager down, if it is installed. -/
def retire (state : State) : Except DiskFault Unit × State :=
  match state.current with
  | some id => if state.isInstalled id then state.shutdown id else (.ok (), state)
  | none => (.ok (), state)

/-- Makes a new manager current and installs it; gives its number.  The predecessor is shut
down as soon as the configuration is of a type that it can have, and stays if that fails. -/
def configure (state : State) (usual : Settings) (configuration : Value) :
    Except ConfigureFault Nat × State :=
  match loggingPart usual configuration with
  | .error fault => (.error fault, state)
  | .ok part =>
    match state.retire with
    | (.error _, retired) => (.error .closing, retired)
    | (.ok (), retired) =>
      match managerSettings part with
      | .error fault => (.error (.settings fault), retired)
      | .ok settings =>
        let (id, added) := retired.addManager settings
        match { added with current := some id }.install id with
        | (.ok _, state) => (.ok id, state)
        | (.error fault, state) => (.error (.setup fault), state)

end State

end FilterQuery.Logging
