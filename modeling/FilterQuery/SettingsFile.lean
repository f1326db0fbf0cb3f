import FilterQuery.Event
import FilterQuery.Settings
import FilterQuery.Yaml.Document

/-!
# Settings files

Settings are also read from a document in a file.  An empty document, and any other whose value
counts as false, gives the settings that hold if none are given; otherwise the value has to be a
mapping.

* `FileState` — what is found at a path.
* `Settings.ofDocument` — the settings that the value of a document describes.
* `Settings.ofFile` — the settings of a file, with the events of reading it.
-/

namespace FilterQuery

/-- What is found at a path. -/
inductive FileState where
  | missing
  | directory
  | content (octets : List UInt8)
  /-- Something that the system does not let be read: the kind of its error, and the wording. -/
  | refused (kind reason : String)
  deriving Repr

/-- Why a file gives no settings. -/
inductive FileFault where
  | missing (path : String)
  | directory (path : String)
  | refused (path kind reason : String)
  /-- No path holds a null character. -/
  | nullCharacter
  | document (path : String) (fault : Yaml.Fault)
  /-- The document is no mapping. -/
  | notMapping (path : String)
  | settings (fault : SettingsFault)
  deriving Repr

namespace Settings

/-- The settings that the value of a document describes. -/
def ofDocument (path : String) (value : Value) : Except FileFault Settings × List Event :=
  let counted := if value.isTruthy then value else .mapping []
  match counted with
  | .mapping entries =>
    ((ofMapping entries).mapError fun issues => .settings (.invalid issues), [.loadedFile path])
  | _ => (.error (.notMapping path), [])

/-- The settings of a file. -/
def ofFile (path : String) (state : FileState) : Except FileFault Settings × List Event :=
  if path.toList.contains '\x00' then (.error .nullCharacter, [])
  else
    match state with
    | .missing => (.error (.missing path), [])
    | .directory => (.error (.directory path), [])
    | .refused kind reason => (.error (.refused path kind reason), [])
    | .content octets =>
      match Yaml.readDocument octets with
      | .ok value => ofDocument path value
      | .error fault => (.error (.document path fault), [])

end Settings

end FilterQuery
