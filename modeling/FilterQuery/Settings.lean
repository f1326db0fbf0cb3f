import FilterQuery.Decimal.Double
import FilterQuery.Text.LowerCase
import FilterQuery.Value.Display
import FilterQuery.Value.Mapping

/-!
# Settings

The settings that queries are built with.  They are read from a mapping; every entry is checked,
and all that is wrong is reported at once.

* `Settings`, `Settings.default`.
* `Issue` — what is wrong with a value, and where it stands.
* `Settings.ofValue` — the settings that a value describes, or why it describes none.
-/

namespace FilterQuery

/-! ## Issues -/

/-- A step on the way to a value inside a mapping. -/
inductive Step where
  | name (text : String)
  | number (n : Int)
  deriving DecidableEq, Repr

/-- The text of a step. -/
def Step.display : Step → String
  | name text => text
  | number n => toString n

/-- What is wrong with a value. -/
inductive Problem where
  | notText
  /-- Bytes that are no text. -/
  | unreadableText
  | emptyFiltersKey
  | notTruth
  /-- A value that could stand for a truth value but does not. -/
  | unreadableTruth
  | notMapping
  /-- A key is a whole number, or holds one, of more digits than are written. -/
  | unwrittenKey
  /-- No options at all. -/
  | notOptions
  deriving DecidableEq, Repr

/-- The kind of a problem. -/
def Problem.kind : Problem → String
  | notText => "string_type"
  | unreadableText => "string_unicode"
  | emptyFiltersKey => "value_error"
  | notTruth => "bool_type"
  | unreadableTruth => "bool_parsing"
  | notMapping => "dict_type"
  | unwrittenKey => "value_error"
  | notOptions => "model_type"

/-- The wording of a problem. -/
def Problem.message : Problem → String
  | notText => "Input should be a valid string"
  | unreadableText =>
    "Input should be a valid string, unable to parse raw data as a unicode string"
  | emptyFiltersKey => "Value error, filters_key must not be empty."
  | notTruth => "Input should be a valid boolean"
  | unreadableTruth => "Input should be a valid boolean, unable to interpret input"
  | notMapping => "Input should be a valid dictionary"
  | unwrittenKey => "Value error, " ++ Value.WriteFault.message .tooManyDigits
  | notOptions => "Input should be a valid dictionary or instance of QueryOptions"

/-- A problem and where it is. -/
structure Issue where
  place : List Step
  problem : Problem
  deriving DecidableEq, Repr

/-- The place of an issue in one text. -/
def Issue.placeText (issue : Issue) : String :=
  ".".intercalate (issue.place.map Step.display)

/-- How many issues there are, and with what. -/
def issueCount (issues : List Issue) (subject : String) : String :=
  toString issues.length ++ (if issues.length = 1 then " validation error for "
    else " validation errors for ") ++ subject

/-! ## Reading single values -/

/-- The text that bytes are. -/
def textOfBytes? (octets : List UInt8) : Option String :=
  String.fromUTF8? ⟨octets.toArray⟩

/-- The text of a value; bytes can be one too. -/
def readText (value : Value) : Except Problem String :=
  match value with
  | .bytes octets =>
    match textOfBytes? octets with
    | some text => .ok text
    | none => .error .unreadableText
  | _ =>
    match value.text? with
    | some text => .ok text
    | none => .error .notText

/-- The truth value that a text stands for. -/
def truthOfText? (text : String) : Option Bool :=
  let small := Text.lowerAscii text
  if ["1", "true", "t", "yes", "y", "on"].contains small then some true
  else if ["0", "false", "f", "no", "n", "off"].contains small then some false
  else none

/-- The truth value that a value stands for: itself, one or zero, or a text. -/
def readTruth (value : Value) : Except Problem Bool :=
  let found (truth : Option Bool) : Except Problem Bool :=
    match truth with
    | some truth => .ok truth
    | none => .error .unreadableTruth
  let ofInt (number : Int) : Option Bool :=
    if number = 1 then some true else if number = 0 then some false else none
  match value with
  | .bool truth => .ok truth
  | .int number => found (ofInt number)
  | .float number => found (number.toInt?.bind fun whole =>
      if number.orderInt? whole == some .eq then ofInt whole else none)
  | .bytes octets => found ((textOfBytes? octets).bind truthOfText?)
  | _ =>
    match value.text? with
    | some text => found (truthOfText? text)
    | none => .error .notTruth

/-- A key as a step. -/
def stepOfKey (key : Value) : Step :=
  match key with
  | .str text => .name text
  | .op operator => .name operator.name
  | _ =>
    match key.int? with
    | some n => if fitsSignedWord n then .number n else .name key.literal
    | none => .name key.literal

/-- A mapping with texts as keys.  `place` is where the mapping stands. -/
def readSection (place : Step) (value : Value) : Except (List Issue) Mapping :=
  match value with
  | .mapping entries =>
    let keys := entries.map fun entry => (entry, readText entry.1)
    let issues := keys.filterMap fun (entry, key) =>
      match key with
      | .ok _ => none
      | .error problem => some ⟨[place, stepOfKey entry.1, .name "[key]"], problem⟩
    if issues.isEmpty then
      .ok (Mapping.ofPairs (keys.filterMap fun (entry, key) =>
        match key with
        | .ok text => some (.str text, entry.2)
        | .error _ => none))
    else .error issues
  | _ => .error [⟨[place], .notMapping⟩]

/-! ## Settings -/

/-- The settings of queries and of logging. -/
structure Settings where
  /-- The options key that holds the filter values. -/
  filtersKey : String
  /-- Whether `contains` ignores the case of letters. -/
  ignoreCase : Bool
  logging : Mapping
  deriving Repr

namespace Settings

/-- A mapping with texts as keys. -/
def namedEntries (entries : List (String × Value)) : Mapping :=
  entries.map fun entry => (.str entry.1, entry.2)

/-- The settings of logging that hold if none are given. -/
def defaultLogging : Mapping :=
  namedEntries
    [("level", .str "INFO"),
      ("format", .str "json"),
      ("console", .mapping (namedEntries [("enabled", .bool true), ("level", .str "INFO")])),
      ("file", .mapping (namedEntries
        [("enabled", .bool false),
          ("path", .str "logs/indexquery.log"),
          ("rotation", .str "10 MB"),
          ("retention", .str "30 days")]))]

/-- The settings that hold if none are given. -/
def default : Settings :=
  ⟨"with", true, defaultLogging⟩

/-- The fields of the settings by their names. -/
def fields (settings : Settings) : List (String × Value) :=
  [("filters_key", .str settings.filtersKey),
    ("case_insensitive_contains", .bool settings.ignoreCase),
    ("logging", .mapping settings.logging)]

/-- Settings as a value. -/
def toValue (settings : Settings) : Value :=
  .record "IndexQueryConfig" settings.fields

/-- The key of the filter values: any text but the empty one. -/
def readFiltersKey (value : Value) : Except (List Issue) String :=
  let place := [Step.name "filters_key"]
  match readText value with
  | .error problem => .error [⟨place, problem⟩]
  | .ok text => if text.isEmpty then .error [⟨place, .emptyFiltersKey⟩] else .ok text

/-- Whether `contains` ignores case. -/
def readIgnoreCase (value : Value) : Except (List Issue) Bool :=
  (readTruth value).mapError fun problem => [⟨[.name "case_insensitive_contains"], problem⟩]

/-- What is read of an entry, or what holds if there is none. -/
def entryOr {α : Type} (entries : Mapping) (name : String) (otherwise : α)
    (read : Value → Except (List Issue) α) : Except (List Issue) α :=
  match entries.find? (.str name) with
  | some value => read value
  | none => .ok otherwise

/-- The issues of a reading. -/
def issuesOf {α : Type} : Except (List Issue) α → List Issue
  | .ok _ => []
  | .error issues => issues

/-- The settings of a mapping, or all that is wrong with it.  Other entries do not count. -/
def ofMapping (entries : Mapping) : Except (List Issue) Settings :=
  let key := entryOr entries "filters_key" default.filtersKey readFiltersKey
  let truth := entryOr entries "case_insensitive_contains" default.ignoreCase readIgnoreCase
  let logging := entryOr entries "logging" default.logging (readSection (.name "logging"))
  match key, truth, logging with
  | .ok filtersKey, .ok ignoreCase, .ok logging => .ok ⟨filtersKey, ignoreCase, logging⟩
  | _, _, _ => .error (issuesOf key ++ issuesOf truth ++ issuesOf logging)

end Settings

/-- Why a value describes no settings. -/
inductive SettingsFault where
  /-- It describes no mapping. -/
  | mapping (fault : MappingFault)
  | invalid (issues : List Issue)
  deriving DecidableEq, Repr

/-- The settings that a value describes. -/
def Settings.ofValue (value : Value) : Except SettingsFault Settings := do
  let entries ← (Mapping.ofValue value).mapError SettingsFault.mapping
  (Settings.ofMapping entries).mapError SettingsFault.invalid

end FilterQuery
