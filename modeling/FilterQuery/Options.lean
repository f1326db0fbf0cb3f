import FilterQuery.Settings
import FilterQuery.Text.Parts

/-!
# Query options

The options of a query hold the filter values under one of their keys; everything else in them
does not count.  Filter values have texts as keys, so that keys that cannot be written are refused.

* `Options.normalKey` — the text that a key of the filter values becomes.
* `Options.firstFault?` — the first key that becomes none.
* `Options.filters` — the filter values of options.
* `hasFilter`, `filterValue` — looking up a key in filter values of any kind.
-/

namespace FilterQuery

/-- Why options give no filter values. -/
inductive OptionsFault where
  /-- Options of this type are none. -/
  | notMapping (type : String)
  /-- What stands under the key of the filter values is not a mapping. -/
  | invalid (key : String) (issues : List Issue)
  /-- A key of the filter values is nested too deep to become a text. -/
  | tooDeep
  deriving DecidableEq, Repr

namespace Options

/-- Why a value is no filter values. -/
inductive ReadFault where
  | invalid (issues : List Issue)
  | tooDeep
  deriving DecidableEq, Repr

/-- The same fault, of what stands under a key of options. -/
def ReadFault.under (key : String) : ReadFault → OptionsFault
  | invalid issues => .invalid key issues
  | tooDeep => .tooDeep

/-- The text that a key becomes: an operator its spelling, anything else its display form. -/
def normalKey (key : Value) : String :=
  match key with
  | .op operator => operator.name
  | _ => key.display

/-- What keeps a key from becoming a text, if anything does. -/
def keyFault? (key : Value) : Option Value.WriteFault :=
  match key with
  | .op _ => none
  | _ => key.writeFault? Value.depthLimit

/-- The same for the first of these keys that does not become a text. -/
def firstFault? (entries : Mapping) : Option Value.WriteFault :=
  entries.findSome? fun entry => keyFault? entry.1

/-- Entries with texts as keys; of keys that become the same text, the last value counts. -/
def normalize (entries : Mapping) : Mapping :=
  Mapping.ofPairs (entries.map fun entry => (.str (normalKey entry.1), entry.2))

/-- Filter values: none at all, or a mapping.  `place` is where they stand. -/
def read (place : String) (value : Value) : Except ReadFault Mapping :=
  match value with
  | .null => .ok []
  | .mapping entries =>
    match firstFault? entries with
    | none => .ok (normalize entries)
    | some .tooManyDigits => .error (.invalid [⟨[.name place], .unwrittenKey⟩])
    | some .tooDeep => .error .tooDeep
  | _ => .error (.invalid [⟨[.name place], .notMapping⟩])

/-- Options as a value. -/
def toValue (filters : Mapping) : Value :=
  .record "QueryOptions" [("filters", .mapping filters)]

/-- The filter values of options that are one value already. -/
def ofRecord? : Value → Option Mapping
  | .record "QueryOptions" [("filters", .mapping filters)] => some filters
  | _ => none

/-- The filter values of options: none of absent options, those of options read before, and those
under the key that the settings name. -/
def filters (settings : Settings) (options : Value) : Except OptionsFault Mapping :=
  match ofRecord? options with
  | some filters => .ok filters
  | none =>
    match options with
    | .null => .ok []
    | .mapping entries =>
      (read "filters" ((Mapping.find? entries (.str settings.filtersKey)).getD .null)).mapError
        (ReadFault.under settings.filtersKey)
    | _ => .error (.notMapping options.typeName)

/-- The filter values of options with a fixed key: `with`, or `filters` where that is absent. -/
def validate (options : Value) : Except ReadFault Mapping :=
  match ofRecord? options with
  | some filters => .ok filters
  | none =>
    match options with
    | .mapping entries =>
      match Mapping.find? entries (.str "with"), Mapping.find? entries (.str "filters") with
      | some value, _ => read "with" value
      | none, some value => read "filters" value
      | none, none => .ok []
    | _ => .error (.invalid [⟨[], .notOptions⟩])

end Options

/-! ## Looking up filter values -/

/-- Why no value can be looked up under a key. -/
inductive LookupFault where
  /-- Nothing is contained in a value of this type. -/
  | notContainer (type : String)
  /-- Only bytes are contained in bytes. -/
  | needsBytes
  /-- The items of a sequence of this type are not found by a key. -/
  | needsIndex (type : String)
  /-- The characters of a text are not found by a key. -/
  | needsPlace
  deriving DecidableEq, Repr

/-- The wording of a fault. -/
def LookupFault.message : LookupFault → String
  | notContainer type => "argument of type '" ++ type ++ "' is not iterable"
  | needsBytes => "a bytes-like object is required, not 'str'"
  | needsIndex type => type ++ " indices must be integers or slices, not str"
  | needsPlace => "string indices must be integers, not 'str'"

/-- Whether a key is present.  Filter values are a mapping as a rule; of other values a key can be a
part. -/
def hasFilter (filters : Value) (key : String) : Except LookupFault Bool :=
  match filters with
  | .mapping entries => .ok (Mapping.contains entries (.str key))
  | .list items => .ok (items.any (Value.sameKey (.str key)))
  | .tuple items => .ok (items.any (Value.sameKey (.str key)))
  | .bytes _ => .error .needsBytes
  | .record _ _ => .ok false
  | _ =>
    match filters.text? with
    | some text => .ok (Text.occursIn key.toList text.toList)
    | none => .error (.notContainer filters.qualifiedTypeName)

/-- The value under a key that is present.  Only a mapping has values under keys. -/
def filterValue (filters : Value) (key : String) : Except LookupFault Value :=
  match filters with
  | .mapping entries => .ok ((Mapping.find? entries (.str key)).getD .null)
  | .list _ => .error (.needsIndex "list")
  | .tuple _ => .error (.needsIndex "tuple")
  | _ => .error .needsPlace

end FilterQuery
