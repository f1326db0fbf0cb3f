import FilterQuery.Text.Base64
import FilterQuery.Value.Display

/-!
# Values as JSON

The JSON text of a value on one line.  Texts keep their characters, except for quotes, backslashes
and control characters.  What JSON has no form for is written as a text: dates in their ISO form,
bytes in base 64, an operator by its spelling, and objects in their display form.  Keys have to be
texts, numbers, truth values or null.

* `Json.quoted` — a text between double quotes.
* `Value.json?` — the JSON text of a value, if all keys in it can be written.
-/

namespace FilterQuery

namespace Json

/-- How a character stands between double quotes. -/
def escapeChar (c : Char) : List Char :=
  if c = '"' then ['\\', '"']
  else if c = '\\' then ['\\', '\\']
  else if c = '\n' then ['\\', 'n']
  else if c = '\r' then ['\\', 'r']
  else if c = '\t' then ['\\', 't']
  else if c = '\x08' then ['\\', 'b']
  else if c = '\x0c' then ['\\', 'f']
  else if c.toNat < 0x20 then '\\' :: 'u' :: Text.hexDigits 4 c.toNat
  else [c]

/-- What stands between the quotes. -/
def escaped (text : String) : String :=
  String.ofList (text.toList.flatMap escapeChar)

/-- A text between double quotes. -/
def quoted (text : String) : String :=
  "\"" ++ escaped text ++ "\""

/-- A floating point number.  Infinities and not-a-numbers go by names of their own. -/
def floatText (number : Double) : String :=
  if number.isNaN then "NaN"
  else if number.isInfinite then if number.isNegative then "-Infinity" else "Infinity"
  else Value.floatText number

/-- An array of written items. -/
def arrayText (items : List String) : String :=
  "[" ++ ", ".intercalate items ++ "]"

/-- An object of written entries. -/
def objectText (entries : List String) : String :=
  "\x7b" ++ ", ".intercalate entries ++ "\x7d"

end Json

namespace Value

/-- The text of a key; some values cannot be one. -/
def jsonKey? : Value → Option String
  | null => some "null"
  | bool truth => some (if truth then "true" else "false")
  | int number => some (toString number)
  | float number => some (Json.floatText number)
  | value => value.text?

mutual
/-- The JSON text of a value; nothing if a key cannot be written. -/
def json? : Value → Option String
  | null => some "null"
  | bool truth => some (if truth then "true" else "false")
  | int number => some (toString number)
  | float number => some (Json.floatText number)
  | str text => some (Json.quoted text)
  | bytes octets => some (Json.quoted (String.ofList (Text.encodeBase64 octets)))
  | date day => some (Json.quoted day.iso)
  | datetime time => some (Json.quoted (time.iso "T"))
  | list items => (jsonItems? items).map Json.arrayText
  | tuple items => (jsonItems? items).map Json.arrayText
  | mapping entries => (jsonEntries? entries).map Json.objectText
  | op operator => some (Json.quoted operator.name)
  | value => some (Json.quoted value.display)
/-- The JSON texts of items. -/
def jsonItems? : List Value → Option (List String)
  | [] => some []
  | item :: rest => do return (← json? item) :: (← jsonItems? rest)
/-- The JSON texts of the entries of a mapping. -/
def jsonEntries? : List (Value × Value) → Option (List String)
  | [] => some []
  | (key, value) :: rest => do
    return (Json.quoted (← key.jsonKey?) ++ ": " ++ (← json? value)) :: (← jsonEntries? rest)
end

end Value

end FilterQuery
