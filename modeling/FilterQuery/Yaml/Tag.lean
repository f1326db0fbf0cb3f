import FilterQuery.Yaml.Numeral
import FilterQuery.Yaml.Timestamp

/-!
# Tags

A tag says what a node describes.  A node without one gets the tag of its kind, and a plain scalar
the tag that its form suggests.

* `Tag`, `Tag.ofText` — the tags of the standard, and all others.
* `Tag.ofPlain` — the tag that the form of a plain scalar suggests.
-/

namespace FilterQuery.Yaml

/-- What a node describes. -/
inductive Tag where
  | null
  | truth
  | integer
  | number
  | binary
  | timestamp
  | orderedPairs
  | pairs
  | set
  | text
  | sequence
  | mapping
  /-- A key whose value is put into the mapping around it. -/
  | merge
  /-- A key whose value stands for the mapping around it. -/
  | default
  | other (text : String)
  deriving DecidableEq, Repr

namespace Tag

/-- What the tags of the standard start with. -/
def standardStem : String :=
  "tag:yaml.org,2002:"

/-- The tags of the standard by their names. -/
def standard : List (String × Tag) :=
  [("null", null), ("bool", truth), ("int", integer), ("float", number), ("binary", binary),
    ("timestamp", timestamp), ("omap", orderedPairs), ("pairs", pairs), ("set", set),
    ("str", text), ("seq", sequence), ("map", mapping), ("merge", merge), ("value", default)]

/-- The tag of a text. -/
def ofText (name : String) : Tag :=
  match standard.find? fun entry => standardStem ++ entry.1 = name with
  | some (_, tag) => tag
  | none => .other name

/-- The plain scalars that are truth values, and which they are. -/
def truths : List (String × Bool) :=
  [("yes", true), ("Yes", true), ("YES", true), ("no", false), ("No", false), ("NO", false),
    ("true", true), ("True", true), ("TRUE", true), ("false", false), ("False", false),
    ("FALSE", false), ("on", true), ("On", true), ("ON", true), ("off", false), ("Off", false),
    ("OFF", false)]

/-- The tag that the form of a plain scalar suggests. -/
def ofPlain (text : String) : Tag :=
  let plain := withoutFinalBreak text
  let chars := plain.toList
  if truths.any fun entry => entry.1 = plain then truth
  else if isNumber chars then number
  else if isInteger chars then integer
  else if plain = "<<" then merge
  else if ["~", "null", "Null", "NULL", ""].contains plain then null
  else if (Timestamp.ofChars? chars).any Timestamp.isPlain then timestamp
  else if plain = "=" then default
  else .text

end Tag

end FilterQuery.Yaml
