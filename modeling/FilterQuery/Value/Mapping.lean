import FilterQuery.Value.Basic

/-!
# Mappings

A mapping is a list of entries in which no two keys are the same (`Value.sameKey`).  The first key
of its kind keeps its place and its spelling; the last value given for it counts.

* `Mapping.find?`, `Mapping.insert`, `Mapping.merge`.
* `Value.items?` — what a value yields when it is gone through.
* `Mapping.ofValue` — the mapping that a value describes: a mapping describes itself, anything
  else yields pairs.
-/

namespace FilterQuery

/-- Entries in order. -/
abbrev Mapping := List (Value × Value)

namespace Mapping

/-- The value under a key. -/
def find? (entries : Mapping) (key : Value) : Option Value :=
  (List.find? (fun entry => entry.1.sameKey key) entries).map Prod.snd

/-- Whether a key is present. -/
def contains (entries : Mapping) (key : Value) : Bool :=
  List.any entries fun entry => entry.1.sameKey key

/-- Puts a value under a key: the entry with the same key keeps its key and its place, a new key
goes to the end. -/
def insert : Mapping → Value → Value → Mapping
  | [], key, value => [(key, value)]
  | (known, old) :: rest, key, value =>
    if known.sameKey key then (known, value) :: rest else (known, old) :: insert rest key value

/-- Puts all entries of the second mapping into the first, in order. -/
def merge (entries more : Mapping) : Mapping :=
  List.foldl (fun known entry => insert known entry.1 entry.2) entries more

/-- The mapping of a list of pairs. -/
def ofPairs (pairs : List (Value × Value)) : Mapping :=
  merge [] pairs

/-- A key is present exactly if there is a value under it. -/
theorem contains_eq_isSome_find? (entries : Mapping) (key : Value) :
    contains entries key = (find? entries key).isSome := by
  simp only [contains, find?, Option.isSome_map]
  induction entries with
  | nil => rfl
  | cons entry rest ih => by_cases h : entry.1.sameKey key = true <;> simp_all

end Mapping

namespace Value

/-- What a value yields when it is gone through: a text its characters, bytes their numbers, a
mapping its keys, a set its members, any other object its fields as pairs.  Other values cannot be
gone through. -/
def items? : Value → Option (List Value)
  | str text => some (text.toList.map fun c => str (String.singleton c))
  | op operator => some (operator.name.toList.map fun c => str (String.singleton c))
  | bytes octets => some (octets.map fun octet => int octet.toNat)
  | list items => some items
  | tuple items => some items
  | mapping entries => some (entries.map Prod.fst)
  | record "set" members => some (members.map Prod.snd)
  | record _ fields => some (fields.map fun field => tuple [str field.1, field.2])
  | _ => none

end Value

/-- Why a value does not describe a mapping. -/
inductive MappingFault where
  /-- The value yields nothing, being of this type. -/
  | notIterable (type : String)
  /-- The item at this place yields nothing. -/
  | notPair (place : Nat)
  /-- The item at this place does not yield two things. -/
  | wrongLength (place length : Nat)
  /-- A key of this type may not be one. -/
  | unhashable (type : String)
  deriving DecidableEq, Repr

namespace Mapping

/-- The mapping of the pairs that the items yield, onto the entries known already; `place` counts
the items. -/
def addPairs (entries : Mapping) (place : Nat) : List Value → Except MappingFault Mapping
  | [] => .ok entries
  | item :: rest =>
    match item.items? with
    | none => .error (.notPair place)
    | some [key, value] =>
      match key.unhashable? with
      | some type => .error (.unhashable type)
      | none => addPairs (insert entries key value) (place + 1) rest
    | some parts => .error (.wrongLength place parts.length)

/-- Puts the entries that a value describes into a mapping. -/
def update (entries : Mapping) : Value → Except MappingFault Mapping
  | .mapping more => .ok (merge entries more)
  | value =>
    match value.items? with
    | none => .error (.notIterable value.qualifiedTypeName)
    | some items => addPairs entries 0 items

/-- The mapping that a value describes. -/
def ofValue (value : Value) : Except MappingFault Mapping :=
  update [] value

end Mapping

end FilterQuery
