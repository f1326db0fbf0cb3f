import FilterQuery.Sql.Statement

/-!
# Names inside a statement

Aliases of tables, labels of columns and the subquery around a limited statement have names of the
form `posts_1`: a base and a number.  Numbers count up for each base by itself, and a name is
chosen when the thing is first written.

* `Named` — what gets such a name.
* `Naming` — the names chosen so far, and the parameters written so far.
* `nameOf` — the name of a thing, chosen now if it has none yet.
-/

namespace FilterQuery.Sql

/-- What gets a numbered name. -/
inductive Named where
  /-- An alias of a table. -/
  | source (source : Source)
  /-- A column whose own name is taken by another. -/
  | column (place : Place)
  /-- A further copy of a selected column. -/
  | copy (place : Place) (number : Nat)
  /-- A number of rows. -/
  | total (place : Option Place)
  /-- The subquery in the source list. -/
  | subquery
  deriving DecidableEq, Repr

/-- What a numbered name starts with. -/
def Named.base : Named → String
  | source s => s.table
  | column place => place.name
  | copy place _ => place.name ++ "_"
  | total _ => "count"
  | subquery => "anon"

/-- A parameter of a statement: a value for a column of a type, or a name that no value is given
for. -/
inductive Parameter where
  | given (type : ColumnType) (value : Value)
  | missing (name : String)
  deriving Repr

/-- The value of a parameter as it is reported. -/
def Parameter.value : Parameter → Value
  | given _ value => value
  | missing _ => .null

/-- The names chosen and the parameters written so far. -/
structure Naming where
  /-- Things with the numbers of their names. -/
  numbers : List (Named × Nat)
  parameters : List Parameter
  deriving Repr

/-- Nothing is named yet. -/
def Naming.start : Naming :=
  ⟨[], []⟩

namespace Naming

/-- The number that the next name with a base gets. -/
def nextNumber (naming : Naming) (base : String) : Nat :=
  (naming.numbers.filter fun entry => entry.1.base == base).length + 1

/-- The number of a thing's name, and the names with it. -/
def number (naming : Naming) (thing : Named) : Nat × Naming :=
  match naming.numbers.lookup thing with
  | some n => (n, naming)
  | none =>
    let n := naming.nextNumber thing.base
    (n, { naming with numbers := naming.numbers ++ [(thing, n)] })

/-- The name of a source: a table's own, or the one chosen for the alias. -/
def sourceName? (naming : Naming) (source : Source) : Option String :=
  match source.role with
  | .itself => some source.table
  | _ => (naming.numbers.lookup (.source source)).map fun n => source.table ++ "_" ++ toString n

end Naming

/-- Writing with names. -/
abbrev Writing := StateM Naming

/-- The name of a thing, chosen now if it has none yet. -/
def nameOf (thing : Named) : Writing String := do
  let (n, naming) := (← get).number thing
  set naming
  return thing.base ++ "_" ++ toString n

/-- A place for a parameter. -/
def placeholder (parameter : Parameter) : Writing String := do
  modify fun naming => { naming with parameters := naming.parameters ++ [parameter] }
  return "?"

end FilterQuery.Sql
