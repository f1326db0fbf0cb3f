/-!
# Schemas

What is known of the stored data: entities with their columns and relationships, and the tables
behind them.

* `Column` — an attribute of an entity and the table column behind it.
* `Relationship` — how the rows of one entity lead to rows of another (`Linkage`).
* `Entity` — a kind of record, stored in a table.
* `Schema` — all entities.
-/

namespace FilterQuery

/-- The type of the values of a column. -/
inductive ColumnType where
  | integer
  | string
  | text
  | float
  | boolean
  | date
  | datetime
  deriving DecidableEq, Repr

/-- An attribute of an entity that a table column stores. -/
structure Column where
  /-- The name used in paths. -/
  field : String
  /-- The name of the table column. -/
  name : String
  type : ColumnType
  isKey : Bool
  deriving DecidableEq, Repr

/-- Which columns of two entities are equal on related rows.  The holder is the entity that the
relationship belongs to. -/
inductive Linkage where
  /-- The holder refers to the target: pairs of a target column and a holder column. -/
  | refersTo (pairs : List (String × String))
  /-- The target refers to the holder: pairs of a holder column and a target column. -/
  | referredBy (pairs : List (String × String))
  /-- A table of pairs stands between: pairs of a holder column and a column of that table, and
  pairs of a target column and a column of that table. -/
  | through (table : String) (holder target : List (String × String))
  deriving DecidableEq, Repr

/-- A named way from the rows of an entity to related rows. -/
structure Relationship where
  name : String
  /-- The entity of the related rows. -/
  target : String
  /-- Whether a row may have several related rows. -/
  isMany : Bool
  linkage : Linkage
  /-- The column names that order the related rows; true for descending. -/
  order : List (String × Bool)
  /-- The relationship of the target that leads back, if it is declared. -/
  inverse : Option String
  deriving DecidableEq, Repr

/-- A kind of record. -/
structure Entity where
  name : String
  table : String
  columns : List Column
  relationships : List Relationship
  /-- Further names of columns: each with the attribute it stands for. -/
  synonyms : List (String × String)
  /-- Whether its records link themselves to their parent. -/
  linksParent : Bool
  deriving DecidableEq, Repr

/-- A table of pairs between two tables. -/
structure LinkTable where
  name : String
  columns : List String
  deriving DecidableEq, Repr

/-- All entities and the tables of pairs between them. -/
structure Schema where
  entities : List Entity
  links : List LinkTable
  deriving DecidableEq, Repr

namespace Entity

/-- The column behind an attribute that is one itself. -/
def column? (entity : Entity) (field : String) : Option Column :=
  entity.columns.find? fun column => column.field == field

/-- The column behind an attribute or a synonym of one. -/
def columnOrSynonym? (entity : Entity) (field : String) : Option Column :=
  match entity.column? field with
  | some column => some column
  | none => (entity.synonyms.lookup field).bind entity.column?

/-- The column of a table column name. -/
def columnNamed? (entity : Entity) (name : String) : Option Column :=
  entity.columns.find? fun column => column.name == name

/-- The relationship of a name. -/
def relationship? (entity : Entity) (name : String) : Option Relationship :=
  entity.relationships.find? fun relationship => relationship.name == name

/-- The columns of the primary key. -/
def keyColumns (entity : Entity) : List Column :=
  entity.columns.filter Column.isKey

end Entity

namespace Schema

/-- The entity of a name. -/
def entity? (schema : Schema) (name : String) : Option Entity :=
  schema.entities.find? fun entity => entity.name == name

/-- The entity that a relationship leads to. -/
def target? (schema : Schema) (relationship : Relationship) : Option Entity :=
  schema.entity? relationship.target

/-- The column names of a table. -/
def columnNames (schema : Schema) (table : String) : List String :=
  match schema.entities.find? fun entity => entity.table == table with
  | some entity => entity.columns.map Column.name
  | none =>
    match schema.links.find? fun link => link.name == table with
    | some link => link.columns
    | none => []

end Schema

end FilterQuery
