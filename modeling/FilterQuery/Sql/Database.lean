import FilterQuery.Sql.Binding
import FilterQuery.Sql.Like

/-!
# Databases and the meaning of conditions

A database holds rows for the tables of a schema.  A selection is read against an assignment: one
row for each source.  This file says which assignments a list of joins and conditions lets
through; how the result is ordered and shown is `FilterQuery.Sql.Result`.

* `Database`, `Row`, `Assignment`.
* `Predicate.holdsOn` — when a condition is true of a cell.
* `Related.matching` — the assignments inside a subquery.
* `Condition.holds` — when a condition is true of an assignment.
* `Statement.scope` — the assignments that a statement selects.
-/

namespace FilterQuery.Sql

/-- A row of a table: its cells by the names of their columns. -/
abbrev Row := List (String × Cell)

/-- The cell of a column.  A column that is not there is empty. -/
def Row.cell (row : Row) (name : String) : Cell :=
  (List.lookup name row).getD .null

/-- One row for each source. -/
abbrev Assignment := List (Source × Row)

/-- The tables of a schema with their rows. -/
structure Database where
  schema : Schema
  tables : List (String × List Row)
  /-- Of which assignments a written condition is true. -/
  truth : String → Assignment → Bool := fun _ _ => false

/-- The rows of a table, in the order of storage. -/
def Database.rows (database : Database) (table : String) : List Row :=
  (database.tables.lookup table).getD []

namespace Assignment

/-- The row of a source; one without cells if the source has none. -/
def row (assignment : Assignment) (source : Source) : Row :=
  (List.lookup source assignment).getD []

/-- The cell at a place. -/
def cell (assignment : Assignment) (place : Place) : Cell :=
  (assignment.row place.source).cell place.name

/-- Whether the cells of each pair are equal.  The columns of a pair have one type, so neither cell is
brought into another form first. -/
def agrees (assignment : Assignment) (equalities : List (Place × Place)) : Bool :=
  equalities.all fun pair =>
    (assignment.cell pair.1).equal? (assignment.cell pair.2) == some true

end Assignment

/-! ## Conditions on a cell -/

/-- Whether a column's values are compared as numbers where they look like numbers. -/
def isNumeric : ColumnType → Bool
  | .string | .text => false
  | _ => true

/-- A parameter as it is compared with the cells of a column: a text that looks like a number
becomes one beside numbers, a number becomes text beside texts. -/
def comparand (type : ColumnType) (parameter : Cell) : Cell :=
  if isNumeric type then parameter.asNumber else parameter.asText

/-- Whether an order is what a comparison asks for. -/
def Comparison.accepts (comparison : Comparison) (order : Ordering) : Bool :=
  match comparison with
  | equal => order == .eq
  | notEqual => order != .eq
  | less => order == .lt
  | lessOrEqual => order != .gt
  | greater => order == .gt
  | greaterOrEqual => order != .lt

/-- Whether a comparison is true of two cells; never with an empty one. -/
def Comparison.holds (comparison : Comparison) (a b : Cell) : Bool :=
  (a.order? b).elim false comparison.accepts

/-- The pattern for texts that contain a text, itself in the form of a pattern. -/
def containsPattern (pattern : String) : List Char :=
  '%' :: pattern.toList ++ ['%']

/-- Whether a condition is true of a cell of a column of the type. -/
def Predicate.holdsOn {α : Type} (type : ColumnType) (cell : Cell) : Predicate α → Bool
  | .compare _ comparison value =>
    comparison.holds cell (comparand type (Binding.cell type value))
  | .flag _ isNegated truth =>
    (if isNegated then Comparison.notEqual else .equal).holds cell
      (comparand type (.int (if truth then 1 else 0)))
  | .isNull _ isNegated => (cell == .null) != isNegated
  | .contains _ ignoreCase pattern =>
    match cell.shown? with
    | none => false
    | some text =>
      if ignoreCase then
        Like.isMatch (containsPattern (Text.lowerAscii pattern)) (Text.lowerAscii text).toList
      else Like.isMatch (containsPattern pattern) text.toList

/-- Whether a condition is true of an assignment. -/
def Predicate.holds (assignment : Assignment) (predicate : Predicate ColumnRef) : Bool :=
  predicate.holdsOn predicate.column.type (assignment.cell predicate.column.place)

/-! ## Joins -/

/-- All ways to add a row for a source. -/
def Database.extend (database : Database) (assignments : List Assignment) (source : Source) :
    List Assignment :=
  assignments.flatMap fun assignment =>
    (database.rows source.table).map fun row => (source, row) :: assignment

/-- All ways to add a row for each of the sources. -/
def Database.extendAll (database : Database) (assignments : List Assignment)
    (sources : List Source) : List Assignment :=
  sources.foldl database.extend assignments

/-- All ways to add a joined row. -/
def Database.join (database : Database) (assignments : List Assignment) (join : Join) :
    List Assignment :=
  (database.extend assignments join.target).filter fun assignment =>
    Assignment.agrees assignment join.equalities

/-- All ways to add a row for the first source and joined rows behind it. -/
def Database.chain (database : Database) (assignments : List Assignment) (first : Source)
    (joins : List Join) : List Assignment :=
  joins.foldl database.join (database.extend assignments first)

/-! ## Subqueries and statements -/

/-- The assignments inside a subquery that extend the one outside; `outside` are the sources of the
statement around it. -/
def Related.matching (database : Database) (outside : List Source) (assignment : Assignment)
    (related : Related) : List Assignment :=
  (database.extendAll (database.chain [assignment] related.root related.joins)
    (related.ownSources outside)).filter fun inner =>
      Assignment.agrees inner related.correlation && related.predicates.all (Predicate.holds inner)

/-- Whether a condition is true of an assignment. -/
def Condition.holds (database : Database) (outside : List Source) (assignment : Assignment) :
    Condition → Bool
  | .test predicate => predicate.holds assignment
  | .exists related => !(related.matching database outside assignment).isEmpty
  | .written text _ => database.truth text assignment

namespace Statement

/-- The assignments of the sources of a statement, before its conditions. -/
def candidates (database : Database) (statement : Statement) : List Assignment :=
  match statement.joins with
  | none => database.extendAll [[]] statement.leadingSources
  | some (first, joins) =>
    database.extendAll (database.chain [[]] first joins) (statement.leadingSources.drop 1)

/-- The assignments that a statement selects, in no stated order. -/
def scope (database : Database) (statement : Statement) : List Assignment :=
  (statement.candidates database).filter fun assignment =>
    statement.conditions.all (Condition.holds database statement.sources assignment)

end Statement

end FilterQuery.Sql
