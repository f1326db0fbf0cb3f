import FilterQuery.Schema
import FilterQuery.Value.Basic

/-!
# Statements

A statement selects from tables.  The same table may occur several times in it, so a statement
speaks of sources: a table itself, or one of its aliases.  An alias says which role it plays; its
name is chosen when the statement is written down (`FilterQuery.Sql.Written`).

* `Source`, `Place`, `ColumnRef` — an occurrence of a table, a column of it, a typed column.
* `Predicate` — a condition on one column.
* `Related` — a correlated subquery over an alias of the root table: the row itself must have
  joined rows on which all its predicates hold.
* `Statement` — selected things, joins, conditions, ordering and limits.
* `linkageJoins` — the joins that lead along a relationship.
-/

namespace FilterQuery.Sql

/-- The roles in which a table occurs in a statement. -/
inductive Role where
  /-- The table under its own name. -/
  | itself
  /-- The alias that the statement selects from. -/
  | scope
  /-- A table of pairs among the joins of the statement. -/
  | scopeLink (number : Nat)
  /-- The table of the children that are loaded along. -/
  | child
  /-- The table of pairs between a parent and its children. -/
  | childLink
  /-- An alias inside a subquery. -/
  | related (number : Nat)
  deriving DecidableEq, Repr

/-- An occurrence of a table. -/
structure Source where
  table : String
  role : Role
  deriving DecidableEq, Repr

/-- A table under its own name. -/
def Source.ofTable (table : String) : Source :=
  ⟨table, .itself⟩

/-- A column of a source. -/
structure Place where
  source : Source
  name : String
  deriving DecidableEq, Repr

/-- A column of a source with the type of its values. -/
structure ColumnRef where
  source : Source
  name : String
  type : ColumnType
  deriving DecidableEq, Repr

/-- The column without its type. -/
def ColumnRef.place (column : ColumnRef) : Place :=
  ⟨column.source, column.name⟩

/-- The occurrence of an entity's column in a source. -/
def ColumnRef.ofColumn (source : Source) (column : Column) : ColumnRef :=
  ⟨source, column.name, column.type⟩

/-! ## Conditions -/

/-- The comparisons of the statement language. -/
inductive Comparison where
  | equal
  | notEqual
  | less
  | lessOrEqual
  | greater
  | greaterOrEqual
  deriving DecidableEq, Repr

/-- A condition on one column.  `α` is how the column is referred to. -/
inductive Predicate (α : Type) where
  /-- The column compares to a parameter. -/
  | compare (column : α) (comparison : Comparison) (value : Value)
  /-- The column is, or is not, the number that stands for a truth value. -/
  | flag (column : α) (isNegated : Bool) (truth : Bool)
  /-- The column is, or is not, empty. -/
  | isNull (column : α) (isNegated : Bool)
  /-- The column contains a text, which is given as it stands in a pattern. -/
  | contains (column : α) (ignoreCase : Bool) (pattern : String)
  deriving Repr

/-- The column of a condition. -/
def Predicate.column {α : Type} : Predicate α → α
  | .compare subject _ _ => subject
  | .flag subject _ _ => subject
  | .isNull subject _ => subject
  | .contains subject _ _ => subject

/-- A source joined by equal columns. -/
structure Join where
  target : Source
  equalities : List (Place × Place)
  deriving DecidableEq, Repr

/-- A subquery over an alias of the root table, correlated to the row outside. -/
structure Related where
  entity : Entity
  root : Source
  /-- The key columns of the alias and of the row outside. -/
  correlation : List (Place × Place)
  joins : List Join
  predicates : List (Predicate ColumnRef)
  deriving Repr

/-- A condition of a statement. -/
inductive Condition where
  | test (predicate : Predicate ColumnRef)
  | exists (related : Related)
  /-- A condition of any other form: its text, and the sources that its columns are of.  When it is true
  is for the database to say. -/
  | written (text : String) (sources : List Source)
  deriving Repr

/-! ## Ordering and selection -/

/-- A term of an ordering. -/
inductive OrderTerm where
  /-- A column, with a direction (true for descending) and a place for empty cells (true for
  first) where these are stated. -/
  | column (column : ColumnRef) (descending : Option Bool) (emptyFirst : Option Bool)
  /-- Raw text of the statement language. -/
  | text (raw : String)
  /-- The empty value. -/
  | null
  /-- The number that stands for a truth value. -/
  | flag (truth : Bool)
  deriving Repr

/-- A selected thing. -/
inductive Selected where
  /-- All columns of an entity. -/
  | entity (entity : Entity) (source : Source)
  /-- One column of an entity. -/
  | column (entity : Entity) (column : ColumnRef)
  /-- The number of rows in which a column of an entity is not empty. -/
  | count (entity : Entity) (column : ColumnRef)
  deriving Repr

/-- What the rows of a statement are rows of. -/
inductive Root where
  | entity (entity : Entity)
  /-- An alias of an entity. -/
  | aliased (entity : Entity)
  /-- A class that no table stores, with its name and its written form. -/
  | unmapped (name written : String)
  /-- No entity at all. -/
  | none
  deriving Repr

/-- The children of an entity that are loaded along with it. -/
structure Eager where
  /-- The entity whose children are loaded. -/
  parent : Entity
  relationship : Relationship
  target : Entity
  deriving Repr

/-- A statement. -/
structure Statement where
  root : Root
  selected : List Selected
  /-- The source that the joins start from, and the joins. -/
  joins : Option (Source × List Join)
  conditions : List Condition
  order : List OrderTerm
  distinct : Bool
  limit : Option Int
  offset : Option Int
  eager : Option Eager
  deriving Repr

/-- A statement, or the number of its rows. -/
inductive Query where
  | rows (statement : Statement)
  | count (statement : Statement)
  deriving Repr

/-- The source of a selected thing. -/
def Selected.source : Selected → Source
  | .entity _ place => place
  | .column _ shown => shown.source
  | .count _ counted => counted.source

/-- The entity of a selected thing. -/
def Selected.owner : Selected → Entity
  | .entity owner _ => owner
  | .column owner _ => owner
  | .count owner _ => owner

/-! ## Joins along relationships -/

/-- Equalities between columns of two sources. -/
def equate (left right : Source) (pairs : List (String × String)) : List (Place × Place) :=
  pairs.map fun pair => (⟨left, pair.1⟩, ⟨right, pair.2⟩)

/-- The joins that lead from a holder to a target, over an occurrence of the table of pairs where
there is one. -/
def linkageJoins (linkage : Linkage) (holder link target : Source) : List Join :=
  match linkage with
  | .refersTo pairs => [⟨target, equate target holder pairs⟩]
  | .referredBy pairs => [⟨target, equate holder target pairs⟩]
  | .through _ holderPairs targetPairs =>
    [⟨link, equate holder link holderPairs⟩, ⟨target, equate target link targetPairs⟩]

/-- The table of pairs of a linkage, if there is one. -/
def linkTable? : Linkage → Option String
  | .through table _ _ => some table
  | _ => none

namespace Eager

/-- Where the parents are selected. -/
def holder (eager : Eager) : Source :=
  .ofTable eager.parent.table

/-- Where the children come from. -/
def source (eager : Eager) : Source :=
  ⟨eager.target.table, .child⟩

/-- The occurrence of the table of pairs between parents and children, if there is one. -/
def link (eager : Eager) : Source :=
  ⟨(linkTable? eager.relationship.linkage).getD "", .childLink⟩

/-- The joins from a parent to its children. -/
def joins (eager : Eager) : List Join :=
  linkageJoins eager.relationship.linkage eager.holder eager.link eager.source

/-- The declared order of the children. -/
def order (eager : Eager) : List (ColumnRef × Bool) :=
  eager.relationship.order.filterMap fun (name, isDescending) =>
    (eager.target.columnNamed? name).map fun column =>
      (ColumnRef.ofColumn eager.source column, isDescending)

end Eager

namespace Statement

/-- A statement that selects things and does nothing else. -/
def ofSelected (root : Root) (selected : List Selected) : Statement where
  root := root
  selected := selected
  joins := none
  conditions := []
  order := []
  distinct := false
  limit := none
  offset := none
  eager := none

/-- The statement with one more condition. -/
def filter (statement : Statement) (condition : Condition) : Statement :=
  { statement with conditions := statement.conditions ++ [condition] }

end Statement

/-! ## Sources of a statement -/

/-- The sources of a chain of joins. -/
def joinSources (first : Source) (joins : List Join) : List Source :=
  first :: joins.map Join.target

/-- Adds sources that are not there yet. -/
def addSources (known more : List Source) : List Source :=
  more.foldl (fun sources source => if sources.contains source then sources
    else sources ++ [source]) known

/-- The sources that the conditions of a statement speak of. -/
def conditionSources (conditions : List Condition) : List Source :=
  conditions.flatMap fun condition =>
    match condition with
    | .test predicate => [predicate.column.source]
    | .exists _ => []
    | .written _ sources => sources

namespace Statement

/-- The sources that start the parts of the statement's source list: the start of the joins, then
what is selected, then what the conditions speak of. -/
def leadingSources (statement : Statement) : List Source :=
  let selected := statement.selected.map Selected.source
  let spoken := conditionSources statement.conditions
  match statement.joins with
  | none => addSources [] (selected ++ spoken)
  | some (first, joins) =>
    let joined := joinSources first joins
    first :: (addSources [] (selected ++ spoken)).filter (!joined.contains ·)

/-- All sources of the statement in order, the joined ones behind their start. -/
def sources (statement : Statement) : List Source :=
  match statement.joins with
  | none => statement.leadingSources
  | some (first, joins) => joinSources first joins ++ statement.leadingSources.drop 1

/-- Whether the statement limits its rows, so that children can only be joined to its result. -/
def isLimited (statement : Statement) : Bool :=
  statement.limit.isSome || statement.offset.isSome || statement.distinct

end Statement

namespace Related

/-- The joined sources of the subquery. -/
def joinedSources (related : Related) : List Source :=
  joinSources related.root related.joins

/-- The sources that the subquery speaks of beyond its joins. -/
def spokenSources (related : Related) : List Source :=
  let spoken := related.correlation.flatMap (fun pair => [pair.1.source, pair.2.source])
    ++ related.predicates.map fun predicate => predicate.column.source
  (addSources [] spoken).filter (!related.joinedSources.contains ·)

/-- The sources that stand in the subquery because the statement around it does not have them. -/
def ownSources (related : Related) (outside : List Source) : List Source :=
  related.spokenSources.filter (!outside.contains ·)

end Related

end FilterQuery.Sql
