import FilterQuery.Definition
import FilterQuery.Operand

/-!
# Base statements

The statement that a query starts from, put together from an entity or from columns, with joins,
conditions and an ordering of its own.

* `Selection.statement` — selecting entities, columns, aliases, or things without an entity.
* `Statement.joinAlong`, `Statement.filterBy`, `Statement.orderBy` — building it up.
-/

namespace FilterQuery

open FilterQuery.Sql

/-- Why a base statement cannot be built. -/
inductive ScopeFault where
  /-- There is no entity, column or relationship of this name. -/
  | unknownName (name : String)
  | operand (fault : OperandFault)
  /-- Rows cannot be ordered by a value; its literal form is shown. -/
  | notOrdering (shown : String)
  deriving DecidableEq, Repr

/-- What a base statement selects. -/
inductive Selection where
  /-- All columns of entities, and single columns `Entity.field`. -/
  | columns (names : List String)
  /-- The number of rows in which a column is not empty. -/
  | count (name : String)
  /-- An entity under an alias. -/
  | aliased (name : String)
  /-- A class that no table stores, with its written form. -/
  | unmapped (name written : String)
  /-- Something that is no entity. -/
  | other
  deriving Repr

/-- The entity and the column that a name `Entity.field` means. -/
def Schema.field? (schema : Schema) (name : String) : Option (Entity × ColumnRef) :=
  match FieldPath.ofDotted name with
  | [entityName, field] => do
    let entity ← schema.entity? entityName
    let column ← entity.columnOrSynonym? field
    return (entity, ColumnRef.ofColumn (.ofTable entity.table) column)
  | _ => none

namespace Selection

/-- The thing that a name selects. -/
def selected (schema : Schema) (name : String) : Except ScopeFault Selected :=
  match schema.entity? name, schema.field? name with
  | some entity, _ => .ok (.entity entity (.ofTable entity.table))
  | none, some (entity, column) => .ok (.column entity column)
  | none, none => .error (.unknownName name)

/-- The statement that selects these things. -/
def statement (schema : Schema) : Selection → Except ScopeFault Statement
  | columns names => do
    let things ← names.mapM (selected schema)
    return Statement.ofSelected (things.head?.elim .none fun first => .entity first.owner) things
  | count name =>
    match schema.field? name with
    | some (entity, column) => .ok (Statement.ofSelected (.entity entity) [.count entity column])
    | none => .error (.unknownName name)
  | aliased name =>
    match schema.entity? name with
    | some entity =>
      .ok (Statement.ofSelected (.aliased entity) [.entity entity ⟨entity.table, .scope⟩])
    | none => .error (.unknownName name)
  | unmapped name written => .ok (Statement.ofSelected (.unmapped name written) [])
  | other => .ok (Statement.ofSelected .none [])

end Selection

/-- The ordering term of a clause.  Only columns, texts, truth values and the empty value order
rows. -/
def OrderClause.term : OrderClause → Except ScopeFault OrderTerm
  | .column ref descending emptyFirst => .ok (.column ref descending emptyFirst)
  | .text raw => .ok (.text raw)
  | .value .null => .ok .null
  | .value (.bool truth) => .ok (.flag truth)
  | .value other => .error (.notOrdering other.literal)

namespace Sql.Statement

/-- Joins the table that a relationship `Entity.name` leads to. -/
def joinAlong (schema : Schema) (statement : Statement) (name : String) :
    Except ScopeFault Statement :=
  let found :=
    match FieldPath.ofDotted name with
    | [entityName, relationshipName] => do
      let entity ← schema.entity? entityName
      let relationship ← entity.relationship? relationshipName
      let target ← schema.target? relationship
      some (entity, relationship, target)
    | _ => none
  match found with
  | none => .error (.unknownName name)
  | some (entity, relationship, target) =>
    let (first, known) := statement.joins.getD (.ofTable entity.table, [])
    let link : Source := ⟨(linkTable? relationship.linkage).getD "", .scopeLink known.length⟩
    let joins := linkageJoins relationship.linkage (.ofTable entity.table) link
      (.ofTable target.table)
    .ok { statement with joins := some (first, known ++ joins) }

/-- Adds the condition that an operator puts on a field `Entity.name`. -/
def filterBy (schema : Schema) (statement : Statement) (name : String) (operator : Operator)
    (value : Value) : Except ScopeFault Statement :=
  match schema.field? name with
  | none => .error (.unknownName name)
  | some (_, column) => do
    let predicate ← (operator.predicate column value true).mapError ScopeFault.operand
    return statement.filter (.test predicate)

/-- Adds to the ordering.  The empty value alone takes away the ordering there is. -/
def orderBy (statement : Statement) (clauses : List OrderClause) :
    Except ScopeFault Statement := do
  let terms ← clauses.mapM OrderClause.term
  match terms with
  | [.null] => return { statement with order := [] }
  | _ => return { statement with order := statement.order ++ terms }

end Sql.Statement

end FilterQuery
