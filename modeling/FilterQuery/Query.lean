import FilterQuery.Children

/-!
# Entry points

Queries and fetched children, from a base statement, options, and a definition.

* `Configure`, `Configure.definition` — how a definition is given, and the definition it gives.
* `query` — the statement that selects the filtered records.
* `queryChildren` — the children of the records that the same filters select.
* `Builder` — a builder of its own, which can be used for several base statements.
-/

namespace FilterQuery

open FilterQuery.Sql

/-- How a definition is given. -/
inductive Configure where
  /-- Steps that are carried out on a new definition. -/
  | steps (steps : List Declaration)
  | definition (definition : Definition)
  /-- A value, of which only the absent one gives a definition: the empty one. -/
  | value (value : Value)
  deriving Repr

/-- Why a query fails. -/
inductive QueryFault where
  /-- A value of this type gives no definition. -/
  | configure (type : String)
  | declaration (fault : DeclarationFault)
  | options (fault : OptionsFault)
  | build (fault : BuildFault)
  deriving DecidableEq, Repr

/-- The definition that is given. -/
def Configure.build : Configure → Except QueryFault Definition
  | .steps declared => (Definition.ofSteps declared).mapError .declaration
  | .definition known => .ok known
  | .value .null => .ok .empty
  | .value other => .error (.configure other.typeName)

/-- The statement that selects the filtered records, and what was reported on the way. -/
def query (schema : Schema) (settings : Settings) (base : Statement) (options : Value)
    (configure : Configure) : Except QueryFault Statement × List Event :=
  match configure.build with
  | .error fault => (.error fault, [])
  | .ok definition =>
    match Options.filters settings options with
    | .error fault => (.error (.options fault), [])
    | .ok filters =>
      let (result, events) :=
        buildFresh ⟨schema, .mapping filters, settings.ignoreCase⟩ definition base
      (result.mapError .build, events)

/-! ## Builders -/

/-- A builder: what it builds with, and what it has done so far. -/
structure Builder where
  context : BuildContext
  definition : Definition
  progress : Progress

namespace Builder

/-- A builder that has done nothing yet. -/
def new (schema : Schema) (settings : Settings) (definition : Definition) (filters : Value) :
    Builder :=
  ⟨⟨schema, filters, settings.ignoreCase⟩, definition, .start⟩

/-- Builds on a base statement.  Related conditions and joins stay with the builder. -/
def build (builder : Builder) (base : Statement) :
    Except BuildFault Statement × List Event × Builder :=
  let start := { builder.progress with events := [] }
  let (result, progress) := (FilterQuery.build builder.context builder.definition base).run start
  (result, progress.events, { builder with progress := progress })

end Builder

/-! ## Children -/

/-- Why children cannot be fetched. -/
inductive ChildrenFault where
  | association (fault : AssociationFault)
  | inverse (fault : InverseFault)
  | query (fault : QueryFault)
  /-- Children cannot be loaded along with columns; the relationship in one text. -/
  | onlyColumns (relationship : String)
  /-- Children are not loaded along with other entities: the entity and its table, and those that
  are selected. -/
  | otherEntities (entity : String × String) (selected : List (String × String))
  | run (fault : RunFault)
  | link (fault : LinkFault)
  deriving DecidableEq, Repr

/-- Fetched children. -/
structure Fetched where
  written : Written
  /-- The attribute by which a child refers to its parent. -/
  backward : String
  linked : Linked
  deriving Repr

/-- The entities that a statement selects as a whole. -/
def selectedEntities (statement : Statement) : List Entity :=
  statement.selected.filterMap fun selected =>
    match selected with
    | .entity owner _ => some owner
    | _ => none

/-- Checks that children can be loaded along with what is selected. -/
def checkLoadable (statement : Statement) (eager : Eager) : Except ChildrenFault Unit :=
  let entities := selectedEntities statement
  if entities.any fun entity => entity.name == eager.parent.name then .ok ()
  else if entities.isEmpty then
    .error (.onlyColumns (eager.parent.name ++ "." ++ eager.relationship.name))
  else
    .error (.otherEntities (eager.parent.name, eager.parent.table)
      (entities.map fun entity => (entity.name, entity.table)))

/-- The children of the records that the filters select, each linked to its parent, and what was
reported on the way. -/
def queryChildren (database : Database) (settings : Settings) (association : String)
    (base : Statement) (options : Value) (configure : Configure) (given : Value) :
    Except ChildrenFault Fetched × List Event :=
  let prepared : Except ChildrenFault (Eager × String) := do
    let (entity, relationship) ←
      (childRelationship base.root association).mapError ChildrenFault.association
    match database.schema.target? relationship with
    | none => throw (.association (.noRelationship entity.name association))
    | some target =>
      let backward ← (parentAttribute (.ofRelationship entity relationship target) given).mapError
        ChildrenFault.inverse
      return (⟨entity, relationship, target⟩, backward)
  match prepared with
  | .error fault => (.error fault, [])
  | .ok (eager, backward) =>
    let (result, events) :=
      query database.schema settings { base with eager := some eager } options configure
    match result with
    | .error fault => (.error (.query fault), events)
    | .ok statement =>
      let fetched : Except ChildrenFault (Fetched × Nat) := do
        checkLoadable statement eager
        let families ← (statement.families database eager).mapError ChildrenFault.run
        let linked ← (linkLoaded database.schema families association backward).mapError
          ChildrenFault.link
        return (⟨(Query.rows statement).written, backward, linked⟩, families.length)
      match fetched with
      | .error fault => (.error fault, events)
      | .ok (result, parents) =>
        (.ok result,
          events ++ [.fetched association parents result.linked.children.length])

end FilterQuery
