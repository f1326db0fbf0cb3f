import FilterQuery.Event
import FilterQuery.JoinTracker
import FilterQuery.Options
import FilterQuery.Scope

/-!
# Building queries

A definition is gone through in order.  An operator whose key is absent is skipped; any other adds
a condition.  A condition on a field of the root entity stands in the statement itself.  Conditions
on related rows are collected in one subquery over an alias of the root table, in which every
relationship prefix is joined once.

* `BuildFault` — why a query cannot be built.
* `Progress` — what a build has joined, collected and reported so far; a builder that is used
  again goes on from there.
* `relatedScope`, `enter`, `walk` — the subquery, one relationship, a path of them.
* `applyOperator`, `applyFields` — one operator, all of them.
* `build` — the whole: conditions, subquery, ordering.
-/

namespace FilterQuery

open FilterQuery.Sql

/-! ## Faults -/

/-- Why a path leads nowhere. -/
inductive PathBreak where
  | notColumn (segment entity : String)
  | notRelationship (segment entity : String)
  /-- The root is a class of this name and written form that no table stores. -/
  | notMapped (name written : String)
  deriving DecidableEq, Repr

namespace PathBreak

/-- The wording of a break. -/
def reason : PathBreak → String
  | notColumn segment entity => "'" ++ segment ++ "' is not a column of " ++ entity
  | notRelationship segment entity => "'" ++ segment ++ "' is not a relationship of " ++ entity
  | notMapped _ written => written ++ " is not a mapped class"

/-- The segment at which a path breaks. -/
def segment? : PathBreak → Option String
  | notColumn segment _ => some segment
  | notRelationship segment _ => some segment
  | notMapped _ _ => none

/-- The entity on which the segment was looked up. -/
def model : PathBreak → String
  | notColumn _ entity => entity
  | notRelationship _ entity => entity
  | notMapped name _ => name

end PathBreak

/-- Why a query cannot be built. -/
inductive BuildFault where
  /-- The base statement selects no entity. -/
  | noEntity
  /-- The root is a class with this written form that no table stores. -/
  | notMapped (written : String)
  /-- A declared operator is unknown; its display form, and the field it is declared on. -/
  | unknownOperator (operator : String) (field : String)
  | invalidPath (field : String) (cause : PathBreak)
  /-- The filter values cannot be looked up. -/
  | lookup (fault : LookupFault)
  | operand (fault : OperandFault)
  /-- An alias has no such part: an alias is no entity. -/
  | missingPart (name : String)
  /-- An entity of another root has no such relationship. -/
  | missingField (entity name : String)
  | scope (fault : ScopeFault)
  deriving DecidableEq, Repr

/-- The operator that a name in a definition means: an operator itself, or its spelling. -/
def operatorOf? : Value → Option Operator
  | .op operator => some operator
  | name => Operator.ofName? name.display

/-- The wording for an unknown operator; `field` is the field's name in display form. -/
def unknownOperatorText (operator field : String) : String :=
  "Unknown operator '" ++ operator ++ "' for field '" ++ field ++ "'"

/-! ## Progress -/

/-- An alias inside the subquery, with the entity whose rows it stands for. -/
structure Alias where
  source : Source
  entity : Entity
  deriving DecidableEq, Repr

/-- What a build has done so far. -/
structure Progress where
  tracker : JoinTracker Alias
  related : Option Related
  /-- The number of the next alias. -/
  fresh : Nat
  events : List Event
  deriving Repr

/-- Nothing is done yet. -/
def Progress.start : Progress :=
  ⟨[], none, 0, []⟩

/-- A build that goes on from some progress, and may fail. -/
abbrev Build := ExceptT BuildFault (StateM Progress)

/-- Reports an event. -/
def report (event : Event) : Build Unit :=
  modify fun progress => { progress with events := progress.events ++ [event] }

/-- A new alias of a table. -/
def newAlias (table : String) : Build Source := do
  let progress ← get
  set { progress with fresh := progress.fresh + 1 }
  return ⟨table, .related progress.fresh⟩

/-- What a build is about. -/
structure BuildContext where
  schema : Schema
  /-- The filter values. -/
  filters : Value
  /-- Whether `contains` ignores case. -/
  ignoreCase : Bool

/-! ## Paths -/

/-- Fails at a path that leads nowhere. -/
def breakPath {α : Type} (field : FieldFilter) (cause : PathBreak) : Build α := do
  report (.invalidPath field.name cause.reason)
  throw (.invalidPath field.name cause)

/-- The column of an entity that a path ends in, in a source. -/
def columnOf (field : FieldFilter) (entity : Entity) (source : Source) : Build ColumnRef :=
  let name := field.path.getLast?.getD ""
  match entity.column? name with
  | some column => return ColumnRef.ofColumn source column
  | none => breakPath field (.notColumn name entity.name)

/-- The subquery of an entity before anything is joined: an alias of its table with the row
outside, found by its whole primary key. -/
def Related.start (entity : Entity) (root : Source) : Related where
  entity := entity
  root := root
  correlation := entity.keyColumns.map fun column =>
    (⟨root, column.name⟩, ⟨.ofTable entity.table, column.name⟩)
  joins := []
  predicates := []

/-- The subquery of related rows, begun now if there is none yet. -/
def relatedScope (root : Root) : Build Related := do
  match (← get).related with
  | some related => return related
  | none =>
    match root with
    | .entity entity =>
      let source ← newAlias entity.table
      let related := Related.start entity source
      modify fun progress => { progress with related := some related }
      return related
    | .aliased _ => throw (.missingPart "primary_key")
    | .unmapped _ written => throw (.notMapped written)
    | .none => throw .noEntity

/-- A place on a path: the joins so far, the alias reached and the entity it is looked upon as. -/
structure Reached where
  related : Related
  here : Alias
  entity : Entity

/-- Enters a relationship: under the alias of its prefix if that is joined, else under a new
one. -/
def enter (context : BuildContext) (field : FieldFilter) (path : FieldPath) (segment : String)
    (reached : Reached) : Build Reached := do
  let found := do
    let relationship ← reached.entity.relationship? segment
    return (relationship, ← context.schema.target? relationship)
  match found with
  | none => breakPath field (.notRelationship segment reached.entity.name)
  | some (_, target) =>
    match (← get).tracker.alias? path with
    | some known => return { reached with here := known, entity := target }
    | none =>
      match reached.here.entity.relationship? segment with
      | none => throw (.missingField reached.here.entity.name segment)
      | some held =>
        let link ←
          match linkTable? held.linkage with
          | some table => newAlias table
          | none => pure (.ofTable "")
        let source ← newAlias target.table
        let known : Alias := ⟨source, target⟩
        modify fun progress => { progress with tracker := progress.tracker.add path known }
        report (.joined field.name (FieldPath.dotted path))
        let joins := linkageJoins held.linkage reached.here.source link source
        return ⟨{ reached.related with joins := reached.related.joins ++ joins }, known, target⟩

/-- Enters relationships one after the other; `behind` is the prefix entered already. -/
def walk (context : BuildContext) (field : FieldFilter) (behind : FieldPath) :
    List String → Reached → Build Reached
  | [], reached => return reached
  | segment :: rest, reached => do
    let next ← enter context field (behind ++ [segment]) segment reached
    walk context field (behind ++ [segment]) rest next

/-- The column that a path over relationships leads to, joined on the way. -/
def relatedColumn (context : BuildContext) (root : Root) (field : FieldFilter) :
    Build ColumnRef := do
  let related ← relatedScope root
  match root with
  | .entity entity =>
    let reached ← walk context field [] field.path.dropLast
      ⟨related, ⟨related.root, related.entity⟩, entity⟩
    modify fun progress => { progress with related := some reached.related }
    columnOf field reached.entity reached.here.source
  | .aliased _ => throw (.missingPart "relationships")
  | .unmapped name written => breakPath field (.notMapped name written)
  | .none => throw .noEntity

/-- The column of the root entity that a path of one segment names. -/
def rootColumn (root : Root) (field : FieldFilter) : Build ColumnRef :=
  match root with
  | .entity entity => columnOf field entity (.ofTable entity.table)
  | .aliased _ => throw (.missingPart "attrs")
  | .unmapped name written => breakPath field (.notMapped name written)
  | .none => throw .noEntity

/-! ## Operators -/

/-- Adds a condition to the subquery. -/
def addRelated (predicate : Predicate ColumnRef) : Build Unit :=
  modify fun progress =>
    { progress with related := progress.related.map fun related =>
        { related with predicates := related.predicates ++ [predicate] } }

/-- Applies an operator to a field: skips it if its key is absent, else adds its condition. -/
def applyOperator (context : BuildContext) (root : Root) (field : FieldFilter)
    (declared : Value × String) (statement : Statement) : Build Statement := do
  let key := declared.2
  if !(← liftExcept ((hasFilter context.filters key).mapError BuildFault.lookup)) then
    report (.skipped field.name key)
    return statement
  match operatorOf? declared.1 with
  | none =>
    let shown := declared.1.display
    report (.unknownOperator (unknownOperatorText shown field.name) field.name key)
    throw (.unknownOperator shown field.name)
  | some operator =>
    let value ← liftExcept ((filterValue context.filters key).mapError BuildFault.lookup)
    let predicateOf (column : ColumnRef) : Build (Predicate ColumnRef) :=
      liftExcept ((operator.predicate column value context.ignoreCase).mapError
        BuildFault.operand)
    let next ←
      if field.path.length = 1 then do
        let predicate ← predicateOf (← rootColumn root field)
        pure (statement.filter (.test predicate))
      else do
        let predicate ← predicateOf (← relatedColumn context root field)
        addRelated predicate
        pure statement
    report (.applied field.name operator key)
    return next

/-- Applies the operators of a field in order. -/
def applyField (context : BuildContext) (root : Root) (statement : Statement)
    (field : FieldFilter) : Build Statement :=
  field.operators.foldlM (fun statement declared =>
    applyOperator context root field declared statement) statement

/-- Applies the operators of all fields in order. -/
def applyFields (context : BuildContext) (root : Root) (fields : List FieldFilter)
    (statement : Statement) : Build Statement :=
  fields.foldlM (applyField context root) statement

/-! ## Queries -/

/-- Builds a query: the conditions, then the subquery if there is one, then the ordering. -/
def build (context : BuildContext) (definition : Definition) (base : Statement) :
    Build Statement := do
  match base.root with
  | .none => throw .noEntity
  | root =>
    let filtered ← applyFields context root definition.fields base
    let related :=
      match (← get).related with
      | some related => filtered.filter (.exists related)
      | none => filtered
    liftExcept ((related.orderBy definition.ordering).mapError BuildFault.scope)

/-- Builds a query from the start: the result, and the events. -/
def buildFresh (context : BuildContext) (definition : Definition) (base : Statement) :
    Except BuildFault Statement × List Event :=
  let (result, progress) := (build context definition base).run .start
  (result, progress.events)

end FilterQuery
