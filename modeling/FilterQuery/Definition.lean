import FilterQuery.FieldPath
import FilterQuery.Sql.Statement

/-!
# Query definitions

A definition declares which fields can be filtered, by which operators, and under which runtime
key the value of each operator is given.  It also holds the ordering of the result.

* `FieldFilter` — a field with its operators and their keys.
* `OrderClause` — a declared ordering clause.
* `Declaration` — one step of a definition.
* `Definition.declare`, `Definition.extend` — carrying out a step, or all of them.
-/

namespace FilterQuery

open FilterQuery.Sql

/-- A declared field with its operators.  Operators are not checked here: their names may be any
values, each with the key under which its value is given. -/
structure FieldFilter where
  path : FieldPath
  operators : List (Value × String)
  deriving Repr

/-- The dotted path, used in logs and errors. -/
def FieldFilter.name (field : FieldFilter) : String :=
  FieldPath.dotted field.path

/-- A declared ordering clause. -/
inductive OrderClause where
  /-- A column, with a direction and a place for empty cells where these are stated. -/
  | column (column : ColumnRef) (descending : Option Bool) (emptyFirst : Option Bool)
  /-- Raw text. -/
  | text (raw : String)
  /-- Anything else. -/
  | value (value : Value)
  deriving Repr

/-- The clause of a value: a text is raw text. -/
def OrderClause.ofValue (value : Value) : OrderClause :=
  match value.text? with
  | some raw => .text raw
  | none => .value value

/-- The declared fields in order, and the ordering. -/
structure Definition where
  fields : List FieldFilter
  ordering : List OrderClause
  deriving Repr

/-- Why a declaration fails. -/
inductive DeclarationFault where
  | path (fault : PathFault)
  | operators (fault : MappingFault)
  /-- An argument is given twice, by position and by name. -/
  | repeated (argument : String)
  deriving DecidableEq, Repr

/-- One step of a definition. -/
inductive Declaration where
  /-- Declares a field.  Operators come as a mapping or what describes one, and by name. -/
  | field (path : Value) (operators : Option Value) (named : List (String × Value))
  /-- Sets the ordering. -/
  | order (clauses : List OrderClause)
  deriving Repr

namespace Definition

/-- The empty definition. -/
def empty : Definition :=
  ⟨[], []⟩

/-- The operators of a declaration: those of the mapping, overridden by those given by name.  A
mapping that counts as false is none at all. -/
def operatorMapping (operators : Option Value) (named : List (String × Value)) :
    Except MappingFault Mapping := do
  let given ←
    match operators with
    | none => pure []
    | some value => if value.isTruthy then Mapping.ofValue value else pure []
  return Mapping.merge given (named.map fun entry => (.str entry.1, entry.2))

/-- The operators with their keys as texts; keys are taken to be values that can be written.  A field
without operators is asked for its presence, under its own name. -/
def withKeys (path : FieldPath) (operators : Mapping) : List (Value × String) :=
  let declared :=
    if operators.isEmpty then [(.op .present, .str (path.getLast?.getD ""))] else operators
  declared.map fun entry => (entry.1, entry.2.display)

/-- The argument that names among operators give a second time.  The mapping of operators can be
given by its name if it is not given otherwise. -/
def repeated? (operators : Option Value) (named : List (String × Value)) : Option String :=
  let taken := ["self", "field_path"] ++ (if operators.isSome then ["operators"] else [])
  (named.find? fun entry => taken.contains entry.1).map Prod.fst

/-- The filter that a declaration of a field makes. -/
def fieldFilter (path : Value) (operators : Option Value) (named : List (String × Value)) :
    Except DeclarationFault FieldFilter := do
  if let some argument := repeated? operators named then throw (.repeated argument)
  let byName := named.reverse.lookup "operators"
  let others := named.filter fun entry => entry.1 != "operators"
  let segments ← (FieldPath.ofValue path).mapError DeclarationFault.path
  let mapping ← (operatorMapping (operators <|> byName) others).mapError DeclarationFault.operators
  return ⟨segments, withKeys segments mapping⟩

/-- Carries out a step.  A later ordering replaces an earlier one. -/
def declare (definition : Definition) : Declaration → Except DeclarationFault Definition
  | .field path operators named => do
    let field ← fieldFilter path operators named
    return { definition with fields := definition.fields ++ [field] }
  | .order clauses => .ok { definition with ordering := clauses }

/-- Carries out steps until one fails. -/
def extend (definition : Definition) (steps : List Declaration) :
    Except DeclarationFault Definition :=
  steps.foldlM declare definition

/-- The definition that steps make. -/
def ofSteps (steps : List Declaration) : Except DeclarationFault Definition :=
  extend empty steps

/-- All runtime keys in order. -/
def runtimeKeys (definition : Definition) : List String :=
  definition.fields.flatMap fun field => field.operators.map Prod.snd

/-- The literal form of a definition. -/
def literal (definition : Definition) : String :=
  "QueryDefinition(fields=" ++ toString definition.fields.length ++ ", ordered="
    ++ (if definition.ordering.isEmpty then "False" else "True") ++ ")"

end Definition

end FilterQuery
