import Mathlib.Tactic.Common
import FilterQuery.Build
import FilterQuery.Sql.Database

/-!
# Present operators

Which operators of a definition count, and what each of them asks, before any statement is built.

**Presence.**  An operator counts if there is a value under its key.  `present` lists those that
do, in the order in which they are declared; field and key are forgotten, path, operator and value
stay.  How operators are spread over fields does not count: `present_eq_filterMap`.

**Resolution.**  `Schema.reach` follows relationships from entity to entity and `Schema.columnAt`
ends in a column.  Neither knows of aliases: they say where a path leads, and
`FilterQuery.Proofs.Progress` shows that a build gets to the same place.

**Tests.**  `Present.test` is the condition that a present operator puts on a column, or the fault
of the build that meets it: an unknown operator first, then a path that breaks, then a value that
the operator does not take.  `checkAll` is the first of these faults in a list.
-/

namespace FilterQuery

open FilterQuery.Sql

/-! ## Presence -/

/-- An operator with a value: the path of its field, its name as it is declared, and the value. -/
structure Present where
  path : FieldPath
  declared : Value
  value : Value
  deriving Repr

namespace Present

/-- Whether the condition is on the root entity itself and not on related rows. -/
def IsRoot (present : Present) : Prop :=
  present.path.length = 1

instance : DecidablePred IsRoot := fun present =>
  inferInstanceAs (Decidable (present.path.length = 1))

/-- The relationships that lead to the condition's row. -/
def behind (present : Present) : FieldPath :=
  present.path.dropLast

end Present

/-- The operator of a field that counts, if it does. -/
def FieldFilter.present? (filters : Mapping) (field : FieldFilter) (declared : Value × String) :
    Option Present :=
  (Mapping.find? filters (.str declared.2)).map fun value => ⟨field.path, declared.1, value⟩

/-- The operators of some fields that count, in order. -/
def present (filters : Mapping) (fields : List FieldFilter) : List Present :=
  fields.flatMap fun field => field.operators.filterMap (field.present? filters)

@[simp]
lemma present_append (filters : Mapping) (fields more : List FieldFilter) :
    present filters (fields ++ more) = present filters fields ++ present filters more := by
  simp [present]

/-- The declared operators in order, each with the path of its field and the key of its value. -/
def Definition.declarations (definition : Definition) : List (FieldPath × Value × String) :=
  definition.fields.flatMap fun field => field.operators.map (field.path, ·)

/-- How operators are spread over fields makes no difference to what counts. -/
lemma present_eq_filterMap (filters : Mapping) (definition : Definition) :
    present filters definition.fields = definition.declarations.filterMap fun declaration =>
      (Mapping.find? filters (.str declaration.2.2)).map fun value =>
        ⟨declaration.1, declaration.2.1, value⟩ := by
  simp only [present, Definition.declarations, List.filterMap_flatMap, List.filterMap_map]
  rfl

/-! ## Resolution -/

/-- The relationship of a name, with the entity that it leads to. -/
def Schema.step? (schema : Schema) (entity : Entity) (segment : String) :
    Option (Relationship × Entity) := do
  let relationship ← entity.relationship? segment
  return (relationship, ← schema.target? relationship)

/-- A step is a relationship of the entity together with its target. -/
lemma Schema.step?_eq_some {schema : Schema} {entity target : Entity} {segment : String}
    {relationship : Relationship} :
    schema.step? entity segment = some (relationship, target) ↔
      entity.relationship? segment = some relationship ∧
        schema.target? relationship = some target := by
  rw [Schema.step?]
  cases entity.relationship? segment with
  | none => simp
  | some found =>
      simp only [Option.bind_eq_bind, Option.bind_some, Option.some.injEq]
      cases ht : schema.target? found with
      | none =>
          simp only [Option.bind_none, reduceCtorEq, false_iff, not_and]
          rintro rfl
          simp [ht]
      | some reached =>
          simp only [Option.bind_some, Option.pure_def, Option.some.injEq, Prod.mk.injEq]
          constructor
          · rintro ⟨rfl, rfl⟩
            exact ⟨rfl, ht⟩
          · rintro ⟨rfl, h⟩
            exact ⟨rfl, Option.some.inj (ht.symm.trans h)⟩

/-- The entity that relationships lead to, one after the other. -/
def Schema.reach (schema : Schema) (entity : Entity) : List String → Except PathBreak Entity
  | [] => .ok entity
  | segment :: rest =>
    match schema.step? entity segment with
    | some (_, target) => schema.reach target rest
    | none => .error (.notRelationship segment entity.name)

/-- The column that a path leads to. -/
def Schema.columnAt (schema : Schema) (entity : Entity) (path : FieldPath) :
    Except PathBreak Column :=
  match schema.reach entity path.dropLast with
  | .error cause => .error cause
  | .ok reached =>
    match reached.column? (path.getLast?.getD "") with
    | some column => .ok column
    | none => .error (.notColumn (path.getLast?.getD "") reached.name)

namespace Schema

variable {schema : Schema} {entity reached : Entity}

@[simp]
lemma reach_nil : schema.reach entity [] = .ok entity := rfl

/-- Following relationships is following the first ones and then the others. -/
lemma reach_append (path more : List String) :
    schema.reach entity (path ++ more) =
      match schema.reach entity path with
      | .ok reached => schema.reach reached more
      | .error cause => .error cause := by
  induction path generalizing entity with
  | nil => rfl
  | cons segment rest ih =>
      simp only [List.cons_append, reach]
      cases schema.step? entity segment with
      | none => rfl
      | some found => exact ih

/-- One more relationship. -/
lemma reach_concat_eq_ok {path : List String} {segment : String} :
    schema.reach entity (path ++ [segment]) = .ok reached ↔
      ∃ holder relationship, schema.reach entity path = .ok holder ∧
        schema.step? holder segment = some (relationship, reached) := by
  rw [reach_append]
  cases hp : schema.reach entity path with
  | error cause => simp
  | ok holder =>
      simp only [reach, Except.ok.injEq, exists_and_left, exists_eq_left']
      cases hs : schema.step? holder segment with
      | none => simp
      | some found => obtain ⟨relationship, target⟩ := found; simp

/-- A path leads to a column of the entity that its relationships lead to. -/
lemma columnAt_eq_ok {path : FieldPath} {column : Column} :
    schema.columnAt entity path = .ok column ↔
      ∃ reached, schema.reach entity path.dropLast = .ok reached ∧
        reached.column? (path.getLast?.getD "") = some column := by
  rw [columnAt]
  cases schema.reach entity path.dropLast with
  | error cause => simp
  | ok reached => cases hc : reached.column? (path.getLast?.getD "") <;> simp [hc]

/-- A path of one segment leads to a column of the entity itself. -/
lemma columnAt_of_length_one {path : FieldPath} (h : path.length = 1) :
    schema.columnAt entity path =
      match entity.column? (path.getLast?.getD "") with
      | some column => .ok column
      | none => .error (.notColumn (path.getLast?.getD "") entity.name) := by
  have hnil : path.dropLast = [] := by
    apply List.eq_nil_of_length_eq_zero
    rw [List.length_dropLast, h]
  rw [columnAt, hnil]
  rfl

end Schema

/-! ## Tests -/

/-- A condition with its column referred to in another way. -/
def Sql.Predicate.map {α β : Type} (f : α → β) : Predicate α → Predicate β
  | .compare column comparison value => .compare (f column) comparison value
  | .flag column isNegated truth => .flag (f column) isNegated truth
  | .isNull column isNegated => .isNull (f column) isNegated
  | .contains column ignoreCase pattern => .contains (f column) ignoreCase pattern

section Map

variable {α β : Type} (f : α → β)

@[simp]
lemma Sql.Predicate.column_map (test : Predicate α) : (test.map f).column = f test.column := by
  cases test <;> rfl

@[simp]
lemma Sql.Predicate.holdsOn_map (type : ColumnType) (cell : Cell) (test : Predicate α) :
    (test.map f).holdsOn type cell = test.holdsOn type cell := by
  cases test <;> rfl

/-- An operator asks the same of a column however it is referred to. -/
lemma Operator.predicate_map (operator : Operator) (column : α) (value : Value)
    (ignoreCase : Bool) :
    operator.predicate (f column) value ignoreCase =
      (operator.predicate column value ignoreCase).map (Predicate.map f) := by
  cases operator <;> simp only [Operator.predicate]
  case contains => cases value.text? <;> rfl
  case present => rfl
  case equalTo => cases value <;> rfl
  case notEqualTo => cases value <;> rfl
  all_goals cases value <;> rfl

/-- The column of an operator's condition is the one that the operator is put on. -/
lemma Operator.column_of_predicate {operator : Operator} {column : α} {value : Value}
    {ignoreCase : Bool} {test : Predicate α}
    (h : operator.predicate column value ignoreCase = .ok test) : test.column = column := by
  cases operator <;> simp only [Operator.predicate] at h
  case contains =>
      cases ht : value.text? with
      | none => rw [ht] at h; cases h
      | some text => rw [ht] at h; cases h; rfl
  case present => cases h; rfl
  all_goals cases value <;> cases h <;> rfl

end Map

/-- Whether a condition on a column is true of a row. -/
def Sql.Predicate.holdsFor (row : Row) (test : Predicate Column) : Bool :=
  test.holdsOn test.column.type (row.cell test.column.name)

/-- A condition on a column of a source is true of an assignment exactly if it is of the source's
row. -/
lemma Sql.Predicate.holds_map_ofColumn (assignment : Assignment) (source : Source)
    (test : Predicate Column) :
    (test.map (ColumnRef.ofColumn source)).holds assignment =
      test.holdsFor (assignment.row source) := by
  rw [Predicate.holds, Predicate.holdsOn_map, Predicate.column_map]
  rfl

namespace Present

variable (schema : Schema) (entity : Entity) (ignoreCase : Bool)

/-- The condition of a present operator on the column that its path leads to, or why there is
none. -/
def test (present : Present) : Except BuildFault (Predicate Column) :=
  match operatorOf? present.declared with
  | none => .error (.unknownOperator present.declared.display (FieldPath.dotted present.path))
  | some operator =>
    match schema.columnAt entity present.path with
    | .error cause => .error (.invalidPath (FieldPath.dotted present.path) cause)
    | .ok column => (operator.predicate column present.value ignoreCase).mapError .operand

/-- The first fault among present operators, if there is one. -/
def checkAll : List Present → Except BuildFault Unit
  | [] => .ok ()
  | present :: rest =>
    match present.test schema entity ignoreCase with
    | .ok _ => checkAll rest
    | .error fault => .error fault

variable {schema entity ignoreCase}

/-- What it takes for a present operator to have a condition. -/
lemma test_eq_ok {present : Present} {test : Predicate Column} :
    present.test schema entity ignoreCase = .ok test ↔
      ∃ operator column, operatorOf? present.declared = some operator ∧
        schema.columnAt entity present.path = .ok column ∧
        operator.predicate column present.value ignoreCase = .ok test := by
  rw [Present.test]
  cases operatorOf? present.declared with
  | none => simp
  | some operator =>
      cases schema.columnAt entity present.path with
      | error cause => simp
      | ok column =>
          cases hp : operator.predicate column present.value ignoreCase <;>
            simp [Except.mapError, hp]

/-- The first fault of two lists is that of the first one, if there is one in it. -/
lemma checkAll_append (all more : List Present) :
    checkAll schema entity ignoreCase (all ++ more) =
      (checkAll schema entity ignoreCase all).bind fun _ =>
        checkAll schema entity ignoreCase more := by
  induction all with
  | nil => rfl
  | cons first rest ih =>
      rw [List.cons_append, checkAll, checkAll]
      cases first.test schema entity ignoreCase with
      | ok test => exact ih
      | error fault => rfl

/-- There is no first fault exactly if there is none. -/
lemma checkAll_eq_ok {all : List Present} :
    checkAll schema entity ignoreCase all = .ok () ↔
      ∀ present ∈ all, ∃ test, present.test schema entity ignoreCase = .ok test := by
  induction all with
  | nil => simp [checkAll]
  | cons first rest ih =>
      rw [checkAll, List.forall_mem_cons]
      cases first.test schema entity ignoreCase with
      | ok test => simpa using ih
      | error fault => simp

/-- A condition is met by a row: there is one, and it is true of the row. -/
def Holds (schema : Schema) (entity : Entity) (ignoreCase : Bool) (present : Present)
    (row : Row) : Prop :=
  ∃ test, present.test schema entity ignoreCase = .ok test ∧ test.holdsFor row = true

end Present

end FilterQuery
