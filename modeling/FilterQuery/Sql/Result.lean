import FilterQuery.Sql.OrderText
import FilterQuery.Sql.Written

/-!
# Results

Running a query against a database.  First its parameters take their form, then the database makes
sense of its ordering, then the parameters are stored, then rows come back; each step can fail,
and the first failure counts.

* `RunFault` — why a query gives no result.
* `Statement.arranged?` — the assignments of a statement, ordered and limited.
* `Query.run` — the rows of a query, each once.
* `Statement.families` — parents with the children that are loaded along.
-/

namespace FilterQuery.Sql

/-- Why a query gives no result. -/
inductive RunFault where
  /-- No value is given for a parameter of raw text. -/
  | missingValue (name : String)
  /-- A column's type refuses a parameter. -/
  | refused (message : String)
  /-- The database cannot make sense of the statement. -/
  | misread
  /-- The ordering has a form that is not read here. -/
  | unread
  /-- A parameter is of a kind that cannot be stored. -/
  | unsupported
  /-- A parameter is outside the range of stored whole numbers. -/
  | tooLarge
  deriving DecidableEq, Repr

/-- The fault of a parameter. -/
def RunFault.ofBind : BindFault → RunFault
  | .refused message => .refused message
  | .unsupported => .unsupported
  | .tooLarge => .tooLarge

/-- A record: its entity and the cells of its primary key. -/
structure RecordId where
  entity : String
  key : List Cell
  deriving DecidableEq, Repr

/-- A thing in a row of a result. -/
inductive Item where
  | record (id : RecordId)
  /-- A cell of a column. -/
  | cell (type : ColumnType) (cell : Cell)
  deriving DecidableEq, Repr

/-- The value that a cell of a column stands for. -/
def Cell.toValue (type : ColumnType) : Cell → Value
  | .null => .null
  | .int number =>
    match type with
    | .boolean => .bool (number != 0)
    | .float => .float (Double.ofInt number)
    | _ => .int number
  | .real number => .float number
  | .text content =>
    match type with
    | .date => (Date.ofIso? content.toList).elim (.str content) .date
    | .datetime => (DateTime.ofIso? content.toList).elim (.str content) .datetime
    | _ => .str content
  | .blob octets => .bytes octets

/-! ## Names in sight -/

/-- The columns of a source with their places. -/
def sourceColumns (schema : Schema) (source : Source) : List (String × Place) :=
  (schema.columnNames source.table).map fun name => (name, ⟨source, name⟩)

/-- Sources by the names they have in the text. -/
def visibleSources (schema : Schema) (names : Naming) (sources : List Source) :
    List (String × List (String × Place)) :=
  sources.filterMap fun source =>
    (names.sourceName? source).map fun name => (name, sourceColumns schema source)

/-- The label of a column, if it has one; inside a subquery every column has. -/
def Shown.label? (names : Naming) (inSubquery : Bool) (shown : Shown) : Option String :=
  match shown.label with
  | some label =>
    (names.numbers.lookup label).map fun number => label.base ++ "_" ++ toString number
  | none => if inSubquery then some shown.place.name else none

/-- Columns by their labels. -/
def visibleLabels (names : Naming) (inSubquery : Bool) (shown : List Shown) :
    List (String × Option Place) :=
  shown.filterMap fun column =>
    (column.label? names inSubquery).map fun label =>
      (label, if column.isCount then none else some column.place)

/-- The sources of the children that are loaded along. -/
def Eager.sources (eager : Eager) : List Source :=
  eager.joins.map Join.target

/-! ## Ordering -/

/-- The limits that a term ends in. -/
def OrderTerm.limits : OrderTerm → Limits
  | .text raw => ((OrderText.read? raw).map OrderText.Reading.limits).getD .absent
  | _ => .absent

/-- The limits that an ordering ends in.  They stand behind its last term or nowhere. -/
def orderLimits? (order : List OrderTerm) : Option Limits :=
  let limits := (order.filter (!·.isEmptyText)).map OrderTerm.limits
  if limits.dropLast.all (· = .absent) then some (limits.getLast?.getD .absent) else none

/-- Whether a term has a form that is read here. -/
def OrderTerm.isReadable : OrderTerm → Bool
  | .text raw => raw.isEmpty || (OrderText.read? raw).isSome
  | _ => true

/-- The fault of an ordering that has no meaning here. -/
def misreading (order : List OrderTerm) : RunFault :=
  if order.all OrderTerm.isReadable && (orderLimits? order).isSome then .misread else .unread

/-- The sort keys of ordering terms, among `sources` and over the columns shown; none if a term
makes no sense there.  The number one stands for the first column, and there is no column zero. -/
def sortKeys? (visible : OrderText.Visible) (sources : List Source) (shown : List Shown)
    (order : List OrderTerm) : Option (List SortKey) := do
  let keys ← (order.filter (!·.isEmptyText)).mapM fun term =>
    match term with
    | .column ref descending emptyFirst =>
      if sources.contains ref.source then
        some [SortKey.mk ref.place (descending.getD false) emptyFirst]
      else none
    | .text raw => OrderText.keys? visible raw
    | .null => some []
    | .flag true =>
      some ((shown.head?.filter (!·.isCount)).toList.map fun column => ⟨column.place, false, none⟩)
    | .flag false => none
  return keys.flatten

/-- The first of each group of assignments that show the same cells. -/
def distinctBy (shown : List Shown) (assignments : List Assignment) : List Assignment :=
  let cells (assignment : Assignment) : List Cell :=
    shown.map fun column => assignment.cell column.place
  assignments.foldl (fun known assignment =>
    if known.any fun other => cells other == cells assignment then known
    else known ++ [assignment]) []

/-- What limits leave. -/
def window {α : Type} (limits : Limits) (items : List α) : List α :=
  let rest := items.drop (limits.offset.getD 0).toNat
  match limits.limit with
  | some most => if most < 0 then rest else rest.take most.toNat
  | none => rest

namespace Statement

/-- What the ordering of a statement can refer to. -/
def visible (schema : Schema) (names : Naming) (inSubquery : Bool) (statement : Statement)
    (more : List Source) (shown : List Shown) : OrderText.Visible :=
  ⟨visibleLabels names inSubquery shown, visibleSources schema names (statement.sources ++ more)⟩

/-- The limits of a statement: its own, or those behind its ordering.  It cannot have both. -/
def limits? (statement : Statement) : Option Limits := do
  let own : Limits := ⟨statement.limit, statement.offset⟩
  let behind ← orderLimits? statement.order
  if behind = .absent then return own
  else if own = .absent then return behind
  else none

/-- The assignments of a statement in order, distinct and limited as it says. -/
def arranged? (database : Database) (names : Naming) (inSubquery : Bool) (shown : List Shown)
    (statement : Statement) : Option (List Assignment) := do
  let limits ← statement.limits?
  let visible := statement.visible database.schema names inSubquery [] shown
  let keys ← sortKeys? visible statement.sources shown statement.order
  let sorted := sortBy keys (statement.scope database)
  let kept := if statement.distinct then distinctBy shown sorted else sorted
  return window limits kept

end Statement

/-! ## Rows -/

/-- The key of an entity's row. -/
def Entity.keyOf (entity : Entity) (row : Row) : List Cell :=
  entity.keyColumns.map fun column => row.cell column.name

/-- The record of an entity's row. -/
def recordOf (entity : Entity) (row : Row) : RecordId :=
  ⟨entity.name, Entity.keyOf entity row⟩

/-- The thing that is selected of an assignment. -/
def Selected.item (assignment : Assignment) : Selected → Item
  | .entity owner place => .record (recordOf owner (assignment.row place))
  | .column _ ref => .cell ref.type (assignment.cell ref.place)
  | .count _ ref => .cell .integer (assignment.cell ref.place)

/-- Whether a selected thing is a number of rows. -/
def Selected.isCount : Selected → Bool
  | .count .. => true
  | _ => false

/-- The rows that the assignments of a statement give.  If numbers of rows are selected, all of
them give one row together. -/
def Statement.items (statement : Statement) (assignments : List Assignment) : List (List Item) :=
  if statement.selected.any Selected.isCount then
    [statement.selected.map fun selected =>
      match selected with
      | .count _ ref =>
        .cell .integer (.int (assignments.filter fun assignment =>
          assignment.cell ref.place != .null).length)
      | other => other.item (assignments.head?.getD [])]
  else assignments.map fun assignment => statement.selected.map (Selected.item assignment)

/-- The first of each group of equal things. -/
def unique {α : Type} [BEq α] (items : List α) : List α :=
  items.foldl (fun known item => if known.contains item then known else known ++ [item]) []

/-- A parameter in the form of its type. -/
def convertParameter : Parameter → Except RunFault Value
  | .given type value => (Binding.convert type value).mapError .ofBind
  | .missing _ => .ok .null

/-- Brings parameters into their forms. -/
def convertParameters (parameters : List Parameter) : Except RunFault (List Value) := do
  for parameter in parameters do
    if let .missing name := parameter then throw (.missingValue name)
  parameters.mapM convertParameter

/-- Runs what the database does between the two steps of its parameters; `fault` is why there is no
result if there is none. -/
def withParameters {α : Type} (fault : RunFault) (parameters : List Parameter)
    (result? : Option α) : Except RunFault α := do
  let sent ← convertParameters parameters
  match result? with
  | none => throw fault
  | some result =>
    for value in sent do
      let _ ← (Binding.store value).mapError RunFault.ofBind
    return result

/-- The rows of a query, each once. -/
def Query.run (database : Database) (query : Query) : Except RunFault (List (List Item)) :=
  let written := query.written
  match query with
  | .rows statement =>
    withParameters (misreading statement.order) written.parameters <|
      (statement.arranged? database written.names false statement.shown).map fun assignments =>
        unique (statement.items assignments)
  | .count statement =>
    withParameters (misreading statement.order) written.parameters <|
      (statement.arranged? database written.names true statement.shown).map fun assignments =>
        [[.cell .integer (.int (statement.items assignments).length)]]

/-! ## Children -/

/-- What is selected first in a row, a parent as a rule, with the children loaded along. -/
structure Family where
  parent : Item
  children : List RecordId
  deriving DecidableEq, Repr

/-- An assignment with each child of its parent; itself alone if there is no child. -/
def Eager.extend (database : Database) (eager : Eager) (assignment : Assignment) :
    List Assignment :=
  let extended := eager.joins.foldl database.join [assignment]
  if extended.isEmpty then [assignment] else extended

/-- The sort keys of the declared order of children. -/
def Eager.sortKeys (eager : Eager) : List SortKey :=
  eager.order.map fun (column, isDescending) => ⟨column.place, isDescending, none⟩

/-- The limits that an ordering ends in where children are loaded along.  Behind them nothing can stand,
so there are none where the children have a declared order. -/
def Eager.limits? (eager : Eager) (order : List OrderTerm) : Option Limits := do
  let limits ← orderLimits? order
  if limits = .absent || eager.order.isEmpty then return limits else none

/-- The assignments of a statement with its children, in the order in which they come back. -/
def Statement.loaded? (database : Database) (names : Naming) (statement : Statement)
    (eager : Eager) : Option (List Assignment) := do
  let limits ← eager.limits? statement.order
  if statement.isLimited then
    let inner := statement.orderShown statement.shown
    let parents ← statement.arranged? database names true inner
    let around : OrderText.Visible :=
      ⟨visibleLabels names false (inner ++ eager.shown inner),
        ("anon_1", inner.filterMap fun column =>
            (column.label? names true).map fun label => (label, column.place))
          :: visibleSources database.schema names eager.sources⟩
    let keys ← sortKeys? around (statement.sources ++ eager.sources) inner statement.order
    return window limits (sortBy (keys ++ eager.sortKeys) (parents.flatMap (eager.extend database)))
  else
    let shown := statement.shown ++ eager.shown statement.shown
    let visible := statement.visible database.schema names false eager.sources shown
    let keys ← sortKeys? visible (statement.sources ++ eager.sources) shown statement.order
    return window limits (sortBy (keys ++ eager.sortKeys)
      ((statement.scope database).flatMap (eager.extend database)))

/-- Parents in the order in which they come back, each once, with their children in order. -/
def familiesOf (statement : Statement) (eager : Eager) (loaded : List Assignment) : List Family :=
  let holder (assignment : Assignment) : RecordId :=
    recordOf eager.parent (assignment.row eager.holder)
  let heads := loaded.filterMap fun assignment =>
    statement.selected.head?.map fun selected => (selected.item assignment, holder assignment)
  let parents := heads.foldl (fun known head =>
    if known.any (·.1 == head.1) then known else known ++ [head]) []
  parents.map fun (parent, id) =>
    ⟨parent, unique ((loaded.filter fun assignment =>
        holder assignment == id && (List.lookup eager.source assignment).isSome).map
      fun assignment => recordOf eager.target (assignment.row eager.source))⟩

/-- The parents of a statement with their children. -/
def Statement.families (database : Database) (statement : Statement) (eager : Eager) :
    Except RunFault (List Family) :=
  let written := (Query.rows statement).written
  withParameters (misreading statement.order) written.parameters <|
    (statement.loaded? database written.names eager).map (familiesOf statement eager)

end FilterQuery.Sql
