import FilterQuery.Sql.Identifier
import FilterQuery.Sql.Naming
import FilterQuery.Sql.RawText

/-!
# Written statements

The text of a statement, with question marks for its parameters.  Parts are written in the order
in which they stand in the text, because names are chosen and parameters are listed in that order.

* `writePredicate`, `writeRelated`, `writeOrder` — the parts of a statement.
* `writeStatement` — a statement as it is sent, with its children joined or wrapped around it.
* `Query.written` — the text of a query, its parameters and the names chosen for its aliases.
-/

namespace FilterQuery.Sql

/-! ## Columns and conditions -/

/-- The name of a source where it is referred to. -/
def sourceText (source : Source) : Writing String :=
  match source.role with
  | .itself => return Identifier.write source.table
  | _ => return Identifier.write (← nameOf (.source source))

/-- A source where it is introduced. -/
def introduced (source : Source) : Writing String :=
  match source.role with
  | .itself => return Identifier.write source.table
  | _ => return Identifier.write source.table ++ " AS " ++ (← sourceText source)

/-- A column of a source. -/
def placeText (place : Place) : Writing String :=
  return (← sourceText place.source) ++ "." ++ Identifier.write place.name

/-- The sign of a comparison. -/
def Comparison.sign : Comparison → String
  | equal => "="
  | notEqual => "!="
  | less => "<"
  | lessOrEqual => "<="
  | greater => ">"
  | greaterOrEqual => ">="

/-- A condition on a column that is written already; `type` is the column's. -/
def writePredicate {α : Type} (column : String) (type : ColumnType) :
    Predicate α → Writing String
  | .compare _ comparison value =>
    return column ++ " " ++ comparison.sign ++ " " ++ (← placeholder (.given type value))
  | .flag _ isNegated truth =>
    return column ++ (if isNegated then " != " else " = ") ++ (if truth then "1" else "0")
  | .isNull _ isNegated => return column ++ (if isNegated then " IS NOT NULL" else " IS NULL")
  | .contains _ ignoreCase pattern => do
    let mark ← placeholder (.given type (.str pattern))
    return (if ignoreCase then "lower(" ++ column ++ ") LIKE '%' || lower(" ++ mark ++ ")"
      else column ++ " LIKE '%' || " ++ mark) ++ " || '%' ESCAPE '/'"

/-- A condition among others: a pattern match stands between parentheses. -/
def writeTest (predicate : Predicate ColumnRef) : Writing String := do
  let column := predicate.column
  let text ← writePredicate (← placeText column.place) column.type predicate
  match predicate with
  | .contains .. => return "(" ++ text ++ ")"
  | _ => return text

/-- Texts with a separator between them. -/
def joined (separator : String) (parts : List (Writing String)) : Writing String :=
  return separator.intercalate (← parts.mapM id)

/-- Equal columns. -/
def writeEqualities (equalities : List (Place × Place)) : Writing String :=
  joined " AND " (equalities.map fun pair =>
    return (← placeText pair.1) ++ " = " ++ (← placeText pair.2))

/-- A source that is joined. -/
def writeJoin (join : Join) : Writing String :=
  return " JOIN " ++ (← introduced join.target) ++ " ON " ++ (← writeEqualities join.equalities)

/-- A source and what is joined to it. -/
def writeChain (first : Source) (joins : List Join) : Writing String :=
  return (← introduced first) ++ (← joined "" (joins.map writeJoin))

/-- Conditions behind `WHERE`. -/
def writeWhere (conditions : List (Writing String)) : Writing String :=
  if conditions.isEmpty then return ""
  else return " \nWHERE " ++ (← joined " AND " conditions)

/-- The subquery of related rows; `outside` are the sources of the statement around it. -/
def writeRelated (outside : List Source) (related : Related) : Writing String := do
  let columns ← joined ", " (related.entity.columns.map fun column =>
    placeText ⟨related.root, column.name⟩)
  let chain ← writeChain related.root related.joins
  let more ← joined "" ((related.ownSources outside).map fun source =>
    return ", " ++ (← introduced source))
  let conditions ← writeWhere
    (related.correlation.map (fun pair => writeEqualities [pair])
      ++ related.predicates.map writeTest)
  return "EXISTS (SELECT " ++ columns ++ " \nFROM " ++ chain ++ more ++ conditions ++ ")"

/-- The conditions of a statement, of which `outside` are the sources.  A subquery that is not the
only condition stands between parentheses. -/
def writeConditions (outside : List Source) (conditions : List Condition) : Writing String :=
  writeWhere (conditions.map fun condition =>
    match condition with
    | .test predicate => writeTest predicate
    | .exists related => do
      let text ← writeRelated outside related
      return if conditions.length = 1 then text else "(" ++ text ++ ")"
    | .written text _ => return text)

/-! ## Ordering -/

/-- Raw text with its parameters. -/
def writeRaw (raw : String) : Writing String :=
  joined "" ((RawText.pieces raw).map fun piece =>
    match piece with
    | .plain c => return String.singleton c
    | .bind name => placeholder (.missing name))

/-- The direction and the place of empty cells behind an ordering column. -/
def directionText (descending emptyFirst : Option Bool) : String :=
  (match descending with
    | none => ""
    | some isDescending => if isDescending then " DESC" else " ASC")
  ++ (match emptyFirst with
    | none => ""
    | some isFirst => if isFirst then " NULLS FIRST" else " NULLS LAST")

/-- A term of an ordering; `column` writes its columns. -/
def writeOrderTerm (column : Place → Writing String) : OrderTerm → Writing String
  | .column ref descending emptyFirst =>
    return (← column ref.place) ++ directionText descending emptyFirst
  | .text raw => writeRaw raw
  | .null => return "NULL"
  | .flag truth => return if truth then "1" else "0"

/-- Whether nothing is written for a term. -/
def OrderTerm.isEmptyText : OrderTerm → Bool
  | .text raw => raw.isEmpty
  | _ => false

/-- Ordering terms behind `ORDER BY`; an empty text is left out. -/
def writeOrder (column : Place → Writing String) (order : List OrderTerm) : Writing String := do
  let terms := order.filter (!·.isEmptyText)
  if terms.isEmpty then return ""
  return " ORDER BY " ++ (← joined ", " (terms.map (writeOrderTerm column)))

/-- Limits at the end of a statement: an offset without a limit has the limit `-1`, a limit
without an offset the offset `0`. -/
def writeLimits (limit offset : Option Int) : Writing String :=
  if limit.isNone && offset.isNone then return ""
  else do
    let most ← placeholder (.given .integer (.int (limit.getD (-1))))
    let first ← placeholder (.given .integer (.int (offset.getD 0)))
    return "\n LIMIT " ++ most ++ " OFFSET " ++ first

/-! ## Selected columns -/

/-- A column of the result. -/
structure Shown where
  /-- The column, or the column whose occurrences are counted. -/
  place : Place
  isCount : Bool
  /-- The label, where the column's own name does not do. -/
  label : Option Named
  deriving DecidableEq, Repr

namespace Shown

/-- Whether a column of this name is there under its own name. -/
def isTaken (shown : List Shown) (name : String) : Bool :=
  shown.any fun column => !column.isCount && column.label.isNone && column.place.name == name

/-- Adds a column.  A name that another column has makes a label; a second copy of a column is
left out if `once`, else it gets a label of its own. -/
def add (once : Bool) (shown : List Shown) (place : Place) : List Shown :=
  if shown.any fun column => column.place == place && !column.isCount then
    if once then shown
    else shown ++ [⟨place, false, some (.copy place shown.length)⟩]
  else if isTaken shown place.name then shown ++ [⟨place, false, some (.column place)⟩]
  else shown ++ [⟨place, false, none⟩]

/-- Adds the columns of a selected thing. -/
def addSelected (shown : List Shown) : Selected → List Shown
  | .entity owner source =>
    owner.columns.foldl (fun known column => add true known ⟨source, column.name⟩) shown
  | .column _ ref => add false shown ref.place
  | .count _ ref => shown ++ [⟨ref.place, true, some (.total (some ref.place))⟩]

/-- The label of a column inside a subquery, where every column has one. -/
def labelText (shown : Shown) : Writing String :=
  match shown.label with
  | some label => nameOf label
  | none => return shown.place.name

/-- The column where it is selected; inside a subquery with its label in any case. -/
def text (inSubquery : Bool) (shown : Shown) : Writing String := do
  let column ← placeText shown.place
  let expression := if shown.isCount then "count(" ++ column ++ ")" else column
  if inSubquery || shown.label.isSome then
    return expression ++ " AS " ++ Identifier.write (← shown.labelText)
  else return expression

end Shown

/-- The columns of the result of a statement. -/
def Statement.shown (statement : Statement) : List Shown :=
  statement.selected.foldl Shown.addSelected []

/-- The columns of the children that are loaded along, behind the columns shown already. -/
def Eager.shown (eager : Eager) (known : List Shown) : List Shown :=
  (eager.target.columns.foldl
    (fun all column => Shown.add true all ⟨eager.source, column.name⟩) known).drop known.length

/-! ## Statements -/

/-- Where children are joined to their parents; `holder` writes the columns of the parents. -/
def writeEagerJoin (holder : Place → Writing String) (eager : Eager) : Writing String := do
  let onText (equalities : List (Place × Place)) : Writing String :=
    joined " AND " (equalities.map fun pair => do
      let side (place : Place) : Writing String :=
        if place.source = eager.holder then holder place else placeText place
      return (← side pair.1) ++ " = " ++ (← side pair.2))
  match eager.joins with
  | [link, target] =>
    return " LEFT OUTER JOIN (" ++ (← introduced link.target) ++ " JOIN "
      ++ (← introduced target.target) ++ " ON " ++ (← onText target.equalities) ++ ") ON "
      ++ (← onText link.equalities)
  | joins =>
    joined "" (joins.map fun join =>
      return " LEFT OUTER JOIN " ++ (← introduced join.target) ++ " ON "
        ++ (← onText join.equalities))

/-- The declared order of the children as ordering terms. -/
def Eager.orderTerms (eager : Eager) : List OrderTerm :=
  eager.order.map fun (column, isDescending) =>
    .column column (if isDescending then some true else none) none

/-- The sources of a statement behind `FROM`; `behindFirst` is written behind the first. -/
def writeSources (statement : Statement) (behindFirst : Writing String) : Writing String := do
  match statement.leadingSources with
  | [] => return ""
  | first :: others =>
    let chain ←
      match statement.joins with
      | none => introduced first
      | some (start, joins) => writeChain start joins
    let behind ← behindFirst
    return " \nFROM " ++ chain ++ behind
      ++ (← joined "" (others.map fun source => return ", " ++ (← introduced source)))

/-- A statement without children that are loaded along, showing these columns and then more. -/
def writePlain (inSubquery : Bool) (statement : Statement) (shown : List Shown)
    (behindFirst : Writing String) (moreOrder : List OrderTerm) : Writing String := do
  let columns ← joined ", " (shown.map (Shown.text inSubquery))
  let sources ← writeSources statement behindFirst
  let conditions ← writeConditions statement.sources statement.conditions
  let order ← writeOrder placeText (statement.order ++ moreOrder)
  let limits ← writeLimits statement.limit statement.offset
  return "SELECT " ++ (if statement.distinct then "DISTINCT " else "") ++ columns ++ sources
    ++ conditions ++ order ++ limits

/-- The columns that a statement is ordered by but does not show. -/
def Statement.orderShown (statement : Statement) (shown : List Shown) : List Shown :=
  statement.order.foldl (fun known term =>
    match term with
    | .column ref _ _ => Shown.add true known ref.place
    | _ => known) shown

/-- A limited statement as the source of another, to which the children are joined: limits are
about parents and not about children. -/
def writeWrapped (statement : Statement) (eager : Eager) : Writing String := do
  let inner := statement.orderShown statement.shown
  let outside (place : Place) : Writing String := do
    match inner.find? fun column => column.place == place with
    | some column =>
      return (← nameOf .subquery) ++ "." ++ Identifier.write (← column.labelText)
    | none => placeText place
  let columns ← joined ", "
    (inner.map (fun column =>
        return (← nameOf .subquery) ++ "." ++ Identifier.write (← column.labelText))
      ++ (eager.shown inner).map (Shown.text false))
  let body ← writePlain true statement inner (return "") []
  let wrapped ← nameOf .subquery
  let children ← writeEagerJoin outside eager
  let order ← writeOrder (fun place =>
    if place.source = eager.source then placeText place else outside place)
    (statement.order ++ eager.orderTerms)
  return "SELECT " ++ columns ++ " \nFROM (" ++ body ++ ") AS " ++ wrapped ++ children ++ order

/-- A statement as it is sent. -/
def writeStatement (statement : Statement) : Writing String :=
  match statement.eager with
  | none => writePlain false statement statement.shown (return "") []
  | some eager =>
    if statement.isLimited then writeWrapped statement eager
    else writePlain false statement (statement.shown ++ eager.shown statement.shown)
      (writeEagerJoin placeText eager) eager.orderTerms

/-- A query as it is sent: a statement, or one around it that counts its rows. -/
def writeQuery : Query → Writing String
  | .rows statement => writeStatement statement
  | .count statement => do
    let total ← nameOf (.total none)
    let body ← writePlain true statement statement.shown (return "") []
    return "SELECT count(*) AS " ++ total ++ " \nFROM (" ++ body ++ ") AS "
      ++ (← nameOf .subquery)

/-- A query in writing. -/
structure Written where
  text : String
  parameters : List Parameter
  names : Naming
  deriving Repr

/-- What a writing writes from the start. -/
def Writing.written (writing : Writing String) : Written :=
  let (text, naming) := writing.run .start
  ⟨text, naming.parameters, naming⟩

/-- A query in writing. -/
def Query.written (query : Query) : Written :=
  (writeQuery query).written

end FilterQuery.Sql
