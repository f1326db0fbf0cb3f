import FilterQuery.Sql.Like
import FilterQuery.Sql.Statement

/-!
# Operators as conditions

What an operator asks of a column, given the value that it is used with.

* `OperandFault` — why an operator cannot take a value.
* `Operator.predicate` — the condition.
-/

namespace FilterQuery

open FilterQuery.Sql

/-- Why an operator cannot take a value. -/
inductive OperandFault where
  /-- Nothing is greater or less than an absent value or a truth value. -/
  | notOrdered
  /-- Only a text can be contained in a text. -/
  | notText
  deriving DecidableEq, Repr

/-- The wording of a fault. -/
def OperandFault.message : OperandFault → String
  | notOrdered =>
    "Only '=', '!=', 'is_()', 'is_not()', 'is_distinct_from()', 'is_not_distinct_from()' "
      ++ "operators can be used with None/True/False"
  | notText => "String value expected when autoescape=True"

/-- Equality, or its negation: with an absent value it asks whether the column is empty, with a
truth value for the number that stands for it. -/
def equality {α : Type} (column : α) (isNegated : Bool) : Value → Predicate α
  | .null => .isNull column isNegated
  | .bool truth => .flag column isNegated truth
  | value => .compare column (if isNegated then .notEqual else .equal) value

/-- A comparison by order. -/
def ordering {α : Type} (column : α) (comparison : Comparison) :
    Value → Except OperandFault (Predicate α)
  | .null => .error .notOrdered
  | .bool _ => .error .notOrdered
  | value => .ok (.compare column comparison value)

/-- The condition that an operator puts on a column. -/
def Operator.predicate {α : Type} (operator : Operator) (column : α) (value : Value)
    (ignoreCase : Bool) : Except OperandFault (Predicate α) :=
  match operator with
  | .equalTo => .ok (equality column false value)
  | .notEqualTo => .ok (equality column true value)
  | .greaterThan => ordering column .greater value
  | .greaterThanOrEqualTo => ordering column .greaterOrEqual value
  | .lessThan => ordering column .less value
  | .lessThanOrEqualTo => ordering column .lessOrEqual value
  | .present => .ok (.isNull column value.isTruthy)
  | .contains =>
    match value.text? with
    | some text => .ok (.contains column ignoreCase (Like.escaped text))
    | none => .error .notText

end FilterQuery
