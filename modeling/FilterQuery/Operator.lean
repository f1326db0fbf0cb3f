/-!
# Filter operators

The closed vocabulary of comparisons that a field filter may ask for.

* `Operator.name` — the spelling used in definitions, logs and errors.
* `Operator.ofName?` — the operator with that spelling.
-/

namespace FilterQuery

/-- The comparisons of a field filter. -/
inductive Operator where
  | equalTo
  | notEqualTo
  | contains
  | greaterThan
  | greaterThanOrEqualTo
  | lessThan
  | lessThanOrEqualTo
  | present
  deriving DecidableEq, Repr

namespace Operator

/-- All operators. -/
def all : List Operator :=
  [equalTo, notEqualTo, contains, greaterThan, greaterThanOrEqualTo, lessThan,
    lessThanOrEqualTo, present]

/-- The spelling of an operator. -/
def name : Operator → String
  | equalTo => "equal_to"
  | notEqualTo => "not_equal_to"
  | contains => "contains"
  | greaterThan => "greater_than"
  | greaterThanOrEqualTo => "greater_than_or_equal_to"
  | lessThan => "less_than"
  | lessThanOrEqualTo => "less_than_or_equal_to"
  | present => "present"

/-- The name of the member that stands for the operator. -/
def member : Operator → String
  | equalTo => "EQUAL_TO"
  | notEqualTo => "NOT_EQUAL_TO"
  | contains => "CONTAINS"
  | greaterThan => "GREATER_THAN"
  | greaterThanOrEqualTo => "GREATER_THAN_OR_EQUAL_TO"
  | lessThan => "LESS_THAN"
  | lessThanOrEqualTo => "LESS_THAN_OR_EQUAL_TO"
  | present => "PRESENT"

/-- The operator with a spelling. -/
def ofName? (spelling : String) : Option Operator :=
  all.find? fun operator => operator.name == spelling

/-- The operator with a member name. -/
def ofMember? (spelling : String) : Option Operator :=
  all.find? fun operator => operator.member == spelling

theorem mem_all (operator : Operator) : operator ∈ all := by
  cases operator <;> decide

/-- Every operator is found by its own spelling. -/
theorem ofName?_name (operator : Operator) : ofName? operator.name = some operator := by
  cases operator <;> decide

/-- What is found by a spelling has that spelling. -/
theorem name_of_ofName? {spelling : String} {operator : Operator}
    (h : ofName? spelling = some operator) : operator.name = spelling := by
  simpa using List.find?_some h

end Operator

end FilterQuery
