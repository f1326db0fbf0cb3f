import FilterQuery.Decimal.Double
import FilterQuery.Operator
import FilterQuery.Value.Time

/-!
# Values

Filter values, options and settings arrive as dynamic data: what a request or a configuration
file holds.  `Value` is that data.

* `Value.typeName` — the name of a value's type, for error texts.
* `Value.isTruthy` — whether a value counts as true.
* `Value.text?` — the text of a value that is one; an operator counts as its spelling.
* `Value.sameKey` — when two values are the same key of a mapping: numbers and truth values by
  their exact value, operators by their spelling, everything else by its parts.
-/

namespace FilterQuery

/-- Dynamic data. -/
inductive Value where
  | null
  | bool (truth : Bool)
  | int (number : Int)
  | float (number : Double)
  | str (text : String)
  | bytes (octets : List UInt8)
  | date (day : Date)
  | datetime (time : DateTime)
  | list (items : List Value)
  | tuple (items : List Value)
  /-- Keys in order; no two of them are the same key. -/
  | mapping (entries : List (Value × Value))
  | op (operator : Operator)
  /-- An object of a named type with named fields. -/
  | record (type : String) (fields : List (String × Value))
  deriving Repr, Inhabited

namespace Value

/-- The name of a value's type. -/
def typeName : Value → String
  | null => "NoneType"
  | bool _ => "bool"
  | int _ => "int"
  | float _ => "float"
  | str _ => "str"
  | bytes _ => "bytes"
  | date _ => "date"
  | datetime _ => "datetime"
  | list _ => "list"
  | tuple _ => "tuple"
  | mapping _ => "dict"
  | op _ => "Operator"
  | record type _ => type

/-- The name of a value's type with its home, where it has one. -/
def qualifiedTypeName : Value → String
  | date _ => "datetime.date"
  | datetime _ => "datetime.datetime"
  | value => value.typeName

/-- Whether a value counts as true: everything but null, false, zero and what is empty. -/
def isTruthy : Value → Bool
  | null => false
  | bool truth => truth
  | int number => number != 0
  | float number => !number.isZero
  | str text => !text.isEmpty
  | bytes octets => !octets.isEmpty
  | list items => !items.isEmpty
  | tuple items => !items.isEmpty
  | mapping entries => !entries.isEmpty
  | record "set" members => !members.isEmpty
  | _ => true

/-- The text of a value that is one. -/
def text? : Value → Option String
  | str text => some text
  | op operator => some operator.name
  | _ => none

/-- The whole number of a value that is one; a truth value is one or zero. -/
def int? : Value → Option Int
  | int number => some number
  | bool truth => some (if truth then 1 else 0)
  | _ => none

mutual
/-- The type that keeps a value from being a key: lists and mappings may not be keys, nor tuples
that hold one. -/
def unhashable? : Value → Option String
  | list _ => some "list"
  | mapping _ => some "dict"
  | tuple items => firstUnhashable? items
  | record type _ => some type
  | _ => none
/-- The type of the first of these that may not be a key. -/
def firstUnhashable? : List Value → Option String
  | [] => none
  | item :: rest =>
    match unhashable? item with
    | some type => some type
    | none => firstUnhashable? rest
end

/-! ## Keys -/

/-- The order of two numbers, if both are numbers and neither is a not-a-number. -/
def orderNumbers? (a b : Value) : Option Ordering :=
  match a.int?, b.int?, a, b with
  | some m, some n, _, _ => some (compare m n)
  | some m, none, _, float y => (y.orderInt? m).map Ordering.swap
  | none, some n, float x, _ => x.orderInt? n
  | none, none, float x, float y => x.order? y
  | _, _, _, _ => none

mutual
/-- Whether two values are the same key of a mapping. -/
def sameKey : Value → Value → Bool
  | null, null => true
  | bytes a, bytes b => a == b
  | date a, date b => a == b
  | datetime a, datetime b => a == b
  | tuple a, tuple b => sameKeys a b
  | list a, list b => sameKeys a b
  | str a, str b => a == b
  | str a, op b => a == b.name
  | op a, str b => a.name == b
  | op a, op b => a == b
  | a, b => orderNumbers? a b == some .eq
/-- Whether two rows of values are the same, item by item. -/
def sameKeys : List Value → List Value → Bool
  | [], [] => true
  | a :: as, b :: bs => sameKey a b && sameKeys as bs
  | _, _ => false
end

/-- A text is the same key as nothing but that text and the operator spelled so. -/
theorem sameKey_str (text : String) (value : Value) :
    sameKey (str text) value = true ↔ value.text? = some text := by
  cases value <;> simp [sameKey, text?, orderNumbers?, int?]
  all_goals exact eq_comm

end Value

end FilterQuery
