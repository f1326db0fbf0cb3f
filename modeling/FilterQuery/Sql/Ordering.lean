import FilterQuery.Sql.Database

/-!
# Ordering rows

Rows are ordered by keys, the first key first; rows that all keys take for equal keep their order.
An empty cell comes before all others, and behind them if the order is descending, unless the key
says where empty cells belong.

* `SortKey`, `SortKey.order` — a key, and the order of two cells by it.
* `sortBy` — assignments in the order of some keys.
-/

namespace FilterQuery.Sql

/-- A column that rows are ordered by. -/
structure SortKey where
  place : Place
  isDescending : Bool
  /-- Whether empty cells come first, where that is stated. -/
  emptyFirst : Option Bool
  deriving DecidableEq, Repr

namespace SortKey

/-- The order of two cells by a key. -/
def order (key : SortKey) (a b : Cell) : Ordering :=
  let emptyOrder := if key.emptyFirst.getD !key.isDescending then Ordering.lt else .gt
  match a, b with
  | .null, .null => .eq
  | .null, _ => emptyOrder
  | _, .null => emptyOrder.swap
  | _, _ =>
    let order := (a.order? b).getD .eq
    if key.isDescending then order.swap else order

/-- The order of two assignments by keys. -/
def orderAll (keys : List SortKey) (a b : Assignment) : Ordering :=
  match keys with
  | [] => .eq
  | key :: rest => (key.order (a.cell key.place) (b.cell key.place)).then (orderAll rest a b)

end SortKey

/-- Assignments in the order of the keys. -/
def sortBy (keys : List SortKey) (assignments : List Assignment) : List Assignment :=
  if keys.isEmpty then assignments
  else assignments.mergeSort fun a b => SortKey.orderAll keys a b != .gt

end FilterQuery.Sql
