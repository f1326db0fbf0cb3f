import FilterQuery.Entries
import FilterQuery.FieldPath

/-!
# Joined prefixes

Which relationship prefixes were joined already, each with the alias it was joined under.

* `JoinTracker.alias?`, `JoinTracker.isJoined`, `JoinTracker.add`.
* `JoinTracker.alias?_add_self`, `JoinTracker.alias?_add_of_ne` — a prefix that was added is found
  under its last alias, and all others are found as before.
-/

namespace FilterQuery

/-- Joined prefixes with their aliases, in the order in which they were first joined. -/
abbrev JoinTracker (α : Type) := Entries FieldPath α

namespace JoinTracker

variable {α : Type}

/-- The alias of a prefix. -/
def alias? (tracker : JoinTracker α) (path : FieldPath) : Option α :=
  List.lookup path tracker

/-- Whether a prefix is joined. -/
def isJoined (tracker : JoinTracker α) (path : FieldPath) : Bool :=
  (alias? tracker path).isSome

/-- Remembers the alias of a prefix; one that it had before is forgotten. -/
def add (tracker : JoinTracker α) (path : FieldPath) (source : α) : JoinTracker α :=
  Entries.put tracker path source

/-- The alias that was added last is found. -/
theorem alias?_add_self (tracker : JoinTracker α) (path : FieldPath) (source : α) :
    alias? (add tracker path source) path = some source :=
  Entries.lookup_put_self tracker path source

/-- Other prefixes keep their aliases. -/
theorem alias?_add_of_ne (tracker : JoinTracker α) {path other : FieldPath} (source : α)
    (h : other ≠ path) : alias? (add tracker path source) other = alias? tracker other :=
  Entries.lookup_put_of_ne tracker source h

end JoinTracker

end FilterQuery
