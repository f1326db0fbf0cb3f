import FilterQuery.Text.Utf8

/-!
# Faults of documents

Why a document has no value.  The five classes follow the layers of a document: its characters,
its tokens, the nodes that tokens form, the names that nodes refer by, and the values that nodes
describe.  A scalar may moreover have the form of a value without being one, such as a day that no
calendar has.

* `ScalarFault` — a scalar that is no value of its type.
* `Fault` — the classes.
-/

namespace FilterQuery.Yaml

/-- Why a scalar is no value of its type. -/
inductive ScalarFault where
  /-- Text that is no whole number of a base. -/
  | notInteger (base : Nat) (text : String)
  /-- A decimal number of more digits than are read. -/
  | tooManyDigits (count : Nat)
  /-- Text that is no number. -/
  | notNumber (text : String)
  /-- Text that is no truth value. -/
  | notTruth (text : String)
  /-- A number without any text. -/
  | emptyNumber
  /-- Sexagesimal parts so many that the first one is beyond all numbers. -/
  | tooManyParts
  /-- Text that is no date. -/
  | notTimestamp
  | yearOutOfRange (year : Nat)
  | monthOutOfRange
  | dayOutOfRange
  | hourOutOfRange
  | minuteOutOfRange
  | secondOutOfRange
  /-- An offset of a day or more, in seconds. -/
  | offsetOutOfRange (seconds : Int)
  /-- A character beyond the last one. -/
  | noCharacter (code : Nat)
  deriving DecidableEq, Repr

/-- Why a document has no value. -/
inductive Fault where
  /-- Bytes that are no characters. -/
  | encoding (fault : Text.Utf8Fault)
  /-- A character that no document may hold. -/
  | character
  /-- Characters that form no token. -/
  | token
  /-- Tokens that form no node. -/
  | arrangement
  /-- A name that stands for no node or for two, or a second document. -/
  | reference
  /-- A node that describes no value. -/
  | content
  | scalar (fault : ScalarFault)
  deriving DecidableEq, Repr

end FilterQuery.Yaml
