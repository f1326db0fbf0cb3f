import FilterQuery.Yaml.Fault

/-!
# Reading positions

A cursor stands before the characters of a document that are still to be read, and knows its line
and its column, for these carry the layout of a document.

* `Cursor` — a position.
* `Reader` — a step of reading that moves the cursor or fails.
* `isBreak`, `endsWord`, `endsText`, `endsLine` — classes of characters; the end of the document
  belongs to the last three.
-/

namespace FilterQuery.Yaml

/-! ## Classes of characters -/

/-- Whether a character ends a line. -/
def isBreak (c : Char) : Bool :=
  c == '\n' || c == '\u0085' || c == '\u2028' || c == '\u2029'

/-- Whether a line or the document ends here. -/
def endsLine : Option Char → Bool
  | none => true
  | some c => isBreak c

/-- Whether a space, a line end or the document end is here. -/
def endsText : Option Char → Bool
  | none => true
  | some c => c == ' ' || isBreak c

/-- Whether a blank, a line end or the document end is here. -/
def endsWord : Option Char → Bool
  | none => true
  | some c => c == ' ' || c == '\t' || isBreak c

/-- Whether a character may stand in a plain name. -/
def isNameChar (c : Char) : Bool :=
  c.isAlphanum || c == '-' || c == '_'

/-- The value of a hexadecimal digit. -/
def hexValue? (c : Char) : Option Nat :=
  if '0' ≤ c && c ≤ '9' then some (c.toNat - '0'.toNat)
  else if 'a' ≤ c && c ≤ 'f' then some (c.toNat - 'a'.toNat + 10)
  else if 'A' ≤ c && c ≤ 'F' then some (c.toNat - 'A'.toNat + 10)
  else none

/-- The number that hexadecimal digits write. -/
def hexNumber? (chars : List Char) : Option Nat :=
  chars.foldl (fun number c => return (← number) * 16 + (← hexValue? c)) (some 0)

/-! ## Cursors -/

/-- A position in a document. -/
structure Cursor where
  rest : List Char
  index : Nat
  line : Nat
  column : Nat
  deriving Repr

namespace Cursor

/-- The position before all characters. -/
def start (chars : List Char) : Cursor :=
  ⟨chars, 0, 0, 0⟩

/-- The position behind the next character.  A byte order mark takes no column. -/
def next (cursor : Cursor) : Cursor :=
  match cursor.rest with
  | [] => cursor
  | c :: rest =>
    if isBreak c then ⟨rest, cursor.index + 1, cursor.line + 1, 0⟩
    else if c == '\ufeff' then ⟨rest, cursor.index + 1, cursor.line, cursor.column⟩
    else ⟨rest, cursor.index + 1, cursor.line, cursor.column + 1⟩

/-- The position behind a number of characters. -/
def skip (cursor : Cursor) : Nat → Cursor
  | 0 => cursor
  | count + 1 => cursor.next.skip count

/-- The character at a distance. -/
def peek? (cursor : Cursor) (distance : Nat) : Option Char :=
  cursor.rest[distance]?

/-- Whether one of the marks `---` and `...` is here, with a gap behind it. -/
def atMark (cursor : Cursor) (mark : Char) : Bool :=
  cursor.rest.take 3 == [mark, mark, mark] && endsWord (cursor.peek? 3)

/-- Whether a document is marked off here. -/
def atDocumentMark (cursor : Cursor) : Bool :=
  cursor.atMark '-' || cursor.atMark '.'

end Cursor

/-! ## Steps of reading -/

/-- A step of reading. -/
abbrev Reader := StateT Cursor (Except Fault)

namespace Reader

/-- The character at a distance. -/
def peek? (distance : Nat) : Reader (Option Char) :=
  return (← get).peek? distance

/-- Passes over a number of characters. -/
def skip (count : Nat) : Reader Unit :=
  modify fun cursor => cursor.skip count

/-- Reads a number of characters, or as many as there are. -/
def take (count : Nat) : Reader (List Char) := do
  let cursor ← get
  set (cursor.skip count)
  return cursor.rest.take count

/-- Reads the characters up to the first that fails a test. -/
def takeWhile (accepts : Char → Bool) : Reader (List Char) := do
  take ((← get).rest.takeWhile accepts).length

/-- Passes over the characters up to the first that fails a test. -/
def skipWhile (accepts : Char → Bool) : Reader Unit := do
  let _ ← takeWhile accepts

/-- The number of steps after which nothing is left to read. -/
def steps : Reader Nat :=
  return (← get).rest.length + 1

/-- Reads a line end, if one is here: as a line feed, or as the separator it is. -/
def lineBreak : Reader (List Char) := do
  match ← peek? 0 with
  | some c =>
    if isBreak c then
      skip 1
      return [if c == '\u0085' then '\n' else c]
    else return []
  | none => return []

/-- Passes over a comment, if one is here. -/
def skipComment : Reader Unit := do
  if (← peek? 0) = some '#' then skipWhile fun c => !isBreak c

/-- Passes over the rest of a line that may hold nothing but a comment. -/
def closeLine : Reader Unit := do
  skipWhile (· == ' ')
  skipComment
  if endsLine (← peek? 0) then
    let _ ← lineBreak
  else throw .token

end Reader

end FilterQuery.Yaml
