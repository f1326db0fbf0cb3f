import FilterQuery.Text.Parts

/-!
# Lines

What logging writes, line by line.  The points in time in a line are not part of the model: a line
only knows where they stand and how long they are, which is enough to tell the size of a file.

* `Line.shown` — a line with a mark in place of every point in time.
* `Line.size`, `Line.length` — the bytes that a line takes in a file, and its characters.
* `Line.rows` — what lines look like when they are read.
-/

namespace FilterQuery.Logging

/-- A piece of a line. -/
inductive Piece where
  | text (characters : String)
  /-- A point in time, written in so many characters. -/
  | time (width : Nat)
  deriving DecidableEq, Repr

namespace Piece

/-- The mark in place of a point in time. -/
def timeMark : String := "<time>"

/-- A piece with a mark in place of a point in time. -/
def shown : Piece → String
  | text characters => characters
  | time _ => timeMark

/-- The number of bytes of a piece. -/
def size : Piece → Nat
  | text characters => characters.utf8ByteSize
  | time width => width

/-- The number of characters of a piece. -/
def length : Piece → Nat
  | text characters => characters.length
  | time width => width

/-- Changes the text of a piece. -/
def mapText (change : String → String) : Piece → Piece
  | text characters => text (change characters)
  | time width => time width

end Piece

/-- The pieces of a line. -/
abbrev Line := List Piece

namespace Line

/-- A line that is all text. -/
def ofText (characters : String) : Line := [.text characters]

/-- A line with a mark in place of every point in time. -/
def shown (line : Line) : String :=
  String.join (line.map Piece.shown)

/-- The number of bytes of a line, with the line break behind it. -/
def size (line : Line) : Nat :=
  (line.map Piece.size).foldr (· + ·) 1

/-- The number of characters of a line, with the line break behind it. -/
def length (line : Line) : Nat :=
  (line.map Piece.length).foldr (· + ·) 1

/-- A line without the spaces at its end. -/
def trimRight (line : Line) : Line :=
  match line.reverse with
  | .text characters :: rest =>
    (.text (String.ofList (characters.toList.reverse.dropWhile (· == ' ')).reverse) :: rest).reverse
  | _ => line

/-- Lines joined by a separator. -/
def join (separator : String) : List Line → Line
  | [] => []
  | [line] => line
  | line :: rest => line ++ .text separator :: join separator rest

/-- The rows of lines, each with a line break behind it. -/
def rows (lines : List Line) : List String :=
  lines.flatMap fun line => Text.rows (line.shown ++ "\n")

end Line

end FilterQuery.Logging
