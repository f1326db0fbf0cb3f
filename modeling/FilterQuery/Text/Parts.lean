/-!
# Parts of a text

How a text falls into words and rows, and whether one text stands within another.

A class of characters is written down as a list of closed ranges of code points.  The tables of
this folder (white space here, and those of `DecimalDigit`, `Printable` and `Word`) are lists of
this kind, taken from version 14 of the Unicode character database.

* `CharRange.covers` — membership of a character in such a list.
* `words` — the maximal runs of characters that are not white space.
* `rows` — the rows between the line breaks.
* `occursIn` — whether some characters stand in a row within others; that is, whether they are an
  infix of them (`occursIn_iff`).
-/

namespace FilterQuery

/-! ## Classes of characters -/

/-- A closed range of code points, from the first to the last. -/
abbrev CharRange := Nat × Nat

namespace CharRange

/-- Whether one of the ranges holds the character. -/
def covers (ranges : List CharRange) (c : Char) : Bool :=
  ranges.any fun range => range.1 ≤ c.toNat && c.toNat ≤ range.2

theorem covers_iff (ranges : List CharRange) (c : Char) :
    covers ranges c = true ↔ ∃ range ∈ ranges, range.1 ≤ c.toNat ∧ c.toNat ≤ range.2 := by
  simp [covers]

end CharRange

namespace Text

/-! ## White space

The characters that separate words: those with the white space property, and the four information
separators. -/

/-- The ranges of white space. -/
def blankRanges : List CharRange :=
  [
    (0x9, 0xd), (0x1c, 0x20), (0x85, 0x85), (0xa0, 0xa0), (0x1680, 0x1680), (0x2000, 0x200a),
    (0x2028, 0x2029), (0x202f, 0x202f), (0x205f, 0x205f), (0x3000, 0x3000)]

/-- Whether a character separates words. -/
def isBlank (c : Char) : Bool :=
  CharRange.covers blankRanges c

/-- The white space of core's own, smaller class is white space here. -/
theorem isBlank_of_isWhitespace (c : Char) (h : c.isWhitespace = true) : isBlank c = true := by
  simp only [Char.isWhitespace, Bool.or_eq_true, decide_eq_true_eq] at h
  rcases h with ((rfl | rfl) | rfl) | rfl <;> decide

/-- The words of a text, collected from its end: the word that the text starts with, if any, is
still open and stands apart. -/
def splitBlanks : List Char → List Char × List (List Char)
  | [] => ([], [])
  | c :: rest =>
    let (current, later) := splitBlanks rest
    if isBlank c then
      ([], if current.isEmpty then later else current :: later)
    else
      (c :: current, later)

/-- The maximal runs of characters that are not white space, in order. -/
def words (text : String) : List String :=
  let (first, later) := splitBlanks text.toList
  (if first.isEmpty then later else first :: later).map String.ofList

/-! ## Rows

A text is cut at its line breaks; a carriage return and a line feed behind it are one.  A break at
the very end does not start another row. -/

/-- Whether a character breaks a line. -/
def isBreak (c : Char) : Bool :=
  ['\n', '\r', '\x0b', '\x0c', '\x1c', '\x1d', '\x1e', '\u0085', '\u2028', '\u2029'].contains c

/-- The rows of characters; `row` are those of the current row, the last one first. -/
def rowsFrom (row : List Char) : List Char → List String
  | [] => if row.isEmpty then [] else [String.ofList row.reverse]
  | '\r' :: '\n' :: rest => String.ofList row.reverse :: rowsFrom [] rest
  | c :: rest =>
    if isBreak c then String.ofList row.reverse :: rowsFrom [] rest else rowsFrom (c :: row) rest

/-- The rows of a text. -/
def rows (text : String) : List String :=
  rowsFrom [] text.toList

/-! ## Occurrences -/

/-- Whether some characters stand in a row within others. -/
def occursIn (part : List Char) : List Char → Bool
  | [] => part.isEmpty
  | c :: rest => part.isPrefixOf (c :: rest) || occursIn part rest

/-- To occur is to be an infix. -/
theorem occursIn_iff (part text : List Char) : occursIn part text = true ↔ part <:+: text := by
  induction text with
  | nil => rw [occursIn, List.isEmpty_iff, List.infix_nil]
  | cons c rest ih =>
    rw [occursIn, Bool.or_eq_true, List.isPrefixOf_iff_prefix, ih, List.infix_cons_iff]

end Text

end FilterQuery
