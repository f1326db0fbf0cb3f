import FilterQuery.Text.LowerCase

/-!
# Patterns

The `LIKE` patterns of the statement language.  A percent sign matches any characters, an
underscore matches one, and the character after the escape character matches itself.  Letters of
ASCII match in either case, and only these.

* `Like.pieces?` — the pieces of a pattern; none if it ends in the escape character.
* `Like.accepts` — whether pieces match a text.
* `Like.seen` — what is seen of a text: it ends at a null character, and the two code points that are
  no characters are the replacement character.
* `Like.isMatch` — whether a pattern matches a text, as far as both are seen.
* `Like.escaped` — the pattern piece for a literal text: the escape character stands before each
  special character.
-/

namespace FilterQuery.Sql

namespace Like

/-- A piece of a pattern. -/
inductive Piece where
  /-- Any characters, also none. -/
  | many
  /-- Any one character. -/
  | one
  /-- This character. -/
  | only (c : Char)
  deriving DecidableEq, Repr

/-- The escape character. -/
def escape : Char := '/'

/-- The pieces of a pattern.  A pattern that ends in the escape character has none. -/
def pieces? : List Char → Option (List Piece)
  | [] => some []
  | '/' :: c :: rest => (pieces? rest).map (Piece.only c :: ·)
  | '/' :: [] => none
  | '%' :: rest => (pieces? rest).map (Piece.many :: ·)
  | '_' :: rest => (pieces? rest).map (Piece.one :: ·)
  | c :: rest => (pieces? rest).map (Piece.only c :: ·)

/-- The endings of a text, itself first and nothing last. -/
def endings : List Char → List (List Char)
  | [] => [[]]
  | c :: rest => (c :: rest) :: endings rest

/-- Whether pieces match the whole of a text. -/
def accepts : List Piece → List Char → Bool
  | [], text => text.isEmpty
  | .many :: pieces, text => (endings text).any (accepts pieces)
  | .one :: pieces, text =>
    match text with
    | [] => false
    | _ :: rest => accepts pieces rest
  | .only c :: pieces, text =>
    match text with
    | [] => false
    | d :: rest => Text.foldAscii c == Text.foldAscii d && accepts pieces rest

/-- A character as it is read: the last two code points of the basic plane are no characters. -/
def readChar (c : Char) : Char :=
  if c = '\ufffe' || c = '\uffff' then '\ufffd' else c

/-- What is seen of a text: the characters before the first null character. -/
def seen (text : List Char) : List Char :=
  (text.takeWhile (· != '\x00')).map readChar

/-- Whether a pattern matches a text, as far as both are seen. -/
def isMatch (pattern text : List Char) : Bool :=
  match pieces? (seen pattern) with
  | some pieces => accepts pieces (seen text)
  | none => false

/-- How a character of a literal text stands in a pattern. -/
def escapedChar (c : Char) : List Char :=
  if c = '/' || c = '%' || c = '_' then ['/', c] else [c]

/-- How a literal text stands in a pattern. -/
def escaped (text : String) : String :=
  String.ofList (text.toList.flatMap escapedChar)

end Like

end FilterQuery.Sql
