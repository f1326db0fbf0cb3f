import FilterQuery.Text.Word

/-!
# Raw statement text

An ordering may be given as text of the statement language.  It is taken over as it stands, but
for two things: a colon before a name marks a parameter, and a backslash before a colon takes that
meaning away.

* `RawText.pieces` — the text cut into characters and parameters.
-/

namespace FilterQuery.Sql.RawText

/-- A piece of a text: a character, or a parameter of a name. -/
inductive Piece where
  | plain (c : Char)
  | bind (name : String)
  deriving DecidableEq, Repr

/-- Whether a colon after this character can mark a parameter. -/
def canPrecede : Option Char → Bool
  | none => true
  | some c => !(c == ':' || c == '\\' || Text.isWordChar c)

/-- The name behind a colon, if the colon marks a parameter: word characters, at least one, that no
colon follows. -/
def name? (rest : List Char) : Option (List Char) :=
  let name := rest.takeWhile Text.isWordChar
  if name.isEmpty || (rest.dropWhile Text.isWordChar).head? == some ':' then none else some name

/-- Whether a backslash before this is left out: there is a colon, and behind the word characters
after it comes no other. -/
def isEscape : List Char → Bool
  | ':' :: rest => (rest.dropWhile Text.isWordChar).head? != some ':'
  | _ => false

/-- The pieces of a text, of which `skip` characters belong to a name read already. -/
def piecesAfter (before : Option Char) (skip : Nat) : List Char → List Piece
  | [] => []
  | c :: rest =>
    if skip ≠ 0 then piecesAfter (some c) (skip - 1) rest
    else if c = ':' && canPrecede before then
      match name? rest with
      | some name => .bind (String.ofList name) :: piecesAfter (some c) name.length rest
      | none => .plain c :: piecesAfter (some c) 0 rest
    else if c = '\\' && isEscape rest then piecesAfter (some c) 0 rest
    else .plain c :: piecesAfter (some c) 0 rest

/-- The pieces of a text. -/
def pieces (text : String) : List Piece :=
  piecesAfter none 0 text.toList

end FilterQuery.Sql.RawText
