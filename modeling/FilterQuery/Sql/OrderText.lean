import FilterQuery.Sql.Like
import FilterQuery.Sql.Ordering

/-!
# Reading ordering texts

The database takes any expressions for an ordering text.  Read here are the texts that list columns,
each with the name of its table before it or without, and with a direction behind it or without.  A
limit may stand at the end of the list.  Nothing is said of what the database makes of other texts:
calls, numbers, collations and so on.

* `OrderText.read?` — the terms of a text, and the limit behind them.
* `OrderText.Visible` — the names that a term can refer to.
* `OrderText.resolve?` — the sort key of a term: a bare name is a label first and a column of some
  source second, and a column of two sources is none.  Between quotes a name of nothing is a text.
-/

namespace FilterQuery.Sql

/-- The limits of a result, where there are any. -/
structure Limits where
  /-- The greatest number of rows; a negative one is no limit. -/
  limit : Option Int
  /-- The number of rows left out before them. -/
  offset : Option Int
  deriving DecidableEq, Repr

/-- No limits. -/
def Limits.absent : Limits :=
  ⟨none, none⟩

namespace OrderText

/-! ## Tokens -/

/-- A token of an ordering text. -/
inductive Token where
  /-- A name; a bare one may be a keyword. -/
  | name (text : String) (isQuoted : Bool)
  | dot
  | comma
  deriving DecidableEq, Repr

/-- Whether a character may stand in a bare name. -/
def isNameChar (c : Char) : Bool :=
  ('a' ≤ c && c ≤ 'z') || ('A' ≤ c && c ≤ 'Z') || ('0' ≤ c && c ≤ '9') || c == '_' || c == '$'
    || 0x80 ≤ c.toNat

/-- White space between tokens. -/
def isSpace (c : Char) : Bool :=
  c == ' ' || c == '\t' || c == '\n' || c == '\x0c' || c == '\r'

/-- What has been read of the token at hand. -/
inductive Open where
  | nothing
  | bare (read : List Char)
  | quoted (read : List Char)
  /-- Behind a quote that ends the name unless another follows. -/
  | mark (read : List Char)

/-- The token that ends here, if one does. -/
def Open.closed : Open → List Token
  | nothing => []
  | bare read => [.name (String.ofList read.reverse) false]
  | quoted _ => []
  | mark read => [.name (String.ofList read.reverse) true]

/-- The tokens of a text, of which `state` has been read; none if it has others. -/
def tokens? (state : Open) : List Char → Option (List Token)
  | [] =>
    match state with
    | .quoted _ => none
    | _ => some state.closed
  | c :: rest =>
    match state with
    | .quoted read => tokens? (if c = '"' then .mark read else .quoted (c :: read)) rest
    | state =>
      match state, c == '"', isNameChar c with
      | .mark read, true, _ => tokens? (.quoted ('"' :: read)) rest
      | .bare read, _, true => tokens? (.bare (c :: read)) rest
      | state, true, _ => (tokens? (.quoted []) rest).map (state.closed ++ ·)
      | state, _, true => (tokens? (.bare [c]) rest).map (state.closed ++ ·)
      | state, _, _ =>
        let closed := state.closed
        if isSpace c then (tokens? .nothing rest).map (closed ++ ·)
        else if c = '.' then (tokens? .nothing rest).map (closed ++ .dot :: ·)
        else if c = ',' then (tokens? .nothing rest).map (closed ++ .comma :: ·)
        else none

/-! ## Terms -/

/-- A term of an ordering text. -/
structure Term where
  table : Option String
  column : String
  /-- Whether the column stands between quotes. -/
  isQuoted : Bool
  isDescending : Bool
  emptyFirst : Option Bool
  deriving DecidableEq, Repr

/-- The keywords that no bare name can be. -/
def keywords : List String :=
  ["add", "all", "alter", "and", "as", "autoincrement", "between", "case", "check", "collate",
    "commit", "constraint", "create", "default", "deferrable", "delete", "distinct", "drop",
    "else", "escape", "except", "exists", "foreign", "from", "group", "having", "in", "index",
    "insert", "intersect", "into", "is", "isnull", "join", "limit", "not", "nothing", "notnull",
    "null", "on", "or", "order", "primary", "references", "returning", "select", "set", "table",
    "then", "to", "transaction", "union", "unique", "update", "using", "values", "when", "where"]

/-- The words that stand for a value where no column has their name. -/
def valueWords : List String :=
  ["true", "false", "current_date", "current_time", "current_timestamp"]

/-- The names of the number that every stored row has, which is no column of its table. -/
def rowNumberNames : List String :=
  ["rowid", "oid", "_rowid_"]

/-- Whether a token can be a name of a table or of a column. -/
def isName (text : String) (isQuoted : Bool) : Bool :=
  let word := Text.lowerAscii text
  !rowNumberNames.contains word && (isQuoted || !(keywords.contains word
    || valueWords.contains word
    || (text.toList.head?.map fun c => ('0' ≤ c && c ≤ '9') || c == '$').getD true))

/-- What stands behind the column of a term: a direction and a place for empty cells. -/
def direction? (tokens : List Token) : Option (Bool × Option Bool) :=
  let words := tokens.map fun token =>
    match token with
    | .name text false => Text.lowerAscii text
    | _ => ""
  match words with
  | [] => some (false, none)
  | ["asc"] => some (false, none)
  | ["desc"] => some (true, none)
  | ["nulls", "first"] => some (false, some true)
  | ["nulls", "last"] => some (false, some false)
  | ["asc", "nulls", "first"] => some (false, some true)
  | ["asc", "nulls", "last"] => some (false, some false)
  | ["desc", "nulls", "first"] => some (true, some true)
  | ["desc", "nulls", "last"] => some (true, some false)
  | _ => none

/-- The term of some tokens. -/
def term? : List Token → Option Term
  | .name table quotedTable :: .dot :: .name column quotedColumn :: rest =>
    if isName table quotedTable && isName column quotedColumn then
      (direction? rest).map fun (isDescending, emptyFirst) =>
        ⟨some table, column, quotedColumn, isDescending, emptyFirst⟩
    else none
  | .name column isQuoted :: rest =>
    if isName column isQuoted then
      (direction? rest).map fun (isDescending, emptyFirst) =>
        ⟨none, column, isQuoted, isDescending, emptyFirst⟩
    else none
  | _ => none

/-- Tokens between commas. -/
def splitCommas : List Token → List Token × List (List Token)
  | [] => ([], [])
  | token :: rest =>
    let (first, others) := splitCommas rest
    if token = .comma then ([], first :: others) else (token :: first, others)

/-! ## Limits -/

/-- Whether a token is a certain word. -/
def isWord (word : String) : Token → Bool
  | .name text false => Text.lowerAscii text == word
  | _ => false

/-- The number that a token is, if it is a stored one. -/
def number? : Token → Option Int
  | .name text false =>
    let digits := text.toList
    let value : Int := Cell.digitsValue digits
    if digits.all Cell.isDigit && fitsSignedWord value then some value else none
  | _ => none

/-- The limit behind the word for it, and the offset, which stands behind a word of its own or before a
comma and the limit. -/
def limits? : List Token → Option Limits
  | [limit] => return ⟨some (← number? limit), none⟩
  | [first, between, second] =>
    if between = .comma then return ⟨some (← number? second), some (← number? first)⟩
    else if isWord "offset" between then return ⟨some (← number? first), some (← number? second)⟩
    else none
  | _ => none

/-- What is read of a text. -/
structure Reading where
  terms : List Term
  /-- The limits at its end. -/
  limits : Limits
  deriving Repr

/-- Reads a text; none if it is not a list of columns. -/
def read? (text : String) : Option Reading := do
  let tokens ← tokens? .nothing text.toList
  let isBefore (token : Token) : Bool := !isWord "limit" token
  let (first, others) := splitCommas (tokens.takeWhile isBefore)
  let terms ← (first :: others).mapM term?
  match tokens.dropWhile isBefore with
  | [] => return ⟨terms, .absent⟩
  | _ :: behind => return ⟨terms, ← limits? behind⟩

/-! ## Names -/

/-- The names that a term can refer to. -/
structure Visible where
  /-- The labels of the result's columns; a label of a number of rows has no place. -/
  labels : List (String × Option Place)
  /-- The sources with their columns. -/
  sources : List (String × List (String × Place))
  deriving Repr

/-- Whether two names are the same; letters of ASCII count in either case. -/
def sameName (a b : String) : Bool :=
  Text.lowerAscii a == Text.lowerAscii b

/-- The places that a column name has in the sources of a name, or in all sources. -/
def places (visible : Visible) (table : Option String) (column : String) : List Place :=
  visible.sources.flatMap fun (name, columns) =>
    if table.elim true (sameName name) then
      (columns.filter fun entry => sameName entry.1 column).map Prod.snd
    else []

/-- The sort keys of a term: one, or none if its order is the same for all rows.  A term that refers to
two columns has no meaning, and one that refers to nothing has none unless it is a text. -/
def resolve? (visible : Visible) (term : Term) : Option (List SortKey) :=
  let key (place : Place) : SortKey := ⟨place, term.isDescending, term.emptyFirst⟩
  let label? :=
    if term.table.isSome then none
    else visible.labels.find? fun entry => sameName entry.1 term.column
  match label?, places visible term.table term.column with
  | some (_, place?), _ => some (place?.toList.map key)
  | none, [place] => some [key place]
  | none, [] => if term.table.isNone && term.isQuoted then some [] else none
  | none, _ => none

/-- The sort keys of a text. -/
def keys? (visible : Visible) (text : String) : Option (List SortKey) := do
  let reading ← read? text
  return (← reading.terms.mapM (resolve? visible)).flatten

end OrderText

end FilterQuery.Sql
