import FilterQuery.Yaml.Property
import FilterQuery.Yaml.ScalarText

/-!
# Tokens

A document as a row of tokens.  Indentation becomes tokens of its own, which open and close
blocks.  Whether a token is a key is known only when the colon behind it is met; until then it is a
*candidate*, and the tokens from the first candidate on are not settled.

* `Token` — the tokens.
* `Layout` — what is known between two tokens: the open blocks and the candidates.
* `Layout.fetch` — reads the next tokens.
* `Tokens`, `Tokens.ofChars` — the settled tokens of a document, and the fault behind them if
  they break off.
-/

namespace FilterQuery.Yaml

/-- A token. -/
inductive Token where
  | directive (directive : Directive)
  | documentStart
  | documentEnd
  | streamEnd
  | blockSequenceStart
  | blockMappingStart
  | blockEnd
  | flowSequenceStart
  | flowSequenceEnd
  | flowMappingStart
  | flowMappingEnd
  | blockEntry
  | flowEntry
  | key
  | value
  | aliasOf (name : String)
  | anchor (name : String)
  | tag (handle : Option String) (suffix : String)
  | scalar (text : String) (isPlain : Bool)
  deriving DecidableEq, Repr

/-! ## Layout -/

/-- A token that is a key if a colon follows on its line. -/
structure Candidate where
  /-- The number of tokens before it. -/
  place : Nat
  /-- Whether nothing but a key may be there. -/
  isRequired : Bool
  index : Nat
  line : Nat
  column : Nat
  deriving Repr

/-- What is known between two tokens. -/
structure Layout where
  cursor : Cursor
  tokens : List Token
  /-- The number of brackets that are open. -/
  depth : Nat
  /-- The column of the innermost block; before the first block one less than any. -/
  indent : Int
  /-- The columns of the blocks around it. -/
  outer : List Int
  /-- Whether a key may start here. -/
  keyAllowed : Bool
  /-- The candidates, one for every number of open brackets. -/
  candidates : List (Nat × Candidate)
  isDone : Bool
  deriving Repr

namespace Layout

/-- The layout before the first token. -/
def start (chars : List Char) : Layout :=
  ⟨Cursor.start chars, [], 0, -1, [], true, [], false⟩

/-- Whether brackets are open. -/
def inFlow (layout : Layout) : Bool :=
  layout.depth != 0

/-- Adds tokens. -/
def add (layout : Layout) (tokens : List Token) : Layout :=
  { layout with tokens := layout.tokens ++ tokens }

/-- Puts a token in between the others. -/
def putAt (layout : Layout) (place : Nat) (token : Token) : Layout :=
  { layout with tokens := layout.tokens.take place ++ token :: layout.tokens.drop place }

/-- Carries out a step of reading. -/
def read {α : Type} (layout : Layout) (reader : Reader α) : Except Fault (α × Layout) := do
  let (result, cursor) ← reader.run layout.cursor
  return (result, { layout with cursor := cursor })

/-- Passes over characters. -/
def skip (layout : Layout) (count : Nat) : Layout :=
  { layout with cursor := layout.cursor.skip count }

/-! ### Candidates -/

/-- Whether a candidate can no longer be a key: its line is over, or it is too far away. -/
def isStale (layout : Layout) (candidate : Candidate) : Bool :=
  candidate.line != layout.cursor.line || layout.cursor.index > candidate.index + 1024

/-- Drops the candidates that can no longer be keys. -/
def dropStale (layout : Layout) : Except Fault Layout :=
  if layout.candidates.any fun entry => layout.isStale entry.2 && entry.2.isRequired then
    .error .token
  else .ok { layout with
    candidates := layout.candidates.filter fun entry => !layout.isStale entry.2 }

/-- Drops the candidate between the innermost brackets. -/
def dropCandidate (layout : Layout) : Except Fault Layout :=
  match layout.candidates.lookup layout.depth with
  | some candidate =>
    if candidate.isRequired then .error .token
    else .ok { layout with
      candidates := layout.candidates.filter fun entry => entry.1 != layout.depth }
  | none => .ok layout

/-- Makes the next token a candidate, if a key may start here. -/
def saveCandidate (layout : Layout) : Except Fault Layout :=
  if layout.keyAllowed then do
    let cursor := layout.cursor
    let isRequired := !layout.inFlow && layout.indent == cursor.column
    let candidate : Candidate :=
      ⟨layout.tokens.length, isRequired, cursor.index, cursor.line, cursor.column⟩
    let layout ← layout.dropCandidate
    return { layout with candidates := (layout.depth, candidate) :: layout.candidates }
  else return layout

/-- The number of tokens before the first candidate. -/
def settled (layout : Layout) : Nat :=
  layout.candidates.foldl (fun count entry => min count entry.2.place) layout.tokens.length

/-! ### Blocks -/

/-- Closes blocks that are further to the right than a column. -/
def closeBlocks (column : Int) : (outer : List Int) → Layout → Layout
  | [], layout => layout
  | around :: outer, layout =>
    if column < layout.indent then
      closeBlocks column outer
        { layout.add [.blockEnd] with indent := around, outer := outer }
    else layout

/-- Closes the blocks that end at a column.  Between brackets there are no blocks. -/
def unwind (layout : Layout) (column : Int) : Layout :=
  if layout.inFlow then layout else closeBlocks column layout.outer layout

/-- Opens a block at a column, if it is further to the right than the innermost one. -/
def openBlock (layout : Layout) (column : Nat) (place : Nat) (token : Token) : Layout :=
  if layout.indent < column then
    { layout.putAt place token with
      indent := column, outer := layout.indent :: layout.outer }
  else layout

/-! ### Single tokens -/

/-- A mark that closes all blocks. -/
def closeAll (layout : Layout) : Except Fault Layout := do
  let layout ← (layout.unwind (-1)).dropCandidate
  return { layout with keyAllowed := false }

/-- The end of the document. -/
def fetchEnd (layout : Layout) : Except Fault Layout := do
  let layout ← layout.closeAll
  return { layout.add [.streamEnd] with candidates := [], isDone := true }

/-- A directive. -/
def fetchDirective (layout : Layout) : Except Fault Layout := do
  let (found, layout) ← (← layout.closeAll).read directive
  return layout.add [.directive found]

/-- A mark between documents. -/
def fetchDocumentMark (layout : Layout) (token : Token) : Except Fault Layout := do
  return ((← layout.closeAll).skip 3).add [token]

/-- An opening bracket. -/
def fetchOpening (layout : Layout) (token : Token) : Except Fault Layout := do
  let layout ← layout.saveCandidate
  return ({ layout with depth := layout.depth + 1, keyAllowed := true }.skip 1).add [token]

/-- A closing bracket. -/
def fetchClosing (layout : Layout) (token : Token) : Except Fault Layout := do
  let layout ← layout.dropCandidate
  return ({ layout with depth := layout.depth - 1, keyAllowed := false }.skip 1).add [token]

/-- A comma between brackets. -/
def fetchFlowEntry (layout : Layout) : Except Fault Layout := do
  let layout ← layout.dropCandidate
  return ({ layout with keyAllowed := true }.skip 1).add [.flowEntry]

/-- A sign that may open a block here; the parts behind it are read with their own layout. -/
def fetchBlockSign (layout : Layout) (opening token : Token) (keyAllowed : Bool) :
    Except Fault Layout := do
  if !layout.inFlow && !layout.keyAllowed then throw .token
  let layout :=
    if layout.inFlow then layout
    else layout.openBlock layout.cursor.column layout.tokens.length opening
  let layout ← layout.dropCandidate
  return ({ layout with keyAllowed := keyAllowed }.skip 1).add [token]

/-- A colon: it makes the candidate a key, or starts a value without one. -/
def fetchValue (layout : Layout) : Except Fault Layout :=
  match layout.candidates.lookup layout.depth with
  | some candidate =>
    let layout := { layout with
      candidates := layout.candidates.filter fun entry => entry.1 != layout.depth }
    let layout := layout.putAt candidate.place .key
    let layout :=
      if layout.inFlow then layout
      else layout.openBlock candidate.column candidate.place .blockMappingStart
    .ok (({ layout with keyAllowed := false }.skip 1).add [.value])
  | none => layout.fetchBlockSign .blockMappingStart .value (!layout.inFlow)

/-- A token that may be a key. -/
def fetchContent (layout : Layout) (reader : Reader Token) : Except Fault Layout := do
  let layout ← layout.saveCandidate
  let (token, layout) ← { layout with keyAllowed := false }.read reader
  return layout.add [token]

/-- A block scalar. -/
def fetchBlockScalar (layout : Layout) (isFolded : Bool) : Except Fault Layout := do
  let layout ← { layout with keyAllowed := true }.dropCandidate
  let (text, layout) ← layout.read (blockScalar isFolded layout.indent)
  return layout.add [.scalar (String.ofList text) false]

/-- A plain scalar.  Behind a line end a key may start again. -/
def fetchPlain (layout : Layout) : Except Fault Layout := do
  let layout ← layout.saveCandidate
  let ((text, lineEnded), layout) ← layout.read (plainScalar layout.inFlow (layout.indent + 1))
  return { layout with keyAllowed := lineEnded }.add [.scalar (String.ofList text) true]

/-! ### The next tokens -/

/-- Passes over spaces, comments and line ends. -/
def skipBlank : (steps : Nat) → Layout → Layout
  | 0, layout => layout
  | steps + 1, layout =>
    let spaces := (layout.cursor.rest.takeWhile (· == ' ')).length
    let cursor := layout.cursor.skip spaces
    let comment :=
      if cursor.peek? 0 = some '#' then (cursor.rest.takeWhile fun c => !isBreak c).length else 0
    let cursor := cursor.skip comment
    match cursor.rest with
    | c :: _ =>
      if isBreak c then
        skipBlank steps { layout with
          cursor := cursor.next, keyAllowed := layout.keyAllowed || !layout.inFlow }
      else { layout with cursor := cursor }
    | [] => { layout with cursor := cursor }

/-- Passes over all that is before the next token; a byte order mark may start a document. -/
def skipToToken (layout : Layout) : Layout :=
  let layout :=
    if layout.cursor.index = 0 && layout.cursor.peek? 0 = some '\ufeff' then layout.skip 1
    else layout
  skipBlank (layout.cursor.rest.length + 1) layout

/-- Whether a plain scalar starts here. -/
def startsPlain (layout : Layout) (c : Char) : Bool :=
  let marks := ['-', '?', ':', ',', '[', ']', '\x7b', '\x7d', '#', '&', '*', '!', '|', '>', '\'',
    '"', '%', '@', '\x60']
  (!endsWord (some c) && !marks.contains c)
    || (!endsWord (layout.cursor.peek? 1)
      && (c == '-' || (!layout.inFlow && (c == '?' || c == ':'))))

/-- Reads the token that starts with a character. -/
def fetchAt (layout : Layout) (c : Char) : Except Fault Layout :=
  let cursor := layout.cursor
  let gapFollows := endsWord (cursor.peek? 1)
  if c == '%' && cursor.column == 0 then layout.fetchDirective
  else if cursor.column == 0 && cursor.atMark '-' then layout.fetchDocumentMark .documentStart
  else if cursor.column == 0 && cursor.atMark '.' then layout.fetchDocumentMark .documentEnd
  else if c == '[' then layout.fetchOpening .flowSequenceStart
  else if c == '\x7b' then layout.fetchOpening .flowMappingStart
  else if c == ']' then layout.fetchClosing .flowSequenceEnd
  else if c == '\x7d' then layout.fetchClosing .flowMappingEnd
  else if c == ',' then layout.fetchFlowEntry
  else if c == '-' && gapFollows then layout.fetchBlockSign .blockSequenceStart .blockEntry true
  else if c == '?' && (layout.inFlow || gapFollows) then
    layout.fetchBlockSign .blockMappingStart .key (!layout.inFlow)
  else if c == ':' && (layout.inFlow || gapFollows) then layout.fetchValue
  else if c == '*' then layout.fetchContent do return .aliasOf (← anchorName)
  else if c == '&' then layout.fetchContent do return .anchor (← anchorName)
  else if c == '!' then layout.fetchContent do
    let (handle, suffix) ← tagParts
    return .tag handle suffix
  else if (c == '|' || c == '>') && !layout.inFlow then layout.fetchBlockScalar (c == '>')
  else if c == '\'' || c == '"' then
    layout.fetchContent do return .scalar (String.ofList (← quotedScalar c)) false
  else if layout.startsPlain c then layout.fetchPlain
  else .error .token

/-- Reads the next tokens: the block ends before one, and that one. -/
def fetch (layout : Layout) : Except Fault Layout := do
  let layout ← layout.skipToToken.dropStale
  let layout := layout.unwind layout.cursor.column
  match layout.cursor.rest with
  | [] => layout.fetchEnd
  | c :: _ => layout.fetchAt c

end Layout

/-! ## All tokens -/

/-- The tokens of a document, up to its end or to a fault. -/
structure Tokens where
  settled : List Token
  fault : Option Fault
  deriving Repr

namespace Tokens

/-- Reads tokens on.  A fault comes behind the tokens that were settled before it. -/
def ofLayout (settled : Nat) : (steps : Nat) → Layout → Tokens
  | 0, layout => ⟨layout.tokens.take settled, some .token⟩
  | steps + 1, layout =>
    if layout.isDone then ⟨layout.tokens, none⟩
    else
      match layout.dropStale with
      | .error fault => ⟨layout.tokens.take settled, some fault⟩
      | .ok layout =>
        match layout.fetch with
        | .error fault => ⟨layout.tokens.take layout.settled, some fault⟩
        | .ok next => ofLayout layout.settled steps next

/-- The tokens of the characters of a document. -/
def ofChars (chars : List Char) : Tokens :=
  ofLayout 0 (chars.length + 2) (Layout.start chars)

end Tokens

end FilterQuery.Yaml
