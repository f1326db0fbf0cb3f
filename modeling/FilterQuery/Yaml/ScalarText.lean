import FilterQuery.Yaml.Cursor

/-!
# Texts of scalars

The three ways to write a scalar, each read up to its end.

* `quotedScalar` — between single or double quotes; only the latter know escapes.
* `plainScalar` — without quotes, up to what ends a plain text at its place.
* `blockScalar` — a literal or folded block, which its indentation bounds.

In all of them but literal blocks a single line break is folded into a space, and of several the
first is dropped (`folded`).
-/

namespace FilterQuery.Yaml

/-- What a line break and the breaks behind it leave in a text. -/
def folded (first later : List Char) : List Char :=
  (if first ≠ ['\n'] then first else if later.isEmpty then [' '] else []) ++ later

/-! ## Quoted scalars -/

/-- The character that a letter behind a backslash stands for. -/
def escapedChar? (letter : Char) : Option Char :=
  [('0', '\x00'), ('a', '\x07'), ('b', '\x08'), ('t', '\t'), ('\t', '\t'), ('n', '\n'),
    ('v', '\x0b'), ('f', '\x0c'), ('r', '\r'), ('e', '\x1b'), (' ', ' '), ('"', '"'),
    ('\\', '\\'), ('/', '/'), ('N', '\u0085'), ('_', '\u00a0'), ('L', '\u2028'),
    ('P', '\u2029')].lookup letter

/-- The number of digits that a letter behind a backslash announces. -/
def escapeWidth? (letter : Char) : Option Nat :=
  [('x', 2), ('u', 4), ('U', 8)].lookup letter

/-- Reads the digits of an escape, and gives their character. -/
def escapedCode (width : Nat) : Reader Char := do
  let digits ← Reader.take width
  match hexNumber? digits with
  | some code =>
    if digits.length ≠ width then throw .token
    else if 0x10ffff < code then throw (.scalar (.noCharacter code))
    else return if code.isValidChar then Char.ofNat code else '\ufffd'
  | none => throw .token

/-- Reads the breaks between the lines of a quoted scalar, and the blanks around them. -/
def quotedBreaks : (steps : Nat) → Reader (List Char)
  | 0 => return []
  | steps + 1 => do
    if (← get).atDocumentMark then throw .token
    Reader.skipWhile fun c => c == ' ' || c == '\t'
    match ← Reader.lineBreak with
    | [] => return []
    | first => return first ++ (← quotedBreaks steps)

/-- Reads what a backslash escapes. -/
def escaped : Reader (List Char) := do
  match ← Reader.peek? 0 with
  | none => throw .token
  | some letter =>
    match escapedChar? letter, escapeWidth? letter with
    | some c, _ =>
      Reader.skip 1
      return [c]
    | none, some width =>
      Reader.skip 1
      return [← escapedCode width]
    | none, none =>
      if isBreak letter then
        let _ ← Reader.lineBreak
        quotedBreaks (← Reader.steps)
      else throw .token

/-- Whether a character ends a run of plain characters between quotes. -/
def endsQuotedRun (c : Char) : Bool :=
  c == '\'' || c == '"' || c == '\\' || c == ' ' || c == '\t' || isBreak c

/-- Reads a quoted scalar up to the next blank or the closing quote. -/
def quotedWord (isDouble : Bool) : (steps : Nat) → Reader (List Char)
  | 0 => return []
  | steps + 1 => do
    let run ← Reader.takeWhile fun c => !endsQuotedRun c
    match isDouble, ← Reader.peek? 0, ← Reader.peek? 1 with
    | false, some '\'', some '\'' => do
      Reader.skip 2
      return run ++ '\'' :: (← quotedWord isDouble steps)
    | true, some '\'', _ => do
      Reader.skip 1
      return run ++ '\'' :: (← quotedWord isDouble steps)
    | false, some '"', _ => do
      Reader.skip 1
      return run ++ '"' :: (← quotedWord isDouble steps)
    | false, some '\\', _ => do
      Reader.skip 1
      return run ++ '\\' :: (← quotedWord isDouble steps)
    | true, some '\\', _ => do
      Reader.skip 1
      let plain ← escaped
      return run ++ plain ++ (← quotedWord isDouble steps)
    | _, _, _ => return run

/-- Reads the blanks and breaks between the words of a quoted scalar. -/
def quotedGap : Reader (List Char) := do
  let blanks ← Reader.takeWhile fun c => c == ' ' || c == '\t'
  match ← Reader.peek? 0 with
  | none => throw .token
  | some c =>
    if isBreak c then
      let first ← Reader.lineBreak
      return folded first (← quotedBreaks (← Reader.steps))
    else return blanks

/-- Reads the further words of a quoted scalar, and the closing quote. -/
def quotedRest (quote : Char) : (steps : Nat) → Reader (List Char)
  | 0 => throw .token
  | steps + 1 => do
    if (← Reader.peek? 0) = some quote then
      Reader.skip 1
      return []
    else
      let gap ← quotedGap
      let word ← quotedWord (quote == '"') (← Reader.steps)
      return gap ++ word ++ (← quotedRest quote steps)

/-- Reads a quoted scalar, from its opening quote. -/
def quotedScalar (quote : Char) : Reader (List Char) := do
  Reader.skip 1
  let word ← quotedWord (quote == '"') (← Reader.steps)
  return word ++ (← quotedRest quote (← Reader.steps))

/-! ## Plain scalars -/

/-- Whether a colon is a mark when this stands behind it. -/
def endsKey (inFlow : Bool) (behind : Option Char) : Bool :=
  endsWord behind || inFlow && behind.any [',', '[', ']', '\x7b', '\x7d'].contains

/-- The characters of a plain scalar up to a blank or a mark. -/
def plainRun (inFlow : Bool) : List Char → List Char
  | [] => []
  | c :: rest =>
    if endsWord (some c) || (c == ':' && endsKey inFlow rest.head?)
        || (inFlow && [',', '?', '[', ']', '\x7b', '\x7d'].contains c) then []
    else c :: plainRun inFlow rest

/-- Reads spaces and further breaks, up to a document mark.  None if there is such a mark. -/
def plainBreaks : (steps : Nat) → Reader (Option (List Char))
  | 0 => return some []
  | steps + 1 => do
    Reader.skipWhile (· == ' ')
    match ← Reader.lineBreak with
    | [] => return some []
    | first =>
      if (← get).atDocumentMark then return none
      else return (← plainBreaks steps).map (first ++ ·)

/-- Reads the space between the words of a plain scalar: what it leaves in the text, and whether
a line ends in it. -/
def plainGap : Reader (List Char × Bool) := do
  let spaces ← Reader.takeWhile (· == ' ')
  match ← Reader.lineBreak with
  | [] => return (spaces, false)
  | first =>
    if (← get).atDocumentMark then return ([], true)
    else
      match ← plainBreaks (← Reader.steps) with
      | some later => return (folded first later, true)
      | none => return ([], true)

/-- Reads the words of a plain scalar whose lines stand at least at `indent`.  The gap before the
next word belongs to the text only if there is a next word. -/
def plainWords (inFlow : Bool) (indent : Int) (gap : List Char) (lineEnded : Bool) :
    (steps : Nat) → Reader (List Char × Bool)
  | 0 => return ([], lineEnded)
  | steps + 1 => do
    let rest := (← get).rest
    let run := if rest.head? = some '#' then [] else plainRun inFlow rest
    if run.isEmpty then return ([], lineEnded)
    else
      Reader.skip run.length
      let (next, crossed) ← plainGap
      let cursor ← get
      if next.isEmpty || cursor.peek? 0 = some '#' || (!inFlow && cursor.column < indent) then
        return (gap ++ run, crossed)
      else
        let (more, ended) ← plainWords inFlow indent next crossed steps
        return (gap ++ run ++ more, ended)

/-- Reads a plain scalar, and whether a line ends behind it. -/
def plainScalar (inFlow : Bool) (indent : Int) : Reader (List Char × Bool) := do
  plainWords inFlow indent [] false (← Reader.steps)

/-! ## Block scalars -/

/-- What happens to the breaks at the end of a block. -/
inductive Chomping where
  /-- All are dropped. -/
  | strip
  /-- One is kept. -/
  | clip
  /-- All are kept. -/
  | keep
  deriving DecidableEq, Repr

/-- Reads the sign of a block's chomping, if one is here. -/
def chompingSign? : Reader (Option Chomping) := do
  match ← Reader.peek? 0 with
  | some '+' => do
    Reader.skip 1
    return some .keep
  | some '-' => do
    Reader.skip 1
    return some .strip
  | _ => return none

/-- Reads the digit of a block's indentation, if one is here. -/
def indentDigit? : Reader (Option Nat) := do
  match ← Reader.peek? 0 with
  | some c =>
    if c.isDigit then
      if c == '0' then throw .token
      Reader.skip 1
      return some (c.toNat - '0'.toNat)
    else return none
  | none => return none

/-- Reads the two signs of a block, in either order. -/
def blockSigns : Reader (Chomping × Option Nat) := do
  let sign ← chompingSign?
  let digit ← indentDigit?
  let late ← if sign.isNone && digit.isSome then chompingSign? else pure none
  if endsText (← Reader.peek? 0) then return ((sign <|> late).getD .clip, digit)
  else throw .token

/-- Reads the empty lines before a block, and gives the greatest column that its spaces reach. -/
def blockLead (reach : Nat) : (steps : Nat) → Reader (List Char × Nat)
  | 0 => return ([], reach)
  | steps + 1 => do
    Reader.skipWhile (· == ' ')
    let reach := max reach (← get).column
    match ← Reader.lineBreak with
    | [] => return ([], reach)
    | first => do
      let (later, reach) ← blockLead reach steps
      return (first ++ later, reach)

/-- Passes over spaces up to a column. -/
def skipIndent (indent : Nat) : Reader Unit := do
  let cursor ← get
  let spaces := (cursor.rest.takeWhile (· == ' ')).length
  Reader.skip (min spaces (indent - cursor.column))

/-- Reads the empty lines of a block, and the indentation of the line behind them. -/
def blockBreaks (indent : Nat) : (steps : Nat) → Reader (List Char)
  | 0 => return []
  | steps + 1 => do
    skipIndent indent
    match ← Reader.lineBreak with
    | [] => return []
    | first => return first ++ (← blockBreaks indent steps)

/-- Whether a line of the block is here. -/
def atBlockLine (indent : Nat) : Reader Bool := do
  let cursor ← get
  return cursor.column = indent && !cursor.rest.isEmpty

/-- Reads the lines of a block.  `breaks` are the empty lines before the next one; the result is
the text with the break of the last line and the empty lines behind it apart. -/
def blockLines (isFolded : Bool) (indent : Nat) (breaks : List Char) :
    (steps : Nat) → Reader (List Char × List Char × List Char)
  | 0 => return ([], [], breaks)
  | steps + 1 => do
    let startsBlank := (← Reader.peek? 0).any fun c => c == ' ' || c == '\t'
    let line ← Reader.takeWhile fun c => !isBreak c
    let lineEnd ← Reader.lineBreak
    let later ← blockBreaks indent (← Reader.steps)
    if ← atBlockLine indent then
      let nextBlank := (← Reader.peek? 0).any fun c => c == ' ' || c == '\t'
      let joint :=
        if isFolded && lineEnd = ['\n'] && !startsBlank && !nextBlank then
          if later.isEmpty then [' '] else []
        else lineEnd
      let (more, last, behind) ← blockLines isFolded indent later steps
      return (breaks ++ line ++ joint ++ more, last, behind)
    else return (breaks ++ line, lineEnd, later)

/-- Reads a block scalar, from its sign, in a block of the given indentation. -/
def blockScalar (isFolded : Bool) (outer : Int) : Reader (List Char) := do
  Reader.skip 1
  let (chomping, digit) ← blockSigns
  Reader.closeLine
  let least := (max 1 (outer + 1)).toNat
  let (breaks, indent) ←
    match digit with
    | some width =>
      let indent := least + width - 1
      pure (← blockBreaks indent (← Reader.steps), indent)
    | none => do
      let (breaks, reach) ← blockLead 0 (← Reader.steps)
      pure (breaks, max least reach)
  let (text, last, behind) ←
    if ← atBlockLine indent then blockLines isFolded indent breaks (← Reader.steps)
    else pure ([], [], breaks)
  return text ++ (if chomping = .strip then [] else last)
    ++ (if chomping = .keep then behind else [])

end FilterQuery.Yaml
