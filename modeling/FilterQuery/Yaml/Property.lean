import FilterQuery.Text.DecimalDigit
import FilterQuery.Yaml.Cursor

/-!
# Anchors, tags and directives

What stands around nodes: names that nodes are given and referred by, tags that say what a node
describes, and the directives before a document.

* `anchorName` — the name behind `&` or `*`.
* `tagParts` — the handle and the suffix of a tag.
* `Directive`, `directive` — a directive, from its `%` to the end of its line.
-/

namespace FilterQuery.Yaml

/-- Reads the name of an anchor or an alias, from its sign. -/
def anchorName : Reader String := do
  Reader.skip 1
  let name ← Reader.takeWhile isNameChar
  let next ← Reader.peek? 0
  if name.isEmpty then throw .token
  if endsWord next || next.any ['?', ':', ',', ']', '\x7d', '%', '@', '\x60'].contains then
    return String.ofList name
  else throw .token

/-- Whether a character may stand in the suffix of a tag. -/
def isUriChar (c : Char) : Bool :=
  c.isAlphanum || ['-', ';', '/', '?', ':', '@', '&', '=', '+', '$', ',', '_', '.', '!', '~', '*',
    '\'', '(', ')', '[', ']'].contains c

/-- Reads bytes that are written as a percent sign and two digits each. -/
def uriOctets : (steps : Nat) → Reader (List UInt8)
  | 0 => return []
  | steps + 1 => do
    if (← Reader.peek? 0) = some '%' then
      Reader.skip 1
      let digits ← Reader.take 2
      match hexNumber? digits with
      | some octet =>
        if digits.length = 2 then return octet.toUInt8 :: (← uriOctets steps)
        else throw .token
      | none => throw .token
    else return []

/-- Reads the pieces of a tag's suffix. -/
def uriPieces : (steps : Nat) → Reader (List Char)
  | 0 => return []
  | steps + 1 => do
    let plain ← Reader.takeWhile isUriChar
    let octets ← uriOctets (← Reader.steps)
    if plain.isEmpty && octets.isEmpty then return []
    match Text.decodeUtf8 octets with
    | .ok chars => return plain ++ chars ++ (← uriPieces steps)
    | .error _ => throw .token

/-- Reads the suffix of a tag, which is not empty. -/
def tagSuffix : Reader String := do
  let before := (← get).rest.length
  let pieces ← uriPieces (← Reader.steps)
  if (← get).rest.length = before then throw .token
  return String.ofList pieces

/-- Reads the handle of a tag: a sign, or a name between two signs. -/
def tagHandle : Reader String := do
  if (← Reader.peek? 0) ≠ some '!' then throw .token
  Reader.skip 1
  if (← Reader.peek? 0) = some ' ' then return "!"
  let name ← Reader.takeWhile isNameChar
  if (← Reader.peek? 0) ≠ some '!' then throw .token
  Reader.skip 1
  return "!" ++ String.ofList name ++ "!"

/-- Reads a tag: a suffix between angle brackets, a sign alone, or a handle and a suffix. -/
def tagParts : Reader (Option String × String) := do
  let next ← Reader.peek? 1
  let parts ←
    if next = some '<' then do
      Reader.skip 2
      let suffix ← tagSuffix
      if (← Reader.peek? 0) ≠ some '>' then throw .token
      Reader.skip 1
      pure (none, suffix)
    else if endsWord next then do
      Reader.skip 1
      pure (none, "!")
    else do
      let word := ((← get).rest.drop 1).takeWhile fun c => !endsText (some c)
      let handle ← if word.contains '!' then tagHandle else do
        Reader.skip 1
        pure "!"
      pure (some handle, ← tagSuffix)
  if endsText (← Reader.peek? 0) then return parts else throw .token

/-! ## Directives -/

/-- What a directive says. -/
inductive Directive where
  /-- The version of the language. -/
  | version (major : Nat)
  /-- What the handle of a tag stands for. -/
  | handle (name stem : String)
  /-- Anything else, which counts for nothing. -/
  | other
  deriving DecidableEq, Repr

/-- Reads the digits of a version. -/
def versionNumber : Reader Nat := do
  let digits ← Reader.takeWhile Char.isDigit
  if digits.isEmpty then throw .token
  if Text.digitLimit < digits.length then throw (.scalar (.tooManyDigits digits.length))
  return digits.foldl (fun n c => n * 10 + (c.toNat - '0'.toNat)) 0

/-- Reads the version in a directive. -/
def versionDirective : Reader Directive := do
  Reader.skipWhile (· == ' ')
  let major ← versionNumber
  if (← Reader.peek? 0) ≠ some '.' then throw .token
  Reader.skip 1
  let _ ← versionNumber
  if endsText (← Reader.peek? 0) then return .version major else throw .token

/-- Reads the handle in a directive and what it stands for. -/
def handleDirective : Reader Directive := do
  Reader.skipWhile (· == ' ')
  let name ← tagHandle
  if (← Reader.peek? 0) ≠ some ' ' then throw .token
  Reader.skipWhile (· == ' ')
  let stem ← tagSuffix
  if endsText (← Reader.peek? 0) then return .handle name stem else throw .token

/-- Reads a directive, from its sign to the end of its line. -/
def directive : Reader Directive := do
  Reader.skip 1
  let name ← Reader.takeWhile isNameChar
  if name.isEmpty || !endsText (← Reader.peek? 0) then throw .token
  let found ←
    if name = "YAML".toList then versionDirective
    else if name = "TAG".toList then handleDirective
    else do
      Reader.skipWhile fun c => !isBreak c
      pure .other
  Reader.closeLine
  return found

end FilterQuery.Yaml
