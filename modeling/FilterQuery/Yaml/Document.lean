import FilterQuery.Text.Base64
import FilterQuery.Value.Mapping
import FilterQuery.Value.Display
import FilterQuery.Yaml.Node

/-!
# Values of documents

What a document says.  Collections are filled round by round: first the document's own, then those
in it, and so on.  So of several faults the one counts that is met in the first round, and within
a round the one that stands first.

Two things are taken for granted.  All bytes are decoded, and all characters checked, before anything
is scanned; a reader that takes a large document in pieces meets a fault of scanning in one piece before
a bad byte or character in a later one.  And collections may be nested to any depth.

* `scalarValue` — the value of a scalar of a type.
* `Node.value` — the value of a node.
* `readDocument` — the value of the bytes of a document.
-/

namespace FilterQuery.Yaml

/-! ## Scalars -/

/-- The value of a scalar of a type. -/
def scalarValue (tag : Tag) (text : String) : Except Fault Value :=
  match tag with
  | .null => .ok .null
  | .truth =>
    let small := (text.toList.map Char.toLower)
    match Tag.truths.lookup (String.ofList small) with
    | some truth => .ok (.bool truth)
    | none => .error (.scalar (.notTruth (String.ofList small)))
  | .integer => ((integerOf text).map Value.int).mapError Fault.scalar
  | .number => ((numberOf text).map Value.float).mapError Fault.scalar
  | .binary =>
    if text.toList.all fun c => c.toNat < 128 then
      match Text.decodeBase64? text.toList with
      | some octets => .ok (.bytes octets)
      | none => .error .content
    else .error .content
  | .timestamp =>
    match Timestamp.ofChars? (withoutFinalBreak text).toList with
    | some ⟨date, _, none⟩ => ((Timestamp.day date).map Value.date).mapError Fault.scalar
    | some ⟨date, _, some clock⟩ =>
      ((Timestamp.time date clock).map Value.datetime).mapError Fault.scalar
    | none => .error (.scalar .notTimestamp)
  | .text => .ok (.str text)
  | _ => .error .content

namespace Tag

/-- Whether nodes with this tag are filled in a later round. -/
def isFilledLater : Tag → Bool
  | orderedPairs | pairs | set | sequence | mapping => true
  | _ => false

end Tag

/-! ## Rounds -/

/-- A fault and when it is met. -/
structure Met where
  moment : Nat
  fault : Fault
  deriving Repr

/-- Both results, or the fault that is met first. -/
def together {α β : Type} (a : Except Met α) (b : Except Met β) : Except Met (α × β) :=
  match a, b with
  | .ok x, .ok y => .ok (x, y)
  | .error met, .ok _ => .error met
  | .ok _, .error met => .error met
  | .error first, .error second =>
    .error (if second.moment < first.moment then second else first)

/-- Both results as one list, or the fault that is met first. -/
def joined {α : Type} (a b : Except Met (List α)) : Except Met (List α) :=
  (together a b).map fun (xs, ys) => xs ++ ys

/-- A fault that is met while a collection is filled in a round. -/
def within {α : Type} (round : Nat) (fault : Fault) : Except Met α :=
  .error ⟨2 * round + 1, fault⟩

/-- A fault that is met before a mapping is filled in a round. -/
def before {α : Type} (round : Nat) (fault : Fault) : Except Met α :=
  .error ⟨2 * round, fault⟩

namespace Node

/-- The tag of a node. -/
def tag? : Node → Option Tag
  | scalar tag _ => some tag
  | sequence tag _ => some tag
  | mapping tag _ => some tag
  | enclosing => none

mutual
/-- The text of a node that stands for one: a scalar, or a mapping with a default key. -/
def text? : Node → Option String
  | scalar _ text => some text
  | mapping _ entries => defaultText? entries
  | _ => none
/-- The text under the default key. -/
def defaultText? : List (Node × Node) → Option String
  | [] => none
  | (key, value) :: rest =>
    if key.tag? = some .default then value.text? else defaultText? rest
end

/-- The value of a node whose tag is not filled later. -/
def plainValue (round : Nat) (tag : Tag) (text : Option String) : Except Met Value :=
  match text with
  | some text => (scalarValue tag text).mapError fun fault => ⟨2 * round + 1, fault⟩
  | none => within round .content

mutual

/-- The value of a node that is met in a round. -/
def value (round : Nat) : Node → Except Met Value
  | enclosing => .ok .null
  | scalar tag text =>
    if tag.isFilledLater then within (round + 1) .content
    else plainValue round tag (some text)
  | sequence tag items =>
    match tag with
    | .sequence => (values (round + 1) items).map Value.list
    | .orderedPairs | .pairs => (pairs (round + 1) items).map Value.list
    | .mapping | .set => within (round + 1) .content
    | _ => within round .content
  | mapping tag entries =>
    match tag with
    | .mapping =>
      (joined (merged (round + 1) entries) (own (round + 1) entries)).map fun found =>
        .mapping (Mapping.ofPairs found)
    | .set =>
      (joined (merged (round + 1) entries) (own (round + 1) entries)).map fun found =>
        .record "set" ((Mapping.ofPairs found).map fun entry => (entry.1.display, entry.1))
    | .sequence | .orderedPairs | .pairs => within (round + 1) .content
    | _ => plainValue round tag (defaultText? entries)

/-- The values of the items of a sequence. -/
def values (round : Nat) : List Node → Except Met (List Value)
  | [] => .ok []
  | item :: rest =>
    joined ((value round item).map ([·])) (values round rest)

/-- The pairs of the items of a sequence, each a mapping of a single entry. -/
def pairs (round : Nat) : List Node → Except Met (List Value)
  | [] => .ok []
  | item :: rest =>
    joined
      (match item with
      | mapping _ [(key, held)] =>
        (together (value round key) (value round held)).map fun (key, held) =>
          [.tuple [key, held]]
      | _ => within round .content)
      (pairs round rest)

/-- The entries that stand in a mapping itself. -/
def own (round : Nat) : List (Node × Node) → Except Met (List (Value × Value))
  | [] => .ok []
  | (key, held) :: rest =>
    let entry :=
      match key.tag? with
      | none => within round .content
      | some .merge => .ok []
      | some tag =>
        let known :=
          if tag.isFilledLater then within round .content
          else if tag = .default then plainValue round .text key.text?
          else value round key
        (together known (value round held)).map ([·])
    joined entry (own round rest)

/-- The entries that are put into a mapping from others. -/
def merged (round : Nat) : List (Node × Node) → Except Met (List (Value × Value))
  | [] => .ok []
  | (key, held) :: rest =>
    let entries :=
      if key.tag? = some .merge then
        match held with
        | mapping _ entries => joined (merged round entries) (own round entries)
        | sequence _ items => mergedAll round items
        | enclosing => .ok []
        | scalar _ _ => before round .content
      else .ok []
    joined entries (merged round rest)

/-- The entries of several mappings; those of the last one come first. -/
def mergedAll (round : Nat) : List Node → Except Met (List (Value × Value))
  | [] => .ok []
  | item :: rest =>
    let entries :=
      match item with
      | mapping _ entries => joined (merged round entries) (own round entries)
      | enclosing => .ok []
      | _ => before round .content
    (together entries (mergedAll round rest)).map fun (first, later) => later ++ first

end

end Node

/-! ## Documents -/

/-- Every line end of any convention as a line feed. -/
def unifyBreaks : List Char → List Char
  | [] => []
  | '\r' :: '\n' :: rest => '\n' :: unifyBreaks rest
  | '\r' :: rest => '\n' :: unifyBreaks rest
  | c :: rest => c :: unifyBreaks rest

/-- Whether a document may hold a character. -/
def isAllowed (c : Char) : Bool :=
  c == '\t' || c == '\n' || c == '\r' || (' ' ≤ c && c ≤ '~') || c == '\u0085'
    || ('\u00a0' ≤ c && c ≤ '\ufffd') || 0x10000 ≤ c.toNat

/-- The value of the characters of a document; an empty document is null. -/
def valueOfChars (chars : List Char) : Except Fault Value := do
  if !chars.all isAllowed then throw .character
  match ← Node.ofTokens (Tokens.ofChars chars) with
  | some node => (node.value 0).mapError Met.fault
  | none => return .null

/-- The value of the bytes of a document. -/
def readDocument (octets : List UInt8) : Except Fault Value := do
  let chars ← (Text.decodeUtf8 octets).mapError Fault.encoding
  valueOfChars (unifyBreaks chars)

end FilterQuery.Yaml
