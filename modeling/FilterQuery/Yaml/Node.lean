import FilterQuery.Yaml.Tag
import FilterQuery.Yaml.Token

/-!
# Nodes

The tree that the tokens of a document form: scalars, sequences and mappings, each with its tag.
An alias is replaced by the node that it names.  A node may hold an alias for itself; there the
tree ends.

* `Node` — the tree.
* `Assembly` — a step of forming nodes.
* `Node.ofTokens` — the node of a document; none if the document is empty.
-/

namespace FilterQuery.Yaml

/-- A node of a document. -/
inductive Node where
  | scalar (tag : Tag) (text : String)
  | sequence (tag : Tag) (items : List Node)
  | mapping (tag : Tag) (entries : List (Node × Node))
  /-- A collection that this node is part of. -/
  | enclosing
  deriving Repr, Inhabited

/-- What is known between two nodes. -/
structure Surroundings where
  /-- The tokens to come. -/
  tokens : List Token
  /-- The fault behind the last of them. -/
  fault : Fault
  /-- What the handles of tags stand for. -/
  handles : List (String × String)
  /-- The nodes by their names; none while a node is not complete. -/
  anchors : List (String × Option Node)

/-- A step of forming nodes. -/
abbrev Assembly := StateT Surroundings (Except Fault)

namespace Assembly

/-- The next token. -/
def peek : Assembly Token := do
  let around ← get
  match around.tokens with
  | token :: _ => return token
  | [] => throw around.fault

/-- Passes over the next token. -/
def skip : Assembly Unit :=
  modify fun around => { around with tokens := around.tokens.drop 1 }

/-- Gives a node a name that no node has yet. -/
def name (anchor : Option String) (node : Option Node) : Assembly Unit := do
  match anchor with
  | some anchor =>
    modify fun around => { around with anchors := (anchor, node) :: around.anchors }
  | none => return ()

/-- Fails if a name is in use. -/
def checkName (anchor : Option String) : Assembly Unit := do
  match anchor with
  | some anchor => if ((← get).anchors.lookup anchor).isSome then throw .reference
  | none => return ()

/-- The node that a name stands for. -/
def named (anchor : String) : Assembly Node := do
  match (← get).anchors.lookup anchor with
  | some (some node) => return node
  | some none => return .enclosing
  | none => throw .reference

/-- The text of a tag: its handle replaced by what it stands for. -/
def tagText (handle : Option String) (suffix : String) : Assembly String := do
  match handle with
  | some handle =>
    match (← get).handles.lookup handle with
    | some stem => return stem ++ suffix
    | none => throw .arrangement
  | none => return suffix

/-- Reads the name and the tag before a node, in either order. -/
def properties : Assembly (Option String × Option String) := do
  match ← peek with
  | .anchor anchor =>
    skip
    match ← peek with
    | .tag handle suffix =>
      skip
      return (some anchor, some (← tagText handle suffix))
    | _ => return (some anchor, none)
  | .tag handle suffix =>
    skip
    match ← peek with
    | .anchor anchor =>
      skip
      return (some anchor, some (← tagText handle suffix))
    | _ => return (none, some (← tagText handle suffix))
  | _ => return (none, none)

/-- A node without any text. -/
def empty : Node :=
  .scalar .null ""

/-- The tag of a collection: the sign `!` alone says nothing. -/
def collectionTag (given : Option String) (otherwise : Tag) : Tag :=
  match given with
  | some "!" => otherwise
  | some text => Tag.ofText text
  | none => otherwise

/-- The tag of a scalar. -/
def scalarTag (given : Option String) (text : String) (isPlain : Bool) : Tag :=
  match given with
  | some "!" => Tag.ofPlain text
  | some tag => Tag.ofText tag
  | none => if isPlain then Tag.ofPlain text else .text

/-- Names a node, which is then complete. -/
def complete (anchor : Option String) (node : Node) : Assembly Node := do
  name anchor (some node)
  return node

/-- Forms a collection of its members.  Its name is in use while they are formed, and stands for it
behind them. -/
def collection (anchor tag : Option String) (kind : Tag) (members : Assembly Node) :
    Assembly Node := do
  checkName anchor
  name anchor none
  match ← members with
  | .sequence _ items => complete anchor (.sequence (collectionTag tag kind) items)
  | .mapping _ entries => complete anchor (.mapping (collectionTag tag kind) entries)
  | other => return other

mutual

/-- Forms a node.  `inBlock` says whether a block may start here, and `afterKey` whether the
entries of a sequence may stand without a block of their own. -/
def node (inBlock afterKey : Bool) : (steps : Nat) → Assembly Node
  | 0 => throw .arrangement
  | steps + 1 => do
    match ← peek with
    | .aliasOf anchor =>
      skip
      named anchor
    | _ =>
      let (anchor, tag) ← properties
      match ← peek with
      | .scalar text isPlain =>
        skip
        checkName anchor
        complete anchor (.scalar (scalarTag tag text isPlain) text)
      | .flowSequenceStart =>
        skip
        collection anchor tag .sequence do return .sequence .sequence (← flowItems true steps)
      | .flowMappingStart =>
        skip
        collection anchor tag .mapping do return .mapping .mapping (← flowEntries true steps)
      | .blockSequenceStart =>
        if inBlock then
          skip
          collection anchor tag .sequence do return .sequence .sequence (← blockItems steps)
        else bare anchor tag
      | .blockMappingStart =>
        if inBlock then
          skip
          collection anchor tag .mapping do return .mapping .mapping (← blockEntries steps)
        else bare anchor tag
      | .blockEntry =>
        if afterKey then
          collection anchor tag .sequence do return .sequence .sequence (← openItems steps)
        else bare anchor tag
      | _ => bare anchor tag

/-- Forms a node of a name or a tag alone. -/
def bare (anchor tag : Option String) : Assembly Node := do
  if anchor.isNone && tag.isNone then throw .arrangement
  checkName anchor
  complete anchor (.scalar (scalarTag tag "" true) "")

/-- Forms the items of a block. -/
def blockItems : (steps : Nat) → Assembly (List Node)
  | 0 => throw .arrangement
  | steps + 1 => do
    match ← peek with
    | .blockEntry =>
      skip
      let item ←
        match ← peek with
        | .blockEntry | .blockEnd => pure empty
        | _ => node true false steps
      return item :: (← blockItems steps)
    | .blockEnd =>
      skip
      return []
    | _ => throw .arrangement

/-- Forms the items of a sequence without a block of its own. -/
def openItems : (steps : Nat) → Assembly (List Node)
  | 0 => throw .arrangement
  | steps + 1 => do
    match ← peek with
    | .blockEntry =>
      skip
      let item ←
        match ← peek with
        | .blockEntry | .key | .value | .blockEnd => pure empty
        | _ => node true false steps
      return item :: (← openItems steps)
    | _ => return []

/-- Forms a key or a value of a block. -/
def blockPart : (steps : Nat) → Assembly Node
  | 0 => throw .arrangement
  | steps + 1 => do
    match ← peek with
    | .key | .value | .blockEnd => return empty
    | _ => node true true steps

/-- Forms the entries of a block. -/
def blockEntries : (steps : Nat) → Assembly (List (Node × Node))
  | 0 => throw .arrangement
  | steps + 1 => do
    match ← peek with
    | .key =>
      skip
      let key ← blockPart steps
      let value ←
        match ← peek with
        | .value => do
          skip
          blockPart steps
        | _ => pure empty
      return (key, value) :: (← blockEntries steps)
    | .blockEnd =>
      skip
      return []
    | _ => throw .arrangement

/-- Forms a key or a value between brackets. -/
def flowPart (isKey : Bool) (closing : Token) : (steps : Nat) → Assembly Node
  | 0 => throw .arrangement
  | steps + 1 => do
    let token ← peek
    if token = .flowEntry || token = closing || (isKey && token = .value) then return empty
    else node false false steps

/-- Forms an entry between brackets, from its key sign. -/
def flowEntry (closing : Token) : (steps : Nat) → Assembly (Node × Node)
  | 0 => throw .arrangement
  | steps + 1 => do
    skip
    let key ← flowPart true closing steps
    match ← peek with
    | .value =>
      skip
      return (key, ← flowPart false closing steps)
    | _ => return (key, empty)

/-- Forms the items between square brackets.  An entry among them is a mapping of its own. -/
def flowItems (isFirst : Bool) : (steps : Nat) → Assembly (List Node)
  | 0 => throw .arrangement
  | steps + 1 => do
    match ← peek with
    | .flowSequenceEnd =>
      skip
      return []
    | token =>
      if !isFirst then
        if token = .flowEntry then skip else throw .arrangement
      match ← peek with
      | .flowSequenceEnd =>
        skip
        return []
      | .key =>
        let entry ← flowEntry .flowSequenceEnd steps
        return .mapping .mapping [entry] :: (← flowItems false steps)
      | _ =>
        let item ← node false false steps
        return item :: (← flowItems false steps)

/-- Forms the entries between braces. -/
def flowEntries (isFirst : Bool) : (steps : Nat) → Assembly (List (Node × Node))
  | 0 => throw .arrangement
  | steps + 1 => do
    match ← peek with
    | .flowMappingEnd =>
      skip
      return []
    | token =>
      if !isFirst then
        if token = .flowEntry then skip else throw .arrangement
      match ← peek with
      | .flowMappingEnd =>
        skip
        return []
      | .key =>
        let entry ← flowEntry .flowMappingEnd steps
        return entry :: (← flowEntries false steps)
      | _ =>
        let key ← node false false steps
        return (key, empty) :: (← flowEntries false steps)

end

/-! ## Documents -/

/-- Reads the directives of a document, given the handles known so far. -/
def directives (hasVersion : Bool) (handles : List (String × String)) :
    (steps : Nat) → Assembly (List (String × String))
  | 0 => throw .arrangement
  | steps + 1 => do
    match ← peek with
    | .directive found =>
      skip
      match found with
      | .version major =>
        if hasVersion || major ≠ 1 then throw .arrangement
        directives true handles steps
      | .handle name stem =>
        if (handles.lookup name).isSome then throw .arrangement
        directives hasVersion (handles ++ [(name, stem)]) steps
      | .other => directives hasVersion handles steps
    | _ => return handles

/-- The handles that are known without a directive. -/
def standardHandles : List (String × String) :=
  [("!", "!"), ("!!", Tag.standardStem)]

/-- Passes over the marks that end documents. -/
def skipEnds : (steps : Nat) → Assembly Unit
  | 0 => return ()
  | steps + 1 => do
    match ← peek with
    | .documentEnd =>
      skip
      skipEnds steps
    | _ => return ()

/-- Reads up to the start of the next document, and tells whether there is one. -/
def nextDocument (steps : Nat) : Assembly Bool := do
  skipEnds steps
  match ← peek with
  | .streamEnd => return false
  | _ =>
    let handles ← directives false [] steps
    modify fun around => { around with handles := handles ++ standardHandles }
    match ← peek with
    | .documentStart =>
      skip
      return true
    | _ => throw .arrangement

/-- Forms the node of a document that has a mark before it. -/
def markedDocument (steps : Nat) : Assembly Node := do
  match ← peek with
  | .directive _ | .documentStart | .documentEnd | .streamEnd => return empty
  | _ => node true false steps

/-- Forms the node of the only document. -/
def onlyDocument (steps : Nat) : Assembly (Option Node) := do
  let found ←
    match ← peek with
    | .directive _ | .documentStart | .streamEnd => do
      if ← nextDocument steps then some <$> markedDocument steps else pure none
    | _ => some <$> node true false steps
  match found with
  | none => return none
  | some found =>
    if ← nextDocument steps then throw .reference
    return some found

end Assembly

/-- The node of a document; none if the document is empty. -/
def Node.ofTokens (tokens : Tokens) : Except Fault (Option Node) := do
  let around : Surroundings :=
    ⟨tokens.settled, tokens.fault.getD .arrangement, Assembly.standardHandles, []⟩
  let (found, _) ← (Assembly.onlyDocument (3 * tokens.settled.length + 8)).run around
  return found

end FilterQuery.Yaml
