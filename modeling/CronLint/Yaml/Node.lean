import CronLint.Yaml.Tag
import CronLint.Yaml.Token.Basic

/-!
# Nodes

The tokens of a document form a tree of scalars, sequences and mappings. An alias stands for the
node that its anchor names, which comes before it. An anchored collection can contain an alias to
itself.
-/
namespace CronLint.Yaml

inductive Node where
  | scalar (tag : Tag) (text : List Char)
  | sequence (tag : Tag) (items : List Node)
  | mapping (tag : Tag) (entries : List (Node × Node))
  /-- An alias to a collection around it. -/
  | loop

/-- What is left of the tokens, and the nodes that anchors name; those of the collections around are
not finished yet. -/
structure NodeReader where
  tokens : List Token
  anchors : List (List Char × Option Node) := []
  handles : List (List Char × List Char)

abbrev NodeReading := StateT NodeReader (Except Fault)

namespace NodeReading

def fail : NodeReading α := throw .malformed

def next : NodeReading Token := do return ((← get).tokens.head?).getD .streamEnd

def advance : NodeReading Unit := modify fun r => { r with tokens := r.tokens.tail }

/-- The node that is not written. -/
def emptyNode : Node := .scalar .null []

def fullName (handle : Option (List Char)) (suffix : List Char) : NodeReading (List Char) := do
  match handle with
  | none => return suffix
  | some handle =>
    match (← get).handles.lookup handle with
    | some start => return start ++ suffix
    | none => fail

def anchor? : NodeReading (Option (List Char)) := do
  match ← next with
  | .anchor name =>
    advance
    return some name
  | _ => return none

def tag? : NodeReading (Option (List Char)) := do
  match ← next with
  | .tag handle suffix =>
    advance
    return some (← fullName handle suffix)
  | _ => return none

/-- An anchor and a tag in either order, of which each may be missing. -/
def properties : NodeReading (Option (List Char) × Option (List Char)) := do
  match ← anchor? with
  | some anchor => return (some anchor, ← tag?)
  | none =>
    let tag ← tag?
    if tag.isSome then return (← anchor?, tag) else return (none, none)

/-- The tag that leaves the choice to the form of the node. -/
def openTag : List Char := ['!']

def scalarTag (tag : Option (List Char)) (plain : Bool) (text : List Char) : Tag :=
  match tag with
  | none => if plain then Tag.ofPlain text else .text
  | some name => if name == openTag then Tag.ofPlain text else Tag.ofName name

def collectionTag (tag : Option (List Char)) (usual : Tag) : Tag :=
  match tag with
  | none => usual
  | some name => if name == openTag then usual else Tag.ofName name

def resolve (name : List Char) : NodeReading Node := do
  match (← get).anchors.lookup name with
  | some (some node) => return node
  | some none => return .loop
  | none => fail

def bind (anchor : Option (List Char)) (node : Option Node) : NodeReading Unit :=
  match anchor with
  | none => pure ()
  | some name => modify fun r => { r with anchors := (name, node) :: r.anchors }

def checkNew (anchor : Option (List Char)) : NodeReading Unit := do
  match anchor with
  | none => return
  | some name => if ((← get).anchors.lookup name).isSome then fail

def scalarNode (anchor tag : Option (List Char)) (text : List Char) (plain : Bool) :
    NodeReading Node := do
  let node := Node.scalar (scalarTag tag plain text) text
  bind anchor (some node)
  return node

/-- A node that is not written, though it may have properties. -/
def missingNode (anchor tag : Option (List Char)) : NodeReading Node :=
  if anchor.isSome || tag.isSome then scalarNode anchor tag [] true else fail

/-- A collection, which its own members may refer to. -/
def collection (anchor : Option (List Char)) (make : α → Node) (members : NodeReading α) :
    NodeReading Node := do
  bind anchor none
  let node := make (← members)
  bind anchor (some node)
  return node

def nodeUnless (stops : List Token) (read : NodeReading Node) : NodeReading Node := do
  if stops.contains (← next) then return emptyNode else read

/-- Reads the value of an entry, which a colon announces. -/
def valueUnless (stops : List Token) (read : NodeReading Node) : NodeReading Node := do
  if (← next) == .value then
    advance
    nodeUnless stops read
  else return emptyNode

/-- Skips the comma before any member of a flow collection but the first. -/
def skipComma (first : Bool) : NodeReading Unit := do
  if !first then
    if (← next) == .flowEntry then advance else fail

mutual

/-- Reads a node. Blocks are allowed outside of flow collections only, and a sequence without
indentation of its own only as a member of a block mapping. The number bounds the depth of the
reading. -/
def node (block unindented : Bool) : Nat → NodeReading Node
  | 0 => fail
  | fuel + 1 => do
    if let .alias name ← next then
      advance
      return ← resolve name
    let (anchor, tag) ← properties
    checkNew anchor
    let sequence := collection anchor (.sequence (collectionTag tag .sequence))
    let mapping := collection anchor (.mapping (collectionTag tag .mapping))
    match ← next, block, unindented with
    | .scalar text plain, _, _ =>
      advance
      scalarNode anchor tag text plain
    | .flowSequenceStart, _, _ =>
      advance
      sequence (flowItems true fuel)
    | .flowMappingStart, _, _ =>
      advance
      mapping (flowEntries true fuel)
    | .blockEntry, _, true => sequence (unindentedItems fuel)
    | .blockSequenceStart, true, _ =>
      advance
      sequence (blockItems fuel)
    | .blockMappingStart, true, _ =>
      advance
      mapping (blockEntries fuel)
    | _, _, _ => missingNode anchor tag

def blockItems : Nat → NodeReading (List Node)
  | 0 => fail
  | fuel + 1 => do
    match ← next with
    | .blockEntry =>
      advance
      let item ← nodeUnless [.blockEntry, .blockEnd] (node true false fuel)
      return item :: (← blockItems fuel)
    | .blockEnd =>
      advance
      return []
    | _ => fail

/-- Reads the items of a sequence that ends where no further item follows. -/
def unindentedItems : Nat → NodeReading (List Node)
  | 0 => fail
  | fuel + 1 => do
    match ← next with
    | .blockEntry =>
      advance
      let item ← nodeUnless [.blockEntry, .key, .value, .blockEnd] (node true false fuel)
      return item :: (← unindentedItems fuel)
    | _ => return []

def blockEntries : Nat → NodeReading (List (Node × Node))
  | 0 => fail
  | fuel + 1 => do
    match ← next with
    | .key =>
      advance
      let key ← nodeUnless [.key, .value, .blockEnd] (node true true fuel)
      let value ← valueUnless [.key, .value, .blockEnd] (node true true fuel)
      return (key, value) :: (← blockEntries fuel)
    | .blockEnd =>
      advance
      return []
    | _ => fail

/-- Reads the items of a flow sequence. An entry of a mapping may be an item of its own. -/
def flowItems (first : Bool) : Nat → NodeReading (List Node)
  | 0 => fail
  | fuel + 1 => do
    if (← next) != .flowSequenceEnd then skipComma first
    match ← next with
    | .flowSequenceEnd =>
      advance
      return []
    | .key =>
      advance
      let key ← nodeUnless [.value, .flowEntry, .flowSequenceEnd] (node false false fuel)
      let value ← valueUnless [.flowEntry, .flowSequenceEnd] (node false false fuel)
      return .mapping .mapping [(key, value)] :: (← flowItems false fuel)
    | _ =>
      let item ← node false false fuel
      return item :: (← flowItems false fuel)

/-- Reads the entries of a flow mapping. A key without a colon has no value. -/
def flowEntries (first : Bool) : Nat → NodeReading (List (Node × Node))
  | 0 => fail
  | fuel + 1 => do
    if (← next) != .flowMappingEnd then skipComma first
    match ← next with
    | .flowMappingEnd =>
      advance
      return []
    | .key =>
      advance
      let key ← nodeUnless [.value, .flowEntry, .flowMappingEnd] (node false false fuel)
      let value ← valueUnless [.flowEntry, .flowMappingEnd] (node false false fuel)
      return (key, value) :: (← flowEntries false fuel)
    | _ =>
      let key ← node false false fuel
      return (key, emptyNode) :: (← flowEntries false fuel)

end

def lacksNode (t : Token) : Bool :=
  match t with
  | .directive _ | .documentStart | .documentEnd | .streamEnd => true
  | _ => false

def usualHandles : List (List Char × List Char) := [(['!'], ['!']), (['!', '!'], Tag.standardStart)]

def directives : Nat → (versioned : Bool) → (handles : List (List Char × List Char)) →
    NodeReading (List (List Char × List Char))
  | 0, _, _ => fail
  | fuel + 1, versioned, handles => do
    match ← next with
    | .directive d =>
      advance
      match d with
      | .version major =>
        if versioned || major != 1 then fail else directives fuel true handles
      | .tagHandle handle start =>
        if (handles.lookup handle).isSome then fail
        else directives fuel versioned ((handle, start) :: handles)
      | .unknown => directives fuel versioned handles
    | _ => return handles

/-- Reads the one document that the tokens may hold, if there is one. -/
def document (fuel : Nat) : NodeReading (Option Node) := do
  let root ←
    match ← next with
    | .streamEnd => pure none
    | .directive _ | .documentStart =>
      let handles ← directives fuel false []
      modify fun r => { r with handles := handles ++ usualHandles }
      if (← next) != .documentStart then fail
      advance
      if lacksNode (← next) then pure (some emptyNode) else some <$> node true false fuel
    | _ => some <$> node true false fuel
  modify fun r => { r with tokens := r.tokens.dropWhile (· == .documentEnd) }
  if (← next) == .streamEnd then return root else fail

end NodeReading

/-- The root of the document that the tokens make up, if they hold one. -/
def Node.ofTokens? (tokens : List Token) : Except Fault (Option Node) := do
  let fuel := 2 * tokens.length + 3
  let (root, _) ← (NodeReading.document fuel).run { tokens, handles := NodeReading.usualHandles }
  return root

end CronLint.Yaml
