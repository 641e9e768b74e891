import TemplateDocs.Entries
import TemplateDocs.Yaml.Kind
import TemplateDocs.Yaml.Token

/-!
# Documents

Tokens make up a graph of nodes. A node has a place in the order of its beginning, and a collection
names its members by their places, so that an alias is nothing but one more mention of a place, even
inside of the collection that it names.
-/

namespace TemplateDocs.Yaml

/-- A scalar or a collection with its kind. Members are places. -/
inductive Node where
  | scalar (kind : Kind) (text : String)
  | sequence (kind : Kind) (items : Array Nat)
  | mapping (kind : Kind) (entries : Array (Nat × Nat))
  deriving DecidableEq, Repr, Inhabited

/-- The kind of a node. -/
def Node.kind : Node → Kind
  | scalar kind _ => kind
  | sequence kind _ => kind
  | mapping kind _ => kind

/-- The nodes of a document. -/
structure Graph where
  nodes : Array Node := #[]
  /-- Whether some collection is mentioned inside of itself. -/
  knotted : Bool := false
  deriving Inhabited

/-- The handles that every document has. -/
def coreHandles : List (String × String) :=
  [("!", "!"), ("!!", coreTags)]

/-! ## Composition -/

/-- The tokens still to come, and the document so far. -/
structure Feed where
  cutting : Cutting
  graph : Graph := {}
  anchors : List (String × Nat) := []
  /-- The collections that are not closed yet. -/
  openPlaces : List Nat := []
  handles : List (String × String) := coreHandles

/-- A step of the composition. -/
abbrev Composing := StateT Feed (Except ReadError)

namespace Composing

/-! ### Tokens -/

/-- The next token, which stays. -/
def peek : Composing Token := do
  let s ← get
  let (token, cutting) ← s.cutting.peek
  set { s with cutting }
  return token

/-- Passes over the next token. -/
def advance : Composing Unit :=
  modify fun s => { s with cutting := s.cutting.advance }

/-- Passes over the next token if it is the given one. -/
def accept (token : Token) : Composing Bool := do
  if (← peek) == token then
    advance
    return true
  else return false

/-- Passes over the next token, which has to be the given one. -/
def expect (token : Token) : Composing Unit := do
  if !(← accept token) then throw .malformed

/-- Whether the next token is one of some. -/
def nextIs (tokens : List Token) : Composing Bool := do
  return tokens.contains (← peek)

/-! ### Nodes -/

/-- Adds a node, and its place under its anchor. -/
def add (anchor : Option String) (node : Node) : Composing Nat := do
  let s ← get
  let place := s.graph.nodes.size
  let anchors := match anchor with
    | some name => (name, place) :: s.anchors
    | none => s.anchors
  set { s with graph := { s.graph with nodes := s.graph.nodes.push node }, anchors }
  return place

/-- Adds the node that stands where nothing is written. -/
def addEmpty : Composing Nat :=
  add none (.scalar .null "")

/-- Changes the node at a place. -/
def update (place : Nat) (f : Node → Node) : Composing Unit :=
  modify fun s => { s with graph := { s.graph with nodes := s.graph.nodes.modify place f } }

/-- Adds an item to the sequence at a place. -/
def addItem (place item : Nat) : Composing Unit :=
  update place fun
    | .sequence kind items => .sequence kind (items.push item)
    | node => node

/-- Adds an entry to the mapping at a place. -/
def addEntry (place key value : Nat) : Composing Unit :=
  update place fun
    | .mapping kind entries => .mapping kind (entries.push (key, value))
    | node => node

/-- Adds a collection, and with `fill` all that it holds. It is open while it is filled. -/
def addOpen (anchor : Option String) (node : Node) (fill : Nat → Composing Unit) : Composing Nat := do
  let place ← add anchor node
  let outer := (← get).openPlaces
  modify fun s => { s with openPlaces := place :: outer }
  fill place
  modify fun s => { s with openPlaces := outer }
  return place

/-- The place that an alias names. -/
def aliased (name : String) : Composing Nat := do
  let s ← get
  match entryOf? name s.anchors with
  | none => throw .malformed
  | some place =>
    let knotted := s.graph.knotted || s.openPlaces.contains place
    set { s with graph := { s.graph with knotted } }
    return place

/-! ### Properties -/

/-- The full text of a tag. -/
def resolveTag (handle : Option String) (rest : String) : Composing String := do
  match handle with
  | none => return rest
  | some handle =>
    match entryOf? handle (← get).handles with
    | some start => return start ++ rest
    | none => throw .malformed

/-- The anchor at the next token, if there is one. -/
def anchor? : Composing (Option String) := do
  match ← peek with
  | .anchor name =>
    advance
    return some name
  | _ => return none

/-- The handle and the rest of the tag at the next token, if there is one. -/
def tag? : Composing (Option (Option String × String)) := do
  match ← peek with
  | .tag handle rest =>
    advance
    return some (handle, rest)
  | _ => return none

/-- The anchor and the tag of a node, in either order. -/
def properties : Composing (Option String × Option String) := do
  let first ← anchor?
  let tag ← tag?
  let anchor ← if first.isNone && tag.isSome then anchor? else pure first
  match tag with
  | none => return (anchor, none)
  | some (handle, rest) => return (anchor, some (← resolveTag handle rest))

/-! ### Collections -/

/-- How many collections may stand inside of each other. -/
def depthLimit : Nat := 488

mutual

/-- A node, with room for collections inside of it. Blocks can stand only inside of blocks; a sequence
that is no further in than the mapping around it can stand only as its key or value. -/
def node : (fuel : Nat) → (room : Nat) → (block indentless : Bool) → Composing Nat
  | 0, _, _, _ => throw .malformed
  | _, 0, _, _ => throw (.fault .tooDeep)
  | fuel + 1, room + 1, block, indentless => do
    match ← peek with
    | .reference name =>
      advance
      aliased name
    | _ =>
      let (anchor, tag) ← properties
      content fuel room block indentless anchor tag

/-- What a node holds after its anchor and its tag. No two nodes have the same anchor. -/
def content : (fuel : Nat) → (room : Nat) → (block indentless : Bool) →
    (anchor tag : Option String) → Composing Nat
  | 0, _, _, _, _, _ => throw .malformed
  | fuel + 1, room, block, indentless, anchor, tag => do
    let next ← peek
    let known := (← get).anchors
    if anchor.any fun name => (entryOf? name known).isSome then throw .malformed
    let sequence : Node := .sequence (collectionKind tag .sequence) #[]
    let mapping : Node := .mapping (collectionKind tag .mapping) #[]
    match next, block, indentless with
    | .blockEntry, _, true => addOpen anchor sequence fun place => indentlessItems fuel room place
    | .scalar text plain, _, _ =>
      advance
      add anchor (.scalar (scalarKind tag plain text) text)
    | .flowSequence, _, _ =>
      advance
      addOpen anchor sequence fun place => flowItems fuel room place true
    | .flowMapping, _, _ =>
      advance
      addOpen anchor mapping fun place => flowEntries fuel room place true
    | .blockSequence, true, _ =>
      advance
      addOpen anchor sequence fun place => blockItems fuel room place
    | .blockMapping, true, _ =>
      advance
      addOpen anchor mapping fun place => blockEntries fuel room place
    | _, _, _ =>
      if anchor.isSome || tag.isSome then add anchor (.scalar (scalarKind tag true "") "")
      else throw .malformed

/-- A node, or an empty one before any of some tokens. -/
def nodeUnless : (fuel : Nat) → (room : Nat) → (stops : List Token) → (block indentless : Bool) →
    Composing Nat
  | 0, _, _, _, _ => throw .malformed
  | fuel + 1, room, stops, block, indentless => do
    if ← nextIs stops then addEmpty else node fuel room block indentless

/-- Adds the items of a block to the sequence at a place. -/
def blockItems : (fuel : Nat) → (room : Nat) → (place : Nat) → Composing Unit
  | 0, _, _ => throw .malformed
  | fuel + 1, room, place => do
    if ← accept .blockEntry then
      addItem place (← nodeUnless fuel room [.blockEntry, .blockEnd] true false)
      blockItems fuel room place
    else expect .blockEnd

/-- Adds the items of a sequence that is no further in than the mapping around it. -/
def indentlessItems : (fuel : Nat) → (room : Nat) → (place : Nat) → Composing Unit
  | 0, _, _ => throw .malformed
  | fuel + 1, room, place => do
    if ← accept .blockEntry then
      addItem place (← nodeUnless fuel room [.blockEntry, .key, .value, .blockEnd] true false)
      indentlessItems fuel room place

/-- Adds the entries of a block to the mapping at a place. -/
def blockEntries : (fuel : Nat) → (room : Nat) → (place : Nat) → Composing Unit
  | 0, _, _ => throw .malformed
  | fuel + 1, room, place => do
    if ← accept .key then
      let key ← nodeUnless fuel room [.key, .value, .blockEnd] true true
      let value ←
        if ← accept .value then nodeUnless fuel room [.key, .value, .blockEnd] true true
        else addEmpty
      addEntry place key value
      blockEntries fuel room place
    else expect .blockEnd

/-- Adds a key and its value inside of a collection that is written on one line. -/
def flowPair : (fuel : Nat) → (room : Nat) → (place : Nat) → (closing : Token) → Composing Unit
  | 0, _, _, _ => throw .malformed
  | fuel + 1, room, place, closing => do
    let key ← nodeUnless fuel room [.value, .flowEntry, closing] false false
    let value ←
      if ← accept .value then nodeUnless fuel room [.flowEntry, closing] false false
      else addEmpty
    addEntry place key value

/-- A pair inside of a sequence that is written on one line: a mapping of its own. -/
def pairNode : (fuel : Nat) → (room : Nat) → Composing Nat
  | 0, _ => throw .malformed
  | _, 0 => throw (.fault .tooDeep)
  | fuel + 1, room + 1 => do
    advance
    addOpen none (.mapping .mapping #[]) fun place => flowPair fuel room place .flowSequenceEnd

/-- Adds the items of a sequence that is written on one line. -/
def flowItems : (fuel : Nat) → (room : Nat) → (place : Nat) → (first : Bool) → Composing Unit
  | 0, _, _, _ => throw .malformed
  | fuel + 1, room, place, first => do
    if ← accept .flowSequenceEnd then return
    if !first then expect .flowEntry
    if ← accept .flowSequenceEnd then return
    let item ← if (← peek) == .key then pairNode fuel room else node fuel room false false
    addItem place item
    flowItems fuel room place false

/-- Adds the entries of a mapping that is written on one line. -/
def flowEntries : (fuel : Nat) → (room : Nat) → (place : Nat) → (first : Bool) → Composing Unit
  | 0, _, _, _ => throw .malformed
  | fuel + 1, room, place, first => do
    if ← accept .flowMappingEnd then return
    if !first then expect .flowEntry
    if ← accept .flowMappingEnd then return
    if ← accept .key then flowPair fuel room place .flowMappingEnd
    else
      let key ← node fuel room false false
      addEntry place key (← addEmpty)
    flowEntries fuel room place false

end

/-! ### Documents -/

/-- The handles that directives define. A version is given at most once. -/
def directives : (fuel : Nat) → (seen : Bool) → (handles : List (String × String)) →
    Composing (List (String × String))
  | 0, _, handles => return handles
  | fuel + 1, seen, handles => do
    match ← peek with
    | .version major =>
      if seen || major != 1 then throw .malformed
      advance
      directives fuel true handles
    | .tagHandle handle start =>
      if (entryOf? handle handles).isSome then throw .malformed
      advance
      directives fuel seen (handles ++ [(handle, start)])
    | .otherDirective =>
      advance
      directives fuel seen handles
    | _ => return handles

/-- Whether the next token is a directive. -/
def atDirective : Composing Bool := do
  match ← peek with
  | .version _ | .tagHandle _ _ | .otherDirective => return true
  | _ => return false

/-- Passes over the marks that end a document; nothing but directives may be read after them. -/
def finish : (fuel : Nat) → Composing Unit
  | 0 => return
  | fuel + 1 => do
    if ← accept .documentEnd then finish fuel
    else if (← peek) != .streamEnd then
      let _ ← directives fuel false []
      throw .malformed

/-- The place of the content of the only document; none if there is nothing in the text. -/
def document (fuel : Nat) : Composing (Option Nat) := do
  if (← peek) == .streamEnd then return none
  let explicit := (← atDirective) || (← peek) == .documentStart
  if explicit then
    let handles ← directives fuel false []
    modify fun s => { s with handles := handles ++ coreHandles }
    expect .documentStart
  let blank := explicit &&
    ((← atDirective) || (← nextIs [.documentStart, .documentEnd, .streamEnd]))
  let root ← if blank then addEmpty else node fuel depthLimit true false
  finish fuel
  return some root

end Composing

/-- The nodes of a text and the place of its content; none if there is nothing in the text. -/
def Graph.ofSource (source : Source) : Except ReadError (Option (Graph × Nat)) := do
  let fuel := 8 * source.chars.length + 64
  let (root, feed) ← (Composing.document fuel).run { cutting := .ofSource source }
  return root.map fun place => (feed.graph, place)

end TemplateDocs.Yaml
