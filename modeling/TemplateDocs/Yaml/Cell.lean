import TemplateDocs.Text.Base64
import TemplateDocs.Text.LowerCase
import TemplateDocs.Value.Basic
import TemplateDocs.Yaml.Node
import TemplateDocs.Yaml.Number

/-!
# Cells

Every node of a document that is needed gets a cell: a finished value, or a collection of the places
of its members. Collections are made empty and filled later, in the order in which they were met, so
that one may hold itself. Mappings that are marked for it are merged into the one around them before
that is filled, and its own entries win.
-/

namespace TemplateDocs.Yaml

/-- What a node stands for. Members are places. -/
inductive Cell where
  | plain (value : Value)
  | list (items : List Nat)
  | tuple (items : List Nat)
  | set (members : List Key)
  | dict (entries : List (Key × Nat))
  deriving Inhabited

/-- A document while its cells are made. -/
structure Desk where
  nodes : Array Node
  /-- The cells by place. Cells beyond the nodes belong to pairs. -/
  cells : Array (Option Cell)
  /-- The collections that are to be filled, the last one first. -/
  waiting : List Nat := []

/-- A step of making cells. -/
abbrev Making := StateT Desk (Except ReadError)

namespace Making

/-! ## Places -/

/-- The node at a place. -/
def nodeAt (place : Nat) : Making Node := do
  match (← get).nodes[place]? with
  | some node => return node
  | none => throw .malformed

/-- Replaces the node at a place. -/
def setNode (place : Nat) (node : Node) : Making Unit :=
  modify fun s => { s with nodes := s.nodes.setIfInBounds place node }

/-- The entries of the mapping at a place. -/
def entriesAt (place : Nat) : Making (Array (Nat × Nat)) := do
  match ← nodeAt place with
  | .mapping _ entries => return entries
  | _ => throw .malformed

/-- The items of the sequence at a place. -/
def itemsAt (place : Nat) : Making (List Nat) := do
  match ← nodeAt place with
  | .sequence _ items => return items.toList
  | _ => throw .malformed

/-- Puts a cell at a place. -/
def setCell (place : Nat) (cell : Cell) : Making Unit :=
  modify fun s => { s with cells := s.cells.setIfInBounds place (some cell) }

/-- Puts a cell at a new place. -/
def addCell (cell : Cell) : Making Nat := do
  let s ← get
  set { s with cells := s.cells.push (some cell) }
  return s.cells.size

/-! ## Scalars -/

/-- The text of a scalar. A mapping stands for its default value. -/
def scalarText : (fuel : Nat) → (place : Nat) → Making String
  | 0, _ => throw (.fault .tooDeep)
  | fuel + 1, place => do
    match ← nodeAt place with
    | .scalar _ text => return text
    | .sequence _ _ => throw .malformed
    | .mapping _ entries =>
      let nodes := (← get).nodes
      let isDefault (e : Nat × Nat) : Bool := (nodes[e.1]?).any fun n => n.kind == .default
      match entries.toList.find? isDefault with
      | some (_, value) => scalarText fuel value
      | none => throw .malformed

/-- The text of the scalar at a place. -/
def textAt (place : Nat) : Making String := do
  scalarText ((← get).nodes.size + 1) place

/-- A result that may fail for want of something that exists. -/
def ofFault {α : Type} (r : Except Fault α) : Making α :=
  match r with
  | .ok a => pure a
  | .error e => throw (.fault e)

/-- The truth value that a word stands for, in whatever case. -/
def boolValue (text : String) : Except Fault Bool :=
  let word := Text.lower text
  if yesWords.contains word then .ok true
  else if noWords.contains word then .ok false
  else .error .noSuchKey

/-- The date or the moment that a text stands for. -/
def timeValue (text : String) : Except Fault Value :=
  let cs := text.toList
  match Stamp.ofText? (if cs.getLast? == some '\n' then cs.dropLast else cs) with
  | none => .error .noSuchPart
  | some stamp =>
    match stamp.time with
    | none => if stamp.date.isReal then .ok (.date stamp.date) else .error .wrongValue
    | some time =>
      let moment := time.on stamp.date
      if moment.isReal then .ok (.moment moment) else .error .wrongValue

/-- The bytes that a text stands for. -/
def bytesValue (text : String) : Except ReadError Value :=
  let cs := text.toList
  if cs.all fun c => c.toNat < 0x80 then
    match Text.ofBase64? cs with
    | some content => .ok (.bytes content)
    | none => .error .malformed
  else .error .malformed

/-- The value of a scalar of a kind. Only the node itself can be a date, not its default value. -/
def scalarValue (kind : Kind) (place : Nat) : Making Value := do
  let text ← textAt place
  match kind with
  | .null => return .null
  | .bool => return .bool (← ofFault (boolValue text))
  | .int => return .int (← ofFault (intValue text))
  | .float => return .float (← ofFault (doubleValue text))
  | .timestamp =>
    match ← nodeAt place with
    | .scalar _ own => ofFault (timeValue own)
    | _ => throw (.fault .wrongKind)
  | .binary => bytesValue text
  | .text => return .text text
  | _ => throw .malformed

/-! ## Making -/

/-- Makes the cell at a place, if there is none yet. A collection waits to be filled. -/
def make (place : Nat) : Making Unit := do
  let wait (cell : Cell) : Making Unit := do
    setCell place cell
    modify fun s => { s with waiting := place :: s.waiting }
  if (((← get).cells[place]?).join).isSome then return
  match (← nodeAt place).kind with
  | .sequence | .pairs => wait (.list [])
  | .mapping => wait (.dict [])
  | .set => wait (.set [])
  | .merge | .default | .other => throw .malformed
  | kind => setCell place (.plain (← scalarValue kind place))

/-- The key that the cell at a place can be. Collections that can be changed are no keys. -/
def keyAt (place : Nat) : Making Key := do
  match ((← get).cells[place]?).join with
  | some (.plain value) =>
    match value with
    | .null => return .null
    | .bool b => return .bool b
    | .int n => return .int n
    | .float .notANumber =>
      let text ← textAt place
      return .notANumber (if isNotANumberWord text then 0 else place + 1)
    | .float x => return .float x
    | .text s => return .text s
    | .bytes content => return .bytes content
    | .date d => return .date d
    | .moment m => return .moment m
    | _ => throw .malformed
  | _ => throw .malformed

/-! ## Merging -/

mutual

/-- Merges what is marked for it into the mapping at a place, from the entry at `index` on. Entries
are taken out of the mapping before they are looked into, so that it may be merged into itself. -/
def flattenFrom : (fuel : Nat) → (place index : Nat) → (merged : Array (Nat × Nat)) → Making Unit
  | 0, _, _, _ => throw (.fault .tooDeep)
  | fuel + 1, place, index, merged => do
    match ← nodeAt place with
    | .mapping kind entries =>
      match entries[index]? with
      | none => setNode place (.mapping kind (merged ++ entries))
      | some (key, value) =>
        match ← nodeAt key with
        | .scalar .default text =>
          setNode key (.scalar .text text)
          flattenFrom fuel place (index + 1) merged
        | .sequence .default items =>
          setNode key (.sequence .text items)
          flattenFrom fuel place (index + 1) merged
        | .mapping .default items =>
          setNode key (.mapping .text items)
          flattenFrom fuel place (index + 1) merged
        | node =>
          if node.kind == .merge then
            setNode place (.mapping kind (entries.eraseIdxIfInBounds index))
            let more ← mergedEntries fuel value
            flattenFrom fuel place index (merged ++ more)
          else flattenFrom fuel place (index + 1) merged
    | _ => throw .malformed

/-- The entries that are merged from a mapping, or from a sequence of mappings of which the first
wins. -/
def mergedEntries : (fuel : Nat) → (place : Nat) → Making (Array (Nat × Nat))
  | 0, _ => throw (.fault .tooDeep)
  | fuel + 1, place => do
    match ← nodeAt place with
    | .mapping _ _ =>
      flattenFrom fuel place 0 #[]
      entriesAt place
    | .sequence _ items => mergedItems fuel items.toList #[]
    | .scalar _ _ => throw .malformed

/-- The entries of mappings, those of later ones first. -/
def mergedItems : (fuel : Nat) → (places : List Nat) → (after : Array (Nat × Nat)) →
    Making (Array (Nat × Nat))
  | 0, _, _ => throw (.fault .tooDeep)
  | _, [], after => return after
  | fuel + 1, place :: places, after => do
    flattenFrom fuel place 0 #[]
    let own ← entriesAt place
    mergedItems fuel places (own ++ after)

end

/-- The steps that merging may take. -/
def mergeSteps : Nat := 1000000

/-! ## Filling -/

/-- Makes the keys and the values of entries one after the other; a later value of a key replaces an
earlier one in its place. -/
def fillEntries (made : List (Key × Nat)) : List (Nat × Nat) → Making (List (Key × Nat))
  | [] => return made
  | (keyPlace, valuePlace) :: entries => do
    make keyPlace
    let key ← keyAt keyPlace
    make valuePlace
    fillEntries (key.set valuePlace made) entries

/-- Makes the members of the mapping at a place. -/
def fillMapping (place : Nat) : Making (List (Key × Nat)) := do
  match ← nodeAt place with
  | .mapping _ _ =>
    flattenFrom mergeSteps place 0 #[]
    fillEntries [] (← entriesAt place).toList
  | _ => throw .malformed

/-- Makes a pair of the only entry of the mapping at a place. -/
def fillPair (place : Nat) : Making Nat := do
  match (← entriesAt place).toList with
  | [(key, value)] =>
    make key
    make value
    addCell (.tuple [key, value])
  | _ => throw .malformed

/-- Fills the collection at a place. -/
def fill (place : Nat) : Making Unit := do
  match (← nodeAt place).kind with
  | .sequence =>
    let items ← itemsAt place
    items.forM make
    setCell place (.list items)
  | .pairs => setCell place (.list (← (← itemsAt place).mapM fillPair))
  | .set => setCell place (.set ((← fillMapping place).map Prod.fst))
  | _ => setCell place (.dict (← fillMapping place))

/-- Fills collections round by round: first all that wait, then those that began to wait meanwhile. -/
def fillAll : (fuel : Nat) → Making Unit
  | 0 => return
  | fuel + 1 => do
    let round := (← get).waiting.reverse
    if round.isEmpty then return
    modify fun s => { s with waiting := [] }
    round.forM fill
    fillAll fuel

/-- Makes the cells of a document. -/
def document (root : Nat) : Making Unit := do
  make root
  fillAll ((← get).nodes.size + 1)

end Making

/-- The cells of a document with its content at a place. -/
def Graph.cells (g : Graph) (root : Nat) : Except ReadError (Array (Option Cell)) := do
  let start : Desk := { nodes := g.nodes, cells := Array.replicate g.nodes.size none }
  let (_, desk) ← (Making.document root).run start
  return desk.cells

end TemplateDocs.Yaml
