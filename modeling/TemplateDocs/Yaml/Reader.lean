import TemplateDocs.Value.Display
import TemplateDocs.Yaml.Cell

/-!
# Reading YAML

The value that a text holds. What is mentioned several times is the same value everywhere; a
collection that contains itself has no end as a value, and is kept as its text and those of its
members.
-/

namespace TemplateDocs.Yaml

/-- The cells of a document by place. -/
abbrev Cells := Array (Option Cell)

namespace Cells

/-- The cell at a place. -/
def at? (cells : Cells) (place : Nat) : Option Cell :=
  (cells[place]?).join

/-- The places that a cell mentions. -/
def members : Cell → List Nat
  | .plain _ => []
  | .list items => items
  | .tuple items => items
  | .set _ => []
  | .dict entries => entries.map Prod.snd

/-- The places that the cell at a place mentions. -/
def membersAt (cells : Cells) (place : Nat) : List Nat :=
  ((cells.at? place).map members).getD []

/-! ## Collections that contain themselves -/

/-- The places that can be reached from some, and those that were found before. -/
def reach (cells : Cells) : (fuel : Nat) → (found next : List Nat) → List Nat
  | 0, found, _ => found
  | _, found, [] => found
  | fuel + 1, found, place :: next =>
    if found.contains place then reach cells fuel found next
    else reach cells fuel (place :: found) (cells.membersAt place ++ next)

/-- Whether the collection at a place contains itself. -/
def isRing (cells : Cells) (place : Nat) : Bool :=
  let mentions := cells.foldl (fun n c => n + ((c.map members).getD []).length) 0
  (cells.reach (cells.size + mentions + 1) [] (cells.membersAt place)).contains place

/-- The text of a place inside of the collections `within`. A collection inside of itself is only
hinted at. -/
def shownAt (cells : Cells) : (fuel : Nat) → (within : List Nat) → (place : Nat) →
    Except Fault String
  | 0, _, _ => .error .tooDeep
  | fuel + 1, within, place =>
    let parts (items : List Nat) : Except Fault (List String) :=
      items.mapM fun item => shownAt cells fuel (place :: within) item
    let again := within.contains place
    match cells.at? place with
    | none => .error .tooDeep
    | some (.plain value) => value.shown callLimit
    | some (.set members) => (Value.set members).shown callLimit
    | some (.list items) => if again then .ok (showList ["..."]) else (parts items).map showList
    | some (.tuple items) => if again then .ok "(...)" else (parts items).map showTuple
    | some (.dict entries) =>
      if again then .ok (showBraces ["..."])
      else do
        let names ← entries.mapM fun e => e.1.shown
        let values ← parts (entries.map Prod.snd)
        return showBraces (List.zipWith (fun name value => name ++ ": " ++ value) names values)

/-- The text of a place that is shown alone. -/
def displayAt (cells : Cells) (place : Nat) : Except Fault String :=
  match cells.at? place with
  | some (.plain value) => value.display
  | _ => cells.shownAt (cells.size + 1) [] place

/-- The collection at a place that contains itself. -/
def ringAt (cells : Cells) (place : Nat) : Value :=
  let shown := cells.displayAt place
  match cells.at? place with
  | some (.dict entries) => .ring false shown (entries.map fun e => e.1.display)
  | some (.list items) => .ring true shown (items.map cells.displayAt)
  | _ => .ring false shown ((cells.membersAt place).map cells.displayAt)

/-! ## Values -/

/-- The values that were found so far by place. -/
abbrev Finding := StateM (Array (Option Value))

/-- The value at a place, found only once. -/
def valueAt (cells : Cells) (knotted : Bool) : (fuel : Nat) → (place : Nat) → Finding Value
  | 0, _ => return .null
  | fuel + 1, place => do
    match ((← get)[place]?).join with
    | some value => return value
    | none =>
      let value ←
        if knotted && cells.isRing place then pure (cells.ringAt place)
        else
          match cells.at? place with
          | none => pure .null
          | some (.plain value) => pure value
          | some (.set members) => pure (.set members)
          | some (.list items) => .list <$> items.mapM fun item => valueAt cells knotted fuel item
          | some (.tuple items) => .tuple <$> items.mapM fun item => valueAt cells knotted fuel item
          | some (.dict entries) =>
            .dict <$> entries.mapM fun e => do return (e.1, ← valueAt cells knotted fuel e.2)
      modify fun found => found.setIfInBounds place (some value)
      return value

/-- The value of a whole document. A mapping is one even if it contains itself. -/
def value (cells : Cells) (knotted : Bool) (root : Nat) : Value :=
  let found (v : Finding Value) : Value := (v.run (Array.replicate cells.size none)).1
  match cells.at? root with
  | some (.dict entries) =>
    found do
      let values ← entries.mapM fun e => do
        return (e.1, ← cells.valueAt knotted (cells.size + 1) e.2)
      return .dict values
  | _ => found (cells.valueAt knotted (cells.size + 1) root)

end Cells

/-- The value that a text holds; a text with nothing in it holds null. -/
def read (source : Source) : Except ReadError Value := do
  match ← Graph.ofSource source with
  | none => return .null
  | some (graph, root) =>
    let cells : Cells ← graph.cells root
    return cells.value graph.knotted root

end TemplateDocs.Yaml
