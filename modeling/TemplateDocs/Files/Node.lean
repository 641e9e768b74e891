import TemplateDocs.Entries

/-!
# Files and folders

A place is a list of names that leads down from a file or folder.
-/

namespace TemplateDocs

/-- A file with its bytes, or a folder with its entries. -/
inductive Node where
  | file (bytes : ByteArray)
  | folder (entries : List (String × Node))
  deriving Inhabited, BEq

namespace Node

/-- The empty folder. -/
def empty : Node :=
  folder []

/-- Whether a node is a file. -/
def isFile : Node → Bool
  | file _ => true
  | folder _ => false

/-- What stands at a place. -/
def at? (n : Node) : (place : List String) → Option Node
  | [] => some n
  | name :: place =>
    match n with
    | file _ => none
    | folder entries => (entryOf? name entries).bind fun child => child.at? place

/-- The node with another one at a place; missing folders on the way are made. -/
def plant (planted : Node) : (place : List String) → Node → Node
  | [], _ => planted
  | name :: place, n =>
    match n with
    | file bytes => file bytes
    | folder entries =>
      let child := (entryOf? name entries).getD empty
      folder (setEntry name (plant planted place child) entries)

end Node

end TemplateDocs
