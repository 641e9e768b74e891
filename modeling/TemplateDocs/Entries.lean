import TemplateDocs.Text.Order

/-!
# Entries and their order

Entries are pairs of a key and a value. Lists of them stand for objects, mappings and folders.
-/

namespace TemplateDocs

/-- The value under a key in a list of entries. -/
def entryOf? {α : Type} (key : String) (entries : List (String × α)) : Option α :=
  entries.lookup key

/-- Entries with `value` under `key`; a key that is there already keeps its place. -/
def setEntry {α : Type} (key : String) (value : α) : List (String × α) → List (String × α)
  | [] => [(key, value)]
  | (k, v) :: rest => if k == key then (k, value) :: rest else (k, v) :: setEntry key value rest

/-- Entries in which a later value of a key replaces an earlier one in its place. -/
def lastEntries {α : Type} (entries : List (String × α)) : List (String × α) :=
  entries.foldl (fun kept e => setEntry e.1 e.2 kept) []

/-- Items in the order of their names by code points; items of one name keep their order. -/
def sortByName {α : Type} (name : α → String) (items : List α) : List α :=
  items.mergeSort fun a b => Text.inOrder (name a) (name b)

end TemplateDocs
