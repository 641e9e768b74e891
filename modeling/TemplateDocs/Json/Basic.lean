import TemplateDocs.Entries
import TemplateDocs.Number.Double

/-!
# JSON documents

An object is the list of its entries in order of first appearance, and a key stands in it once.
-/

namespace TemplateDocs

/-- A JSON document. -/
inductive Json where
  | null
  | bool (value : Bool)
  | int (value : Int)
  | float (value : Double)
  | text (value : String)
  | array (items : List Json)
  | object (entries : List (String × Json))
  deriving Repr, Inhabited, BEq

/-- How many calls may stand inside of each other while a value is read, shown or written. What stands
deeper ends in a fault. A run has made a few calls before it comes to a value: this is what those leave of
a thousand. -/
def callLimit : Nat := 985

namespace Json

/-- The name of a document's kind in messages. -/
def kindName : Json → String
  | null => "NoneType"
  | bool _ => "bool"
  | int _ => "int"
  | float _ => "float"
  | text _ => "str"
  | array _ => "list"
  | object _ => "dict"

/-- The entries of an object. -/
def entries? : Json → Option (List (String × Json))
  | object entries => some entries
  | _ => none

/-- The items of an array. -/
def items? : Json → Option (List Json)
  | array items => some items
  | _ => none

/-- The text of a text document. -/
def text? : Json → Option String
  | text value => some value
  | _ => none

/-- The value under a key of an object. -/
def get? (doc : Json) (key : String) : Option Json :=
  doc.entries?.bind (entryOf? key)

/-- The value under a key of an object, null when there is none. -/
def get (doc : Json) (key : String) : Json :=
  (doc.get? key).getD null

/-- Null, false, zero and everything empty count as no. -/
def truthy : Json → Bool
  | null => false
  | bool value => value
  | int value => value != 0
  | float value => !value.isZero
  | text value => value != ""
  | array items => !items.isEmpty
  | object entries => !entries.isEmpty

end Json

end TemplateDocs
