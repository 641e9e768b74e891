import TemplateDocs.Text.Search

/-!
# Type references

A type is named plainly or refers to a definition of the same document.
-/

namespace TemplateDocs

/-- A type as the compiled template writes it. -/
inductive TypeRef where
  | plain (name : String)
  | reference (path : String)
  deriving DecidableEq, Repr, Inhabited

namespace TypeRef

/-- The type of what has no type. -/
def any : TypeRef :=
  plain "any"

/-- The start of every path to a definition. -/
def definitionsPath : String := "#/definitions/"

/-- A raw type: a path to a definition is a reference. -/
def ofString (raw : String) : TypeRef :=
  if (Text.dropStart? definitionsPath.toList raw.toList).isSome then reference raw else plain raw

/-- The type as the compiled template writes it. -/
def raw : TypeRef → String
  | plain name => name
  | reference path => path

/-- The characters after the last slash. -/
def afterLastSlash (cs : List Char) : List Char :=
  (cs.reverse.takeWhile (· != '/')).reverse

/-- The type's name, without the path to it. -/
def name : TypeRef → String
  | plain name => name
  | reference path => String.ofList (afterLastSlash path.toList)

end TypeRef

end TemplateDocs
