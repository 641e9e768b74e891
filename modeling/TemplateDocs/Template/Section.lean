import TemplateDocs.Failure
import TemplateDocs.Text.Blank
import TemplateDocs.Text.LowerCase

/-!
# Sections of a page
-/

namespace TemplateDocs

/-- A section that a page can have. -/
inductive Section where
  | description
  | usage
  | modules
  | resources
  | parameters
  | dataTypes
  | functions
  | vars
  | outputs
  deriving DecidableEq, Repr, Inhabited

namespace Section

/-- All sections in the order in which a page has them. -/
def all : List Section :=
  [description, usage, modules, resources, parameters, dataTypes, functions, vars, outputs]

/-- The word for a section in settings and options. -/
def identifier : Section → String
  | description => "description"
  | usage => "usage"
  | modules => "modules"
  | resources => "resources"
  | parameters => "parameters"
  | dataTypes => "udt"
  | functions => "udf"
  | vars => "variables"
  | outputs => "outputs"

/-- The name of a section itself, as messages show it. -/
def constant : Section → String
  | description => "DESCRIPTION"
  | usage => "USAGE"
  | modules => "MODULES"
  | resources => "RESOURCES"
  | parameters => "PARAMETERS"
  | dataTypes => "USER_DEFINED_DATA_TYPES"
  | functions => "USER_DEFINED_FUNCTIONS"
  | vars => "VARIABLES"
  | outputs => "OUTPUTS"

/-- The section that a word names; case and blanks around it do not matter. -/
def ofString? (word : String) : Option Section :=
  let normal := Text.lower (Text.strip word)
  all.find? fun s => s.identifier == normal

/-- The wording for a word that names no section. -/
def unknownMessage (word : String) : String :=
  "invalid section: \"" ++ word ++ "\""

/-- The section that a word names, or a report about it. -/
def ofString (word : String) : Except Report Section :=
  match ofString? word with
  | some s => .ok s
  | none => .error { category := .input, message := unknownMessage word }

/-- The sections that words name; the first unknown word is reported. -/
def ofStrings (words : List String) : Except Report (List Section) :=
  words.mapM ofString

end Section

end TemplateDocs
