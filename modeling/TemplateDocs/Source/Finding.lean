import TemplateDocs.Value.Basic

/-!
# What a source file declares

The compiled template drops modules, resources and the descriptions of variables; they are found in
the source.
-/

namespace TemplateDocs

/-- A module that the source uses. -/
structure Module where
  name : String
  source : String
  description : String := ""
  deriving DecidableEq, Repr, Inhabited

/-- A resource that the source declares, its type without the version. -/
structure Resource where
  name : String
  type : String
  description : String := ""
  deriving DecidableEq, Repr, Inhabited

/-- A variable with the value that its declaration gives it. -/
structure Variable where
  name : String
  value : Value := .null
  description : String := ""
  deriving Repr, Inhabited, BEq

/-- All that was found in a source. -/
structure Findings where
  modules : List Module := []
  resources : List Resource := []
  vars : List Variable := []
  deriving Repr, Inhabited, BEq

/-- Modules and resources by name; variables stay as found. -/
def Findings.sorted (found : Findings) : Findings :=
  { found with
    modules := sortByName Module.name found.modules
    resources := sortByName Resource.name found.resources }

end TemplateDocs
