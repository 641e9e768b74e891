import TemplateDocs.Template.Basic

/-!
# Merging source and compiled template

Modules and resources come from the source alone. The compiled template decides which variables
there are; the source describes them.
-/

namespace TemplateDocs

/-- The description of the last found variable of a name. -/
def describedAs? (name : String) (found : List Variable) : Option String :=
  (found.reverse.find? fun v => v.name == name).map Variable.description

/-- A variable with the description that the source gives it. -/
def describe (found : List Variable) (v : Variable) : Variable :=
  { v with description := (describedAs? v.name found).getD v.description }

/-- A template with what was found in its source. Without variables of its own it takes those found. -/
def Template.merge (t : Template) (found : Findings) : Template :=
  let vars :=
    if t.vars.isEmpty then found.vars else t.vars.map (describe found.vars)
  { t with modules := found.modules, resources := found.resources, vars }.sort

end TemplateDocs
