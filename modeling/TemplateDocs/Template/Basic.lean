import TemplateDocs.Source.Finding
import TemplateDocs.Template.TypeRef

/-!
# Templates

All that is known about one template: what its source declares and what its compiled form defines.
-/

namespace TemplateDocs

/-! ## Parts -/

/-- The limits that decorators put on a value. -/
structure Constraints where
  allowedValues : Option (List Value) := none
  minLength : Option Int := none
  maxLength : Option Int := none
  minValue : Option Int := none
  maxValue : Option Int := none
  deriving Repr, Inhabited, BEq

/-- Name, description and export mark of a part or of the whole template. -/
structure Metadata where
  name : Option String := none
  description : Option String := none
  exportable : Option Bool := none
  deriving DecidableEq, Repr, Inhabited

/-- What everything that has a type is defined by. -/
structure Definition where
  type : TypeRef := .any
  items : Option TypeRef := none
  nullable : Bool := false
  constraints : Constraints := {}
  metadata : Option Metadata := none
  deriving Repr, Inhabited, BEq

/-- The description that metadata give. -/
def Definition.description (d : Definition) : Option String :=
  d.metadata.bind Metadata.description

/-- Whether metadata mark something for export. -/
def exported (metadata : Option Metadata) : Bool :=
  (metadata.bind Metadata.exportable).getD false

/-- A named definition: an output, or a property of a data type. -/
structure Entity extends Definition where
  name : String
  deriving Repr, Inhabited, BEq

/-- A parameter of a template; without a default value that value is null. -/
structure Parameter extends Entity where
  default : Value := .null
  deriving Repr, Inhabited, BEq

/-- A parameter has to be given if it has no default value and must not be null. -/
def isRequired (default : Value) (nullable : Bool) : Bool :=
  default.isNull && !nullable

/-- The word for whether a parameter has to be given. -/
def status (default : Value) (nullable : Bool) : String :=
  if isRequired default nullable then "Required" else "Optional"

/-- A data type that the template defines. -/
structure DataType extends Entity where
  properties : List Entity := []
  deriving Repr, Inhabited, BEq

/-- A parameter of a function, whose name may be any document. -/
structure Argument extends Definition where
  label : Json
  default : Value := .null
  deriving Repr, Inhabited, BEq

/-- A function that the template defines. -/
structure UserFunction where
  name : String
  arguments : List Argument := []
  output : Definition := {}
  metadata : Option Metadata := none
  deriving Repr, Inhabited, BEq

/-! ## Templates -/

/-- All that is known about one template. -/
structure Template where
  fileName : String := ""
  modules : List Module := []
  resources : List Resource := []
  parameters : List Parameter := []
  dataTypes : List DataType := []
  functions : List UserFunction := []
  vars : List Variable := []
  outputs : List Entity := []
  metadata : Option Metadata := none
  deriving Repr, Inhabited, BEq

namespace Template

/-- The name from the metadata, or the file's name where they give none. -/
def title (t : Template) : String :=
  match t.metadata.bind Metadata.name with
  | some name => if name == "" then t.fileName else name
  | none => t.fileName

/-- A data type with its properties in order of their names. -/
def sortProperties (d : DataType) : DataType :=
  { d with properties := sortByName (fun p => p.name) d.properties }

/-- Everything that the compiled template names in order of the names. -/
def sort (t : Template) : Template :=
  { t with
    parameters := sortByName (fun p => p.name) t.parameters
    dataTypes := (sortByName (fun d => d.name) t.dataTypes).map sortProperties
    vars := sortByName Variable.name t.vars
    outputs := sortByName (fun o => o.name) t.outputs
    functions := sortByName UserFunction.name t.functions }

end Template

end TemplateDocs
