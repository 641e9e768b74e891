import TemplateDocs.Page.Cell
import TemplateDocs.Page.Literal
import TemplateDocs.Page.Table
import TemplateDocs.Template.Section

/-!
# The sections of a page

Each section is text that ends in a line feed, or empty when there is nothing to document. Sections
about named things are tables; the extra columns show what decorators say.
-/

namespace TemplateDocs.Page

/-- A column of a section's table. -/
abbrev Col (α : Type) := Column Failure α

/-- A column whose cells always have a text. -/
def plainColumn {α : Type} (header : String) (text : α → String) : Col α :=
  { header, cell := fun x => .ok (text x) }

/-! ## Extra columns -/

/-- The column of allowed values. -/
def allowedColumn {α : Type} (owner : α → String) (constraints : α → Constraints) : Col α :=
  { header := "Allowed Values"
    extra := true
    cell := fun x => Cell.allowedValues (owner x) (constraints x) }

/-- The columns of bounds. -/
def boundColumns {α : Type} (constraints : α → Constraints) : List (Col α) :=
  let column (header : String) (bound : Constraints → Option Int) : Col α :=
    { header, extra := true, cell := fun x => Cell.bound (bound (constraints x)) }
  [column "Min Length" Constraints.minLength, column "Max Length" Constraints.maxLength,
    column "Min Value" Constraints.minValue, column "Max Value" Constraints.maxValue]

/-- The column of export marks. -/
def exportColumn {α : Type} (metadata : α → Option Metadata) : Col α :=
  { header := "Exportable", extra := true, cell := fun x => .ok (Cell.yesNo (exported (metadata x))) }

/-! ## Columns by section -/

/-- The page that documents a resource type. -/
def resourcePage (type : String) : String :=
  "https://learn.microsoft.com/en-us/azure/templates/" ++ Text.lower type

/-- Modules. -/
def moduleColumns : List (Col Module) :=
  [plainColumn "Symbolic Name" Module.name, plainColumn "Source" Module.source,
    plainColumn "Description" fun m => Cell.oneLine m.description]

/-- Resources, with a link for each type. -/
def resourceColumns : List (Col Resource) :=
  [plainColumn "Symbolic Name" Resource.name,
    plainColumn "Type" fun r => "[" ++ r.type ++ "](" ++ resourcePage r.type ++ ")",
    plainColumn "Description" fun r => Cell.oneLine r.description]

/-- Parameters. -/
def parameterColumns : List (Col Parameter) :=
  [plainColumn "Name" fun p => p.name,
    plainColumn "Status" fun p => status p.default p.nullable,
    plainColumn "Type" fun p => Cell.type p.type p.items,
    plainColumn "Description" fun p => Cell.description p.metadata,
    { header := "Default", cell := fun p => Cell.defaultValue p.name p.default p.nullable },
    allowedColumn (fun p => Cell.parameterOwner p.name) fun p => p.constraints] ++
  boundColumns fun p => p.constraints

/-- The link to the table of a data type's properties. -/
def propertiesLink (d : DataType) : String :=
  if d.properties.isEmpty then "" else "[View Properties](#" ++ Text.lower d.name ++ ")"

/-- Data types. -/
def dataTypeColumns : List (Col DataType) :=
  [plainColumn "Name" fun d => d.name,
    plainColumn "Type" fun d => Cell.type d.type d.items,
    plainColumn "Description" fun d => Cell.description d.metadata,
    exportColumn fun d => d.metadata,
    allowedColumn (fun d => "type " ++ Text.quoted d.name) fun d => d.constraints] ++
  boundColumns (fun d => d.constraints) ++
  [plainColumn "Properties" propertiesLink]

/-- The properties of a data type. -/
def propertyColumns (d : DataType) : List (Col Entity) :=
  [plainColumn "Name" fun p => p.name,
    plainColumn "Type" fun p => Cell.type p.type p.items,
    plainColumn "Description" fun p => Cell.description p.metadata,
    allowedColumn
      (fun p => "property " ++ Text.quoted p.name ++ " of type " ++ Text.quoted d.name)
      fun p => p.constraints] ++
  boundColumns fun p => p.constraints

/-- Functions. -/
def functionColumns : List (Col UserFunction) :=
  [plainColumn "Name" UserFunction.name,
    plainColumn "Description" fun f => Cell.description f.metadata,
    plainColumn "Output Type" fun f => Cell.type f.output.type f.output.items,
    exportColumn UserFunction.metadata]

/-- Variables. -/
def variableColumns : List (Col Variable) :=
  [plainColumn "Name" Variable.name, plainColumn "Description" fun v => Cell.oneLine v.description]

/-- Outputs. -/
def outputColumns : List (Col Entity) :=
  [plainColumn "Name" fun o => o.name,
    plainColumn "Type" fun o => Cell.type o.type o.items,
    plainColumn "Description" fun o => Cell.description o.metadata] ++
  boundColumns fun o => o.constraints

/-! ## Tables by section -/

/-- The table of a section, none if there is nothing to list. -/
def tableOf {α : Type} (withExtras : Bool) (title : String) (columns : List (Col α))
    (items : List α) : Except Failure (List Table) :=
  if items.isEmpty then .ok []
  else (Table.ofColumns title 2 (Column.shown withExtras columns) items).map ([·])

/-- The table of the properties of a data type. -/
def propertyTable (withExtras : Bool) (d : DataType) : Except Failure Table :=
  Table.ofColumns d.name 3 (Column.shown withExtras (propertyColumns d)) d.properties

/-- The table of data types and one for the properties of each that has some. -/
def dataTypeTables (withExtras : Bool) (types : List DataType) : Except Failure (List Table) := do
  let main ← tableOf withExtras "User Defined Data Types (UDDTs)" dataTypeColumns types
  let further ← (types.filter fun d => !d.properties.isEmpty).mapM (propertyTable withExtras)
  return main ++ further

/-- The tables of a section. -/
def tables (t : Template) (withExtras : Bool) : Section → Except Failure (List Table)
  | .modules => tableOf withExtras "Modules" moduleColumns t.modules
  | .resources => tableOf withExtras "Resources" resourceColumns t.resources
  | .parameters => tableOf withExtras "Parameters" parameterColumns t.parameters
  | .dataTypes => dataTypeTables withExtras t.dataTypes
  | .functions => tableOf withExtras "User Defined Functions (UDFs)" functionColumns t.functions
  | .vars => tableOf withExtras "Variables" variableColumns t.vars
  | .outputs => tableOf withExtras "Outputs" outputColumns t.outputs
  | .description => .ok []
  | .usage => .ok []

/-! ## Sections without tables -/

/-- The description of the template. -/
def descriptionText (t : Template) : String :=
  let description := Cell.description t.metadata
  if description == "" then "" else "## Description\n\n" ++ description ++ "\n"

/-- The line of a parameter that has to be given. -/
def requiredLine (p : Parameter) : String :=
  "    " ++ p.name ++ ":"

/-- The line of a parameter that may be left out, with its default value. -/
def optionalLine (p : Parameter) : Except Failure String := do
  let value ← Literal.ofValue (Cell.parameterOwner p.name) "    " p.default
  return "    " ++ p.name ++ ": " ++ value

/-- Whether a parameter has to be given. -/
def mustGive (p : Parameter) : Bool :=
  isRequired p.default p.nullable

/-- The note under the example. -/
def usageNote : String :=
  "> Note: In the default values, strings enclosed in square brackets " ++
  "(e.g. '[resourceGroup().location]' or '[__bicep.function_name(args...)]') " ++
  "represent function calls or references."

/-- An example of use, the parameters that have to be given first. -/
def usageText (t : Template) : Except Failure String := do
  let required := (t.parameters.filter mustGive).map requiredLine
  let optional ← (t.parameters.filter fun p => !mustGive p).mapM optionalLine
  return Text.join "\n" (
    ["## Usage", "", "Here is a basic example of how to use this Bicep module:", "", "```bicep",
      "module reference_name 'path_to_module | container_registry_reference' = \x7b",
      "  name: 'deployment_name'", "  params: \x7b", "    // Required parameters"] ++
    required ++ ["", "    // Optional parameters"] ++ optional ++
    ["  \x7d", "\x7d", "```", "", usageNote, ""])

/-- The text of a section. -/
def sectionText (t : Template) (withExtras : Bool) : Section → Except Failure String
  | .description => .ok (descriptionText t)
  | .usage => usageText t
  | other => do return Text.join "\n" ((← tables t withExtras other).map Table.text)

end TemplateDocs.Page
