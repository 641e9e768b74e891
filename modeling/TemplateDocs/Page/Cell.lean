import TemplateDocs.Page.RenderError
import TemplateDocs.Template.Basic
import TemplateDocs.Text.Lines
import TemplateDocs.Value.Display
import TemplateDocs.Value.Encode

/-!
# The texts of table cells
-/

namespace TemplateDocs.Cell

/-- A text on one line, with a break for every line feed. -/
def oneLine (s : String) : String :=
  String.ofList ((Text.crlfToLf s.toList).flatMap fun c => if c == '\n' then "<br>".toList else [c])

/-- A description; without one the cell is empty. -/
def description (metadata : Option Metadata) : String :=
  oneLine ((metadata.bind Metadata.description).getD "")

/-- The mark of a type that the template defines. -/
def definedMark : String := " (uddt)"

/-- A type. An array is shown by the type of its items. -/
def type (t : TypeRef) (items : Option TypeRef) : String :=
  match t, items with
  | .reference _, _ => t.name ++ definedMark
  | .plain "array", some (.reference path) => (TypeRef.reference path).name ++ "[]" ++ definedMark
  | .plain "array", some (.plain name) => name ++ "[]"
  | .plain name, _ => name

/-- Why a value has no text as JSON, as a failure. What is wrong with a value is reported, but not that
values stand too deep inside of others. -/
def encodeFailure (owner : String) : Fault → Failure
  | .wrongKind | .wrongValue => (RenderError.unencodable owner).failure
  | fault => .fault fault

/-- A value as JSON. -/
def json (owner : String) (v : Value) : Except Failure String :=
  (v.encode callLimit).mapError (encodeFailure owner)

/-- How messages name a parameter. -/
def parameterOwner (name : String) : String :=
  "parameter " ++ Text.quoted name

/-- A default value. Without one the cell is empty, or says null where null may be given. -/
def defaultValue (name : String) (value : Value) (nullable : Bool) : Except Failure String :=
  if value.isNull then .ok (if nullable then "null" else "")
  else (json (parameterOwner name) value).map oneLine

/-- The allowed values. -/
def allowedValues (owner : String) (c : Constraints) : Except Failure String :=
  match c.allowedValues with
  | none => .ok ""
  | some values => do
    let parts ← values.mapM (json owner)
    return oneLine (Text.join ", " parts)

/-- A bound; without one the cell is empty. One that cannot be shown is not reported. -/
def bound (b : Option Int) : Except Failure String :=
  match b with
  | none => .ok ""
  | some n => (showInt n).mapError .fault

/-- The four bounds. -/
def bounds (c : Constraints) : Except Failure (List String) :=
  [c.minLength, c.maxLength, c.minValue, c.maxValue].mapM bound

/-- The cells of the constraints, with or without the allowed values. -/
def constraints (owner : String) (withAllowedValues : Bool) (c : Constraints) :
    Except Failure (List String) := do
  let allowed ← if withAllowedValues then (allowedValues owner c).map ([·]) else pure []
  return allowed ++ (← bounds c)

/-- Yes or no. -/
def yesNo (b : Bool) : String :=
  if b then "Yes" else "No"

end TemplateDocs.Cell
