import TemplateDocs.Failure
import TemplateDocs.Json.Basic
import TemplateDocs.Template.Basic
import TemplateDocs.Value.Display
import TemplateDocs.Warning

/-!
# Decoding a compiled template

The sections of the document are decoded one after the other into a template. An error names the
field at fault, and what was decoded before it stays.
-/

namespace TemplateDocs

/-! ## Errors -/

/-- What is wrong with a field. -/
inductive Problem where
  | notObject (kind : String)
  | notList
  | notNamespaces
  | notInteger
  | notText
  | noType
  deriving DecidableEq, Repr, Inhabited

/-- The wording of a problem. -/
def Problem.message : Problem → String
  | notObject kind => "expected an object, got " ++ kind
  | notList => "expected a list"
  | notNamespaces => "expected a list of namespaces"
  | notInteger => "expected an integer"
  | notText => "expected a string"
  | noType => "type field could not be decoded"

/-- Why a compiled template could not be decoded. -/
inductive DecodeError where
  | malformed (field : String) (problem : Problem)
  | unreadable (path : String)
  | notJson (path : String)
  /-- A label that cannot be shown, although the name of a field is made with it. -/
  | unshown (fault : Fault)
  deriving DecidableEq, Repr, Inhabited

namespace DecodeError

/-- The wording of a decoding error, or the fault that it ends in without a report. -/
def wording : DecodeError → Except Fault String
  | malformed field problem => .ok (field ++ ": " ++ problem.message)
  | unreadable path => .ok ("failed to open compiled template " ++ Text.quoted path)
  | notJson path => .ok ("compiled template " ++ Text.quoted path ++ " is not valid JSON")
  | unshown fault => .error fault

/-- A decoding error as a failure. -/
def failure (e : DecodeError) : Failure :=
  match e.wording with
  | .ok message => .reported { category := .decode, message }
  | .error fault => .fault fault

end DecodeError

namespace Decode

/-! ## Fields -/

/-- The entries of an object. -/
abbrev Entries := List (String × Json)

/-- The value under a key, null when there is none. -/
def field (entries : Entries) (key : String) : Json :=
  (entryOf? key entries).getD .null

/-- The entries of a field that has to be an object. -/
def object (path : String) : Json → Except DecodeError Entries
  | .object entries => .ok entries
  | other => .error (.malformed path (.notObject other.kindName))

/-- The entries of the object under a key; without it there are none. -/
def entriesUnder (entries : Entries) (key : String) : Except DecodeError Entries :=
  match field entries key with
  | .null => .ok []
  | value => object key value

/-- The type of a definition. A reference wins, and where neither is given anything goes. -/
def type (entries : Entries) (path : String) : Except DecodeError TypeRef :=
  match field entries "$ref", field entries "type" with
  | .text ref, _ => .ok (.reference ref)
  | _, .text name => .ok (.plain name)
  | .null, .null => .ok .any
  | _, _ => .error (.malformed path .noType)

/-- The type of an array's items; a bare yes or no gives none. -/
def items (entries : Entries) (path : String) : Except DecodeError (Option TypeRef) :=
  match field entries "items" with
  | .null => .ok none
  | .bool _ => .ok none
  | value => do
    let inner ← object (path ++ ".items") value
    return some (← type inner (path ++ ".items"))

/-- The list of allowed values. -/
def allowedValues (entries : Entries) (path : String) : Except DecodeError (Option (List Value)) :=
  match field entries "allowedValues" with
  | .null => .ok none
  | .array values => .ok (some (Value.ofItems values))
  | _ => .error (.malformed (path ++ ".allowedValues") .notList)

/-- A bound, which is a whole number. -/
def bound (entries : Entries) (path key : String) : Except DecodeError (Option Int) :=
  match field entries key with
  | .null => .ok none
  | .int n => .ok (some n)
  | _ => .error (.malformed (path ++ "." ++ key) .notInteger)

/-- The limits of a definition. -/
def constraints (entries : Entries) (path : String) : Except DecodeError Constraints := do
  let allowed ← allowedValues entries path
  let minLength ← bound entries path "minLength"
  let maxLength ← bound entries path "maxLength"
  let minValue ← bound entries path "minValue"
  let maxValue ← bound entries path "maxValue"
  return { allowedValues := allowed, minLength, maxLength, minValue, maxValue }

/-- The key of the export mark. -/
def exportKey : String := "__bicep_export!"

/-- Metadata, of which names and descriptions count only as texts. -/
def metadata (path : String) : Json → Except DecodeError (Option Metadata)
  | .null => .ok none
  | value => do
    let entries ← object path value
    return some
      { name := (field entries "name").text?
        description := (field entries "description").text?
        exportable := (entryOf? exportKey entries).map Json.truthy }

/-- A definition from its entries. -/
def definitionOf (entries : Entries) (path : String) : Except DecodeError Definition := do
  let type ← type entries path
  let items ← items entries path
  let constraints ← constraints entries path
  let metadata ← metadata (path ++ ".metadata") (field entries "metadata")
  return { type, items, nullable := (field entries "nullable").truthy, constraints, metadata }

/-- A definition. -/
def definition (path : String) (value : Json) : Except DecodeError Definition := do
  definitionOf (← object path value) path

/-- A named definition. -/
def entity (path name : String) (value : Json) : Except DecodeError Entity := do
  return { toDefinition := ← definition path value, name }

/-- The default value in a definition's entries. -/
def defaultValue (value : Json) : Value :=
  Value.ofJson (value.get "defaultValue")

/-! ## Parameters, data types and outputs -/

/-- A parameter. -/
def parameter (name : String) (value : Json) : Except DecodeError Parameter := do
  return { toEntity := ← entity ("parameters." ++ name) name value, default := defaultValue value }

/-- A data type with its properties. -/
def dataType (name : String) (value : Json) : Except DecodeError DataType := do
  let path := "definitions." ++ name
  let entries ← object path value
  let own ← definitionOf entries path
  let properties ← entriesUnder entries "properties"
  let properties ← properties.mapM fun (key, value) =>
    entity (path ++ ".properties." ++ key) key value
  return { toDefinition := own, name, properties }

/-- An output. -/
def output (name : String) (value : Json) : Except DecodeError Entity :=
  entity ("outputs." ++ name) name value

/-! ## Variables -/

/-- The variables that a loop makes. -/
def copies (index : Nat) : List Json → Except DecodeError (List Variable)
  | [] => .ok []
  | value :: rest => do
    let path := "variables.copy[" ++ toString index ++ "]"
    let entries ← object path value
    match field entries "name" with
    | .text name =>
      let others ← copies (index + 1) rest
      return { name, value := Value.ofJson (field entries "input") } :: others
    | _ => throw (.malformed (path ++ ".name") .notText)

/-- Whether a name is one of those that the compiler gives. -/
def isReserved (name : String) : Bool :=
  (Text.dropStart? "$fxv#".toList name.toList).isSome

/-- Whether a name starts with a dollar sign, as no name in a source does. -/
def isInjected (name : String) : Bool :=
  (Text.dropStart? "$".toList name.toList).isSome

/-- The loops listed under the key `copy`. -/
def copyList? (name : String) (value : Json) : Option (List Json) :=
  if name == "copy" then value.items? else none

/-- The variables, and what is to be told about those that are left out. -/
def variablesOf : Entries → List Warning × Except DecodeError (List Variable)
  | [] => ([], .ok [])
  | (name, value) :: rest =>
    match copyList? name value with
    | some loops =>
      match copies 0 loops with
      | .error e => ([], .error e)
      | .ok made =>
        let (warnings, others) := variablesOf rest
        (warnings, others.map (made ++ ·))
    | none =>
      let (warnings, others) := variablesOf rest
      if isReserved name then (warnings, others)
      else if isInjected name then (.skippedVariable name :: warnings, others)
      else (warnings, others.map ({ name, value := Value.ofJson value } :: ·))

/-- The section of variables. -/
def variableSection : Json → List Warning × Except DecodeError (List Variable)
  | .null => ([], .ok [])
  | value =>
    match object "variables" value with
    | .error e => ([], .error e)
    | .ok entries => variablesOf entries

/-! ## Functions -/

/-- A label as it is shown in the name of a field. -/
def shownLabel (label : Json) : Except DecodeError String :=
  (Value.ofJson label).display.mapError .unshown

/-- What a function's parameter is known by: its label, or its index if that counts as no. -/
def argumentName (index : Nat) (label : Json) : Except DecodeError String :=
  if label.truthy then shownLabel label else .ok (toString index)

/-- The parameters of a function. -/
def arguments (path : String) (index : Nat) : List Json → Except DecodeError (List Argument)
  | [] => .ok []
  | value :: rest => do
    let entries ← object (path ++ ".parameters[" ++ toString index ++ "]") value
    let label := (entryOf? "name" entries).getD (.text "")
    let known ← argumentName index label
    let own ← definitionOf entries (path ++ ".parameters." ++ known)
    let others ← arguments path (index + 1) rest
    return { toDefinition := own, label, default := defaultValue value } :: others

/-- The list of a function's parameters; whatever counts as no is an empty list. -/
def argumentList (path : String) (value : Json) : Except DecodeError (List Json) :=
  if value.truthy then
    match value with
    | .array items => .ok items
    | _ => .error (.malformed (path ++ ".parameters") .notList)
  else .ok []

/-- What a function gives back; where it is not said anything goes. -/
def returned (path : String) : Json → Except DecodeError Definition
  | .null => .ok {}
  | output => definition path output

/-- A function. -/
def function (path name : String) (value : Json) : Except DecodeError UserFunction := do
  let entries ← object path value
  let arguments ← arguments path 0 (← argumentList path (field entries "parameters"))
  let output ← returned (path ++ ".output") (field entries "output")
  let metadata ← metadata (path ++ ".metadata") (field entries "metadata")
  return { name, arguments, output, metadata }

/-- What a namespace is known by: its label, or its index without one. -/
def namespaceName (index : Nat) (entries : Entries) : Except DecodeError String :=
  match entryOf? "namespace" entries with
  | some label => shownLabel label
  | none => .ok (toString index)

/-- The functions of one namespace after another. The name of a namespace is made for each function
anew. -/
def namespaces (index : Nat) : List Json → Except DecodeError (List UserFunction)
  | [] => .ok []
  | value :: rest => do
    let entries ← object ("functions[" ++ toString index ++ "]") value
    let members ← entriesUnder entries "members"
    let own ← members.mapM fun (name, value) => do
      let label ← namespaceName index entries
      function ("functions." ++ label ++ "." ++ name) name value
    let others ← namespaces (index + 1) rest
    return own ++ others

/-- The section of functions. -/
def functions : Json → Except DecodeError (List UserFunction)
  | .null => .ok []
  | .array values => namespaces 0 values
  | _ => .error (.malformed "functions" .notNamespaces)

end Decode

/-! ## The document -/

/-- A template as far as it was decoded, with the error that ended the decoding, if any. -/
structure Decoding where
  template : Template
  warnings : List Warning := []
  error : Option DecodeError := none
  deriving Repr, Inhabited, BEq

namespace Decoding

/-- Goes on with the next section unless an error has ended the decoding. -/
def andThen (d : Decoding) (next : Template → Decoding) : Decoding :=
  match d.error with
  | some _ => d
  | none =>
    let after := next d.template
    { after with warnings := d.warnings ++ after.warnings }

/-- The decoded template, or the error. -/
def result (d : Decoding) : Except DecodeError Template :=
  match d.error with
  | some e => .error e
  | none => .ok d.template

end Decoding

namespace Decode

/-- What is decoded of the entries up to the first error, and that error. -/
def each {α : Type} (decode : String → Json → Except DecodeError α) :
    Entries → List α × Option DecodeError
  | [] => ([], none)
  | (name, value) :: rest =>
    match decode name value with
    | .error e => ([], some e)
    | .ok item =>
      let (items, error) := each decode rest
      (item :: items, error)

/-- Decodes the entries under a key one by one and adds them to the template. -/
def addEach {α : Type} (doc : Entries) (key : String)
    (decode : String → Json → Except DecodeError α) (add : Template → List α → Template)
    (t : Template) : Decoding :=
  match entriesUnder doc key with
  | .error e => { template := t, error := some e }
  | .ok entries =>
    let (items, error) := each decode entries
    { template := add t items, error }

/-- Adds the parameters. -/
def addParameters (doc : Entries) : Template → Decoding :=
  addEach doc "parameters" parameter fun t items => { t with parameters := t.parameters ++ items }

/-- Adds the data types. -/
def addDataTypes (doc : Entries) : Template → Decoding :=
  addEach doc "definitions" dataType fun t items => { t with dataTypes := t.dataTypes ++ items }

/-- Adds the outputs. -/
def addOutputs (doc : Entries) : Template → Decoding :=
  addEach doc "outputs" output fun t items => { t with outputs := t.outputs ++ items }

/-- Adds the variables, all or none. -/
def addVariables (doc : Entries) (t : Template) : Decoding :=
  match variableSection (field doc "variables") with
  | (warnings, .error e) => { template := t, warnings, error := some e }
  | (warnings, .ok items) => { template := { t with vars := t.vars ++ items }, warnings }

/-- Adds the functions, all or none. -/
def addFunctions (doc : Entries) (t : Template) : Decoding :=
  match functions (field doc "functions") with
  | .error e => { template := t, error := some e }
  | .ok items => { template := { t with functions := t.functions ++ items } }

/-- Sets the metadata if the document has some. -/
def setMetadata (doc : Entries) (t : Template) : Decoding :=
  match entryOf? "metadata" doc with
  | none => { template := t }
  | some value =>
    match metadata "metadata" value with
    | .error e => { template := t, error := some e }
    | .ok found => { template := { t with metadata := found } }

end Decode

open Decode in
/-- Decodes a document into a template, section by section, and sorts the result. -/
def Template.decode (t : Template) (document : Json) : Decoding :=
  match object "template" document with
  | .error e => { template := t, error := some e }
  | .ok doc =>
    (((((((addParameters doc t).andThen (addDataTypes doc)).andThen (addVariables doc)).andThen
      (addOutputs doc)).andThen (addFunctions doc)).andThen (setMetadata doc)).andThen
        fun t => { template := t.sort })

end TemplateDocs
