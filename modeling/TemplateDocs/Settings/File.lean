import TemplateDocs.Files.Tree
import TemplateDocs.Json.Reader
import TemplateDocs.Settings.Layers
import TemplateDocs.Text.Utf8
import TemplateDocs.Value.Encode

/-!
# Files of settings

A file of settings is YAML if its name says so, and JSON otherwise. YAML is left to a library.
-/

namespace TemplateDocs.Settings

/-! ## Errors -/

/-- Why a file of settings could not be read or written. -/
inductive SettingsError where
  | notFound (name : String)
  | malformed
  | unreadable
  | notMapping
  | notSaved
  deriving DecidableEq, Repr, Inhabited

/-- The wording of an error. -/
def SettingsError.message : SettingsError → String
  | notFound name => "Configuration file not found: " ++ name
  | malformed => "Invalid configuration file format"
  | unreadable => "Error reading configuration file"
  | notMapping => "Configuration file must contain a mapping"
  | notSaved => "Error saving configuration file"

/-- An error as a failure. -/
def SettingsError.failure (e : SettingsError) : Failure :=
  .reported { category := .configuration, message := e.message }

/-- A library for YAML. -/
structure YamlLibrary where
  /-- The value that bytes stand for. Without a fault they are no YAML. -/
  load : ByteArray → Except (Option Fault) Value
  /-- A mapping as text. -/
  dump : Mapping → Except Fault String

/-! ## Reading -/

/-- Whether a text ends in another. -/
def endsIn (ending s : String) : Bool :=
  (Text.dropStart? ending.toList.reverse s.toList.reverse).isSome

/-- Whether a file of a name is YAML. -/
def isYaml (name : String) : Bool :=
  endsIn ".yaml" name || endsIn ".yml" name

/-- The value that a YAML file holds. One that counts as no is an empty mapping. -/
def yamlValue (yaml : YamlLibrary) (bytes : ByteArray) : Except Failure Value :=
  match yaml.load bytes with
  | .ok value => .ok (if value.truthy then value else .dict [])
  | .error (some fault) => .error (.fault fault)
  | .error none => .error SettingsError.malformed.failure

/-- The value that a JSON file holds. -/
def jsonValue (bytes : ByteArray) : Except Failure Value :=
  match Text.decode? bytes with
  | none => .error (.fault .notText)
  | some text =>
    match Json.read text with
    | .ok doc => .ok (.ofJson doc)
    | .error e => .error ((e.fault?.map Failure.fault).getD SettingsError.malformed.failure)

/-- The value that a file holds. -/
def fileValue (yaml : YamlLibrary) (name : String) (bytes : ByteArray) : Except Failure Value :=
  if isYaml name then yamlValue yaml bytes else jsonValue bytes

/-- The mapping in a file of settings. -/
def mappingIn (yaml : YamlLibrary) (files : Tree) (name : String) : Except Failure Mapping :=
  if !files.holds name then .error (SettingsError.notFound name).failure
  else
    match files.read name with
    | .error _ => .error SettingsError.unreadable.failure
    | .ok bytes =>
      match fileValue yaml name bytes with
      | .error e => .error e
      | .ok (.dict entries) => .ok entries
      | .ok _ => .error SettingsError.notMapping.failure

/-- The names under which a file of settings is looked for. -/
def defaultNames : List String :=
  ["bicep-docs.yaml", "bicep-docs.yml", "bicep-docs.json",
   ".bicep-docs.yaml", ".bicep-docs.yml", ".bicep-docs.json"]

/-- The first of some names that a file has; without names the default ones are looked for. -/
def findFile (files : Tree) (names : List String) : Option String :=
  (if names.isEmpty then defaultNames else names).find? files.holdsFile

/-! ## Writing -/

/-- The text of a file of settings. -/
def fileText (yaml : YamlLibrary) (asYaml : Bool) (mapping : Mapping) : Except Fault String :=
  if asYaml then yaml.dump mapping else (Value.dict mapping).indented 0

/-- The bytes of a file of settings. -/
def fileBytes (yaml : YamlLibrary) (asYaml : Bool) (mapping : Mapping) : Except Fault ByteArray := do
  let text ← fileText yaml asYaml mapping
  match Text.encode? text with
  | some bytes => return bytes
  | none => throw .noBytes

/-- Writes the settings to a file, as YAML if the format says so and as JSON otherwise. The file is
opened before its text is made. -/
def save (yaml : YamlLibrary) (s : Settings) (files : Tree) (name format : String) :
    Except Failure Tree := do
  s.needs "to_file"
  let mapping ← s.toMapping
  match files.filePlace name with
  | .error e => throw ((e.fault?.map Failure.fault).getD SettingsError.notSaved.failure)
  | .ok place =>
    let bytes ← (fileBytes yaml (Text.lower format == "yaml") mapping).mapError .fault
    return .plant (.file bytes) place files

/-! ## Loading -/

/-- Where the settings of a run come from, besides the defaults. -/
structure Sources where
  yaml : YamlLibrary
  files : Tree
  environment : Environment := []
  processors : Option Int := none
  /-- The name of the file of settings; an empty one counts for none. -/
  file : Option String := none
  useEnvironment : Bool := true
  overrides : Mapping := []
  validate : Bool := true

namespace Sources

/-- The mapping in the named file, or in the first one that is found. -/
def fileMapping (s : Sources) : Except Failure Mapping :=
  match s.file.filter (· != "") with
  | some name => mappingIn s.yaml s.files name
  | none =>
    match findFile s.files [] with
    | some name => mappingIn s.yaml s.files name
    | none => .ok []

/-- The overrides that are not null. -/
def givenOverrides (s : Sources) : Mapping :=
  s.overrides.filter fun e => !e.2.isNull

/-- The layers in one mapping: the file first, then the environment, then the overrides. -/
def layered (s : Sources) : Outcome Mapping := do
  let file ← .ofExcept s.fileMapping
  let environment ← if s.useEnvironment then ofEnvironment s.environment else pure []
  .ofExcept (Mapping.mergeAll [.dict file, .dict environment, .dict s.givenOverrides])

/-- Loads the settings. -/
def load (s : Sources) : Outcome Settings := do
  let mapping ← s.layered
  if s.validate then .ofExcept ((Settings.validate mapping).mapError Invalid.failure)
  Settings.ofMapping s.processors mapping

end Sources

end TemplateDocs.Settings
