import TemplateDocs.Settings.Basic
import TemplateDocs.Text.Digit

/-!
# Layers of settings

Settings come from several mappings, of which a later one wins over an earlier one, entry by entry
and mapping by mapping.
-/

namespace TemplateDocs

/-! ## Merging -/

mutual

/-- A value on top of the one under the same key. -/
def Value.onto (below : Option Value) : Value → Value
  | .dict entries =>
    match below with
    | some (.dict old) => .dict (Mapping.merge old entries)
    | _ => .dict entries
  | value => value

/-- A mapping with the entries of another on top. -/
def Mapping.merge (below : List (Key × Value)) : List (Key × Value) → List (Key × Value)
  | [] => below
  | (key, value) :: entries =>
    Mapping.merge (key.set (value.onto (key.find? below)) below) entries

end

/-- All layers in one mapping; whatever counts as no is no layer. -/
def Mapping.mergeAll (layers : List Value) : Except Failure Mapping :=
  layers.foldlM (fun below layer =>
    match layer with
    | .dict entries => .ok (Mapping.merge below entries)
    | other => if other.truthy then .error (.fault .noSuchPart) else .ok below) []

namespace Settings

/-! ## Validation -/

/-- What is wrong with a mapping. -/
inductive Invalid where
  | sectionsNotList
  | unknownSection (word : String)
  /-- An item of the sections that cannot be shown. -/
  | unshown (fault : Fault)
  | workers
  | filename (key : String)
  deriving DecidableEq, Repr, Inhabited

/-- The wording of what is wrong, or the fault that it ends in without a report. -/
def Invalid.wording : Invalid → Except Fault String
  | sectionsNotList => .ok "sections must be a list of section names"
  | unknownSection word => .ok (Section.unknownMessage word)
  | unshown fault => .error fault
  | workers => .ok "max_workers must be a positive integer"
  | filename key => .ok (key ++ " must be a non-empty string")

/-- What is wrong with a mapping as a failure. -/
def Invalid.failure (e : Invalid) : Failure :=
  match e.wording with
  | .ok message => .reported { category := .configuration, message }
  | .error fault => .fault fault

/-- The first word that names no section. -/
def unknownWord? (words : List String) : Option String :=
  words.find? fun word => (Section.ofString? word).isNone

/-- Whether a value is a list or a text. -/
def isListOrText : Value → Bool
  | .text _ => true
  | .list _ => true
  | .ring isList _ _ => isList
  | _ => false

/-- Checks the sections, which are a list or a text with commas. All items are shown before the first
one is looked up. -/
def checkSections (value : Value) : Except Invalid Unit :=
  match isListOrText value, sectionWords? value with
  | true, some words =>
    match words.mapM id with
    | .error fault => .error (.unshown fault)
    | .ok words =>
      match unknownWord? words with
      | some word => .error (.unknownSection word)
      | none => .ok ()
  | _, _ => .error .sectionsNotList

/-- Checks the number of workers, which is null or a positive whole number. -/
def checkWorkers (value : Value) : Except Invalid Unit :=
  match value with
  | .null => .ok ()
  | .int n => if 0 < n then .ok () else .error .workers
  | _ => .error .workers

/-- Checks a file name, which is a text that is not blank. -/
def checkFilename (key : String) (value : Value) : Except Invalid Unit :=
  match value with
  | .text s => if Text.strip s == "" then .error (.filename key) else .ok ()
  | _ => .error (.filename key)

/-- Applies a check to the value under a key, if there is one. -/
def checkUnder (mapping : Mapping) (key : String) (check : Value → Except Invalid Unit) :
    Except Invalid Unit :=
  match Key.find? (.text key) mapping with
  | some value => check value
  | none => .ok ()

/-- Checks a mapping; the first thing that is wrong is told. -/
def validate (mapping : Mapping) : Except Invalid Unit := do
  checkUnder mapping "sections" checkSections
  checkUnder mapping "max_workers" checkWorkers
  checkUnder mapping "trigger_filename" (checkFilename "trigger_filename")
  checkUnder mapping "output_filename" (checkFilename "output_filename")

/-! ## Environment -/

/-- The variables of an environment. -/
abbrev Environment := List (String × String)

/-- Makes a setting of a variable that is set and not empty. -/
def fromVariable (env : Environment) (name key : String)
    (read : String → Outcome (Option Value)) : Outcome Mapping :=
  match entryOf? name env with
  | none => pure []
  | some s =>
    if s == "" then pure []
    else do
      match ← read s with
      | some value => return [(.text key, value)]
      | none => return []

/-- Whether a word means yes. -/
def meansYes (s : String) : Bool :=
  ["1", "true", "yes", "on"].contains (Text.lower (Text.strip s))

/-- The items of a list with commas, without blanks around them; blank ones are left out. -/
def listItems (s : String) : List String :=
  ((Text.commaItems s).map Text.strip).filter (· != "")

/-- A number of workers; anything else is told and left out. -/
def workersOf (s : String) : Outcome (Option Value) :=
  match Text.integer? s with
  | some n => pure (some (.int n))
  | none => do
    Outcome.warn .badWorkerCount
    return none

/-- The settings that an environment gives. -/
def ofEnvironment (env : Environment) : Outcome Mapping := do
  let yesNo (s : String) : Outcome (Option Value) := pure (some (.bool (meansYes s)))
  let same (s : String) : Outcome (Option Value) := pure (some (.text s))
  let sections ← fromVariable env "BICEP_DOCS_SECTIONS" "sections" fun s =>
    pure (some (.list ((listItems s).map .text)))
  let decorators ←
    fromVariable env "BICEP_DOCS_SHOW_ALL_DECORATORS" "show_all_decorators" yesNo
  let verbose ← fromVariable env "BICEP_DOCS_VERBOSE" "verbose" yesNo
  let trigger ← fromVariable env "BICEP_DOCS_TRIGGER_FILENAME" "trigger_filename" same
  let output ← fromVariable env "BICEP_DOCS_OUTPUT_FILENAME" "output_filename" same
  let workers ← fromVariable env "BICEP_DOCS_MAX_WORKERS" "max_workers" workersOf
  return sections ++ decorators ++ verbose ++ trigger ++ output ++ workers

end Settings

end TemplateDocs
