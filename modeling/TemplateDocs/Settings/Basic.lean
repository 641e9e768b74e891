import TemplateDocs.Outcome
import TemplateDocs.Template.Section
import TemplateDocs.Text.Search
import TemplateDocs.Value.Display

/-!
# Settings

The settings of a run. Sections are looked up when they are set; all other settings hold whatever
they were given.
-/

namespace TemplateDocs

/-- A mapping that settings are read from. -/
abbrev Mapping := List (Key × Value)

/-- What has become of settings besides the values that they were given. -/
structure Settings.Damage where
  /-- Settings that were taken away. -/
  lost : List String := []
  /-- What cannot be used any more, with the fault that its use ends in. -/
  broken : List (String × Fault) := []
  /-- Further names that have a value. -/
  extras : List String := []
  /-- Whether no setting counts as one but the sections. -/
  bare : Bool := false
  deriving DecidableEq, Repr, Inhabited

/-- The settings of a run. -/
structure Settings where
  sections : List Section := Section.all
  showAllDecorators : Value := .bool false
  verbose : Value := .bool false
  triggerFilename : Value := .text "main.bicep"
  outputFilename : Value := .text "README.md"
  maxWorkers : Value
  damage : Settings.Damage := {}
  deriving Repr, Inhabited, BEq

namespace Settings

/-! ## Defaults -/

/-- The most workers that are taken by default. -/
def workerLimit : Int := 16

/-- Twice the number of processors, at least one and not beyond the limit. Without a number of
processors there is one. -/
def defaultWorkers (processors : Option Int) : Int :=
  let known := match processors with
    | some n => if n == 0 then 1 else n
    | none => 1
  max 1 (min (known * 2) workerLimit)

/-- The settings of a machine without anything set. -/
def default (processors : Option Int) : Settings :=
  { maxWorkers := .int (defaultWorkers processors) }

/-! ## Names -/

/-- The operations on settings that need the settings themselves. -/
def operations : List String :=
  ["to_dict", "to_file", "get_config_summary"]

/-- Names that are no settings and are still accepted without a warning. -/
def reservedNames : List String :=
  ["default", "load", "from_dict", "from_file", "__annotations__", "__dataclass_params__",
   "__delattr__", "__dir__", "__doc__", "__eq__", "__format__", "__ge__", "__getattribute__",
   "__getstate__", "__gt__", "__hash__", "__init__", "__init_subclass__", "__le__", "__lt__",
   "__match_args__", "__module__", "__ne__", "__new__", "__reduce__", "__reduce_ex__", "__repr__",
   "__setattr__", "__sizeof__", "__str__", "__subclasshook__"]

/-- The name of the list of fields. -/
def fieldsName : String := "__dataclass_fields__"

/-- The name of all settings together. -/
def allName : String := "__dict__"

/-- Names that cannot be given a value, with the fault that it ends in. -/
def fixedNames : List (String × Fault) :=
  [("__class__", .wrongKind), ("__weakref__", .noSuchPart)]

/-! ## Setting -/

/-- The word for an item of sections, or why it cannot be shown. A section itself stands for its
identifier. -/
def itemWord : Value → Except Fault String
  | .choice s => .ok s.identifier
  | item => item.display

/-- The word for a key among sections, or why it cannot be shown. -/
def keyWord : Key → Except Fault String
  | .choice s => .ok s.identifier
  | key => key.display

/-- The words of a value that names sections, and among them why an item cannot be shown. -/
def sectionWords? : Value → Option (List (Except Fault String))
  | .text s => some ((Text.commaItems s).map .ok)
  | .list items => some (items.map itemWord)
  | .tuple items => some (items.map itemWord)
  | .set members => some (members.map keyWord)
  | .bytes content => some (content.map fun b => .ok (toString b.toNat))
  | .dict entries => some (entries.map fun e => keyWord e.1)
  | .ring _ _ members => some members
  | _ => none

/-- The sections that words name; the first word that names none is told. -/
def sectionsOf (words : List (Except Fault String)) : Except Failure (List Section) :=
  words.mapM fun
    | .ok word => (Section.ofString word).mapError .reported
    | .error fault => .error (.fault fault)

/-- The sections that a value holds, if it holds sections themselves and nothing else. -/
def chosen? : Value → Option (List Section)
  | .text s => if s == "" then some [] else none
  | .list items | .tuple items => items.mapM fun | .choice s => some s | _ => none
  | .set members => members.mapM fun | .choice s => some s | _ => none
  | .dict entries => entries.mapM fun e => match e.1 with | .choice s => some s | _ => none
  | .bytes content => if content.isEmpty then some [] else none
  | _ => none

/-- The damage from giving a name a value that has no use but to stand in the way. -/
def Damage.hide (d : Damage) (name : String) (value : Value) : Damage :=
  if operations.contains name then { d with broken := (name, .wrongKind) :: d.broken }
  else if name == fieldsName then
    match value with
    | .dict [] => { d with bare := true }
    | _ => { d with broken := (name, .noSuchPart) :: d.broken }
  else d

/-- What becomes of sections that are put in place unread: only sections themselves can be used. -/
def Damage.putSections (d : Damage) (value : Value) : Damage :=
  match sectionWords? value, chosen? value with
  | none, _ => { d with broken := ("sections", .wrongKind) :: d.broken }
  | some _, none => { d with broken := ("sections", .noSuchPart) :: d.broken }
  | some _, some _ => d

/-- Replaces all settings at once, without a look at their values. Sections and workers that are not
among the new ones are lost. -/
def replaceAll (processors : Option Int) (entries : Mapping) : Settings :=
  let start := Settings.default processors
  let find (name : String) : Option Value := Key.find? (.text name) entries
  let names := entries.filterMap fun e => match e.1 with
    | .text name => some (name, e.2)
    | _ => none
  let lost := ["sections", "max_workers"].filter fun name => (find name).isNone
  let hidden : Damage := names.foldl (fun d e => d.hide e.1 e.2) {}
  let damage := ((find "sections").map hidden.putSections).getD hidden
  { sections := ((find "sections").bind chosen?).getD []
    showAllDecorators := (find "show_all_decorators").getD start.showAllDecorators
    verbose := (find "verbose").getD start.verbose
    triggerFilename := (find "trigger_filename").getD start.triggerFilename
    outputFilename := (find "output_filename").getD start.outputFilename
    maxWorkers := (find "max_workers").getD start.maxWorkers
    damage := { damage with lost, extras := names.map Prod.fst } }

/-- Sets the sections. -/
def setSections (s : Settings) (value : Value) : Outcome Settings :=
  match sectionWords? value with
  | none => .fail (.fault .wrongKind)
  | some words => .ofExcept ((sectionsOf words).map fun sections =>
      { s with
        sections
        damage := { s.damage with broken := s.damage.broken.filter fun e => e.1 != "sections" } })

/-- Tells that a name is no setting. -/
def warnUnknown (s : Settings) (name : String) : Outcome Settings := do
  Outcome.warn (.unknownSetting name)
  return s

/-- Sets what a name that is no setting stands for. -/
def setOther (processors : Option Int) (s : Settings) (name : String) (value : Value) :
    Outcome Settings :=
  if name == allName then
    match value with
    | .dict entries => pure (replaceAll processors entries)
    | _ => .fail (.fault .wrongKind)
  else
    match fixedNames.lookup name with
    | some fault => .fail (.fault fault)
    | none =>
      if operations.contains name || name == fieldsName then
        pure { s with damage := s.damage.hide name value }
      else if reservedNames.contains name || s.damage.extras.contains name then pure s
      else s.warnUnknown name

/-- Sets what a name stands for. A setting that was lost is no setting any more. -/
def setNamed (processors : Option Int) (s : Settings) (name : String) (value : Value) :
    Outcome Settings :=
  if s.damage.lost.contains name then s.warnUnknown name
  else
    match name with
    | "sections" => s.setSections value
    | "show_all_decorators" => pure { s with showAllDecorators := value }
    | "verbose" => pure { s with verbose := value }
    | "trigger_filename" => pure { s with triggerFilename := value }
    | "output_filename" => pure { s with outputFilename := value }
    | "max_workers" =>
      pure { s with
        maxWorkers := if value.isNull then .int (defaultWorkers processors) else value }
    | name => s.setOther processors name value

/-- Sets what a key stands for. A key has to be a text. -/
def set (processors : Option Int) (s : Settings) (key : Key) (value : Value) : Outcome Settings :=
  match key with
  | .text name => s.setNamed processors name value
  | _ => .fail (.fault .wrongKind)

/-- The settings that a mapping gives, entry by entry, on top of the defaults. -/
def ofMapping (processors : Option Int) (mapping : Mapping) : Outcome Settings :=
  mapping.foldlM (fun s e => s.set processors e.1 e.2) (Settings.default processors)

/-! ## Views -/

/-- Fails if what a name stands for cannot be used. -/
def needs (s : Settings) (name : String) : Except Failure Unit :=
  if s.damage.lost.contains name then .error (.fault .noSuchPart)
  else
    match s.damage.broken.lookup name with
    | some fault => .error (.fault fault)
    | none => .ok ()

/-- The settings as a mapping, in the order of their fields. -/
def mapping (s : Settings) : Mapping :=
  let sections := (.text "sections", .list (s.sections.map fun x => .text x.identifier))
  if s.damage.bare then [sections]
  else
    [sections, (.text "show_all_decorators", s.showAllDecorators), (.text "verbose", s.verbose),
     (.text "trigger_filename", s.triggerFilename), (.text "output_filename", s.outputFilename),
     (.text "max_workers", s.maxWorkers)]

/-- How many collections may stand inside of each other in a setting that is copied. -/
def copyDepth : Nat := 488

/-- Fails if settings cannot be copied: one is lost, or its value has no end. -/
def checkCopy (s : Settings) : Except Failure Unit := do
  let check (value : Value) : Except Failure Unit :=
    if value.fits copyDepth then .ok () else .error (.fault .tooDeep)
  if s.damage.lost.contains "sections" then s.needs "sections"
  check s.showAllDecorators
  check s.verbose
  check s.triggerFilename
  check s.outputFilename
  s.needs "max_workers"
  check s.maxWorkers

/-- The settings as a mapping, if they can be used so. -/
def toMapping (s : Settings) : Except Failure Mapping := do
  s.needs "to_dict"
  s.needs fieldsName
  if !s.damage.bare then s.checkCopy
  s.needs "sections"
  return s.mapping

/-- A value in the summary. -/
def summaryValue (value : Value) : Except Failure String :=
  value.display.mapError .fault

/-- One line for each setting, under a heading, if they can be shown. -/
def summary (s : Settings) : Except Failure String := do
  s.needs "get_config_summary"
  s.needs "sections"
  let decorators ← summaryValue s.showAllDecorators
  let verbose ← summaryValue s.verbose
  let trigger ← summaryValue s.triggerFilename
  let output ← summaryValue s.outputFilename
  s.needs "max_workers"
  let workers ← summaryValue s.maxWorkers
  return Text.join "\n"
    ["bicep-docs Configuration Summary:",
     "  - Sections: " ++ Text.join ", " (s.sections.map Section.identifier),
     "  - Show all decorators: " ++ decorators,
     "  - Verbose: " ++ verbose,
     "  - Trigger filename: " ++ trigger,
     "  - Output filename: " ++ output,
     "  - Max workers: " ++ workers,
     ""]

end Settings

end TemplateDocs
