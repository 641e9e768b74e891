import TemplateDocs.CommandLine.Console
import TemplateDocs.CommandLine.Options
import TemplateDocs.CommandLine.Selection
import TemplateDocs.Run.Generate
import TemplateDocs.Settings.File

/-!
# The program

From the arguments to the exit code: the options are read, the settings are loaded, the documents are
generated, and what became of them is told.
-/

namespace TemplateDocs.Program

/-- The name of the program. -/
def name : String := "bicep-docs"

/-- The version of the program. -/
def version : String := "0.1.0"

/-- What the program is started with, besides its arguments. -/
structure Surroundings where
  compiler : Compiler
  yaml : Settings.YamlLibrary
  printer : Printer
  environment : Settings.Environment := []
  processors : Option Int := none

/-- What a run of the program leaves behind. -/
structure Ended where
  /-- The exit code, or a fault that ended the program. -/
  exit : Except Failure Nat
  console : Console
  world : World

/-- The settings that options override. -/
def overrides (o : Options) (sections : Option (List Section)) : Mapping :=
  let given (b : Bool) : Value := if b then .bool true else .null
  let names (s : List Section) : Value := .list (s.map .choice)
  [(.text "sections", (sections.map names).getD .null), (.text "verbose", given o.verbose),
   (.text "show_all_decorators", given o.showAllDecorators)]

/-- Loads the settings that options ask for. -/
def settings (s : Surroundings) (o : Options) : Run Settings := do
  let sections ← .ofExcept
    ((Selection.resolve o.includeSections o.excludeSections).mapError .reported)
  let sources : Settings.Sources :=
    { yaml := s.yaml
      files := (← get).files
      environment := s.environment
      processors := s.processors
      file := o.config
      overrides := overrides o sections }
  let found ← .ofOutcome sources.load
  let _ ← .ofExcept found.summary
  return found

/-- Tells what became of a document. -/
def tell (printer : Printer) (c : Console) (d : Synced) : Console :=
  let tone : Tone := if d.status == .unchanged then .info else .success
  c.say printer tone (d.status.message d.path)

/-- Generates the documents of an input, and tells about them if the settings ask for it. -/
def generate (s : Surroundings) (o : Options) (input : String) (found : Settings) (c : Console)
    (w : World) : Ended :=
  let (result, w) := (Generate.run s.compiler found input o.output).run.run w
  let verbose := found.verbose.truthy
  let console := if verbose then w.synced.foldl (tell s.printer) c else c
  match result with
  | .error e => { exit := .error e, console, world := w }
  | .ok documents =>
    if verbose && documents.isEmpty then
      match found.triggerFilename.display with
      | .error fault => { exit := .error (.fault fault), console, world := w }
      | .ok trigger =>
        let missing := "No " ++ trigger ++ " files found under " ++ input
        { exit := .ok 0, console := console.say s.printer .warning missing, world := w }
    else { exit := .ok 0, console, world := w }

/-- A reported failure is told and ends in exit code 1. -/
def settle (printer : Printer) (e : Ended) : Ended :=
  match e.exit with
  | .error (.reported report) =>
    { e with exit := .ok 1, console := e.console.say printer .error ("Error: " ++ report.text) }
  | _ => e

/-- Runs with options. -/
def runOptions (s : Surroundings) (o : Options) (w : World) : Ended :=
  let console : Console := { symbols := !o.noRich }
  settle s.printer <|
    match (settings s o).run.run w with
    | (.error e, w) => { exit := .error e, console, world := w }
    | (.ok found, w) =>
      match o.input with
      | some input => generate s o input found console w
      | none => { exit := .error (.fault .wrongKind), console, world := w }

/-- The line that names all options. -/
def usage : String :=
  "usage: " ++ name ++ " [" ++ Text.join "] [" (Opt.spellings.map Prod.fst) ++ "]\n"

/-- Runs the program. -/
def run (s : Surroundings) (arguments : List String) (w : World) : Ended :=
  match Options.ofArguments arguments with
  | .ok o => runOptions s o w
  | .error .help => { exit := .ok 0, console := { out := usage }, world := w }
  | .error .version =>
    { exit := .ok 0, console := { out := name ++ " " ++ version ++ "\n" }, world := w }
  | .error (.wrong e) =>
    { exit := .ok 2, console := { err := name ++ ": error: " ++ e.message ++ "\n" }, world := w }

end TemplateDocs.Program
