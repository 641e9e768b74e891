import TemplateDocs.Files.Walk
import TemplateDocs.Page.Document
import TemplateDocs.Run.Compiler
import TemplateDocs.Settings.Basic
import TemplateDocs.Template.Parse

/-!
# Generating documents

A run documents one template, or every template in and below a folder. Those of a folder are taken in
the order of the walk, and nothing is begun after the first failure.
-/

namespace TemplateDocs

/-- A template's source and the document about it. -/
structure Job where
  source : Path
  target : Path
  deriving DecidableEq, Repr, Inhabited

namespace Generate

/-- The report on an input that is not there. -/
def noSuchInput (input : String) : Report :=
  { category := .input, message := "no such file or directory \"" ++ input ++ "\"" }

/-- Compiles and parses a template. -/
def parse (c : Compiler) (source : String) : Run Template :=
  c.withProduct source fun name => do
    let w ← get
    .ofOutcome (Template.parse source (w.files.read source) (c.productPath name)
      (w.readTemporary name))

/-- The document of a template under the settings. -/
def page (s : Settings) (t : Template) : Except Failure String := do
  s.needs "sections"
  Page.document t (s.sections.map .known) s.showAllDecorators.truthy

/-- Renders a template and brings the document in step. -/
def document (s : Settings) (target : String) (t : Template) : Run SyncStatus := do
  let text ← .ofExcept (page s t)
  let w ← get
  let (status, files) := w.files.sync target text none w.disk
  modify fun w => { w with files }
  .ofExcept status

/-- Documents one template. -/
def one (c : Compiler) (s : Settings) (job : Job) : Run Synced := do
  let source := job.source.text
  let path := job.target.text
  let status ← Run.processing source do document s path (← parse c source)
  let result : Synced := { path, status }
  modify fun w => { w with synced := w.synced ++ [result] }
  return result

/-- Documents templates one after the other. -/
def all (c : Compiler) (s : Settings) (jobs : List Job) : Run (List Synced) :=
  jobs.mapM (one c s)

/-! ## Inputs -/

/-- The document's file name, which has to be a text. -/
def targetName (s : Settings) : Except Failure Path :=
  match s.outputFilename with
  | .text name => .ok (.ofString name)
  | _ => .error (.fault .wrongKind)

/-- Checks that there can be so many workers. -/
def checkWorkers (value : Value) : Except Failure Unit :=
  match value with
  | .bool b => if b then .ok () else .error (.fault .wrongValue)
  | .int n => if 0 < n then .ok () else .error (.fault .wrongValue)
  | .float x =>
    if x.isNegative || x.isZero then .error (.fault .wrongValue) else .ok ()
  | _ => .error (.fault .wrongKind)

/-- Whether the number of workers compares with no number, so that no worker is ever begun. -/
def isIdle : Value → Bool
  | .float .notANumber => true
  | _ => false

/-- The jobs of a folder: each file of the trigger's name, with its document next to it. -/
def jobs (s : Settings) (files : Tree) (folder : String) : Except Failure (List Job) := do
  let sources ← match s.triggerFilename with
    | .text name => files.walk folder name
    | _ => pure []
  if sources.isEmpty then return []
  let name ← targetName s
  return sources.map fun source => { source, target := source.parent.join name }

/-- Whether two results are of one path and tell different things about it. -/
def clash (a b : Synced) : Bool :=
  a.path == b.path && a.status != b.status

/-- Results in the order of their paths. Results of one path are sorted by their statuses, which have no
order; in whatever way it is sorted, two of them that clash are compared. -/
def inOrder (results : List Synced) : Except Failure (List Synced) :=
  if results.any fun a => results.any (clash a) then .error (.fault .wrongKind)
  else .ok (sortByName Synced.path results)

/-- Documents every template in and below a folder. -/
def folder (c : Compiler) (s : Settings) (path : Path) : Run (List Synced) := do
  .ofExcept (s.needs "max_workers")
  .ofExcept (checkWorkers s.maxWorkers)
  let jobs ← .ofExcept (jobs s (← get).files path.text)
  if isIdle s.maxWorkers then return []
  .ofExcept (inOrder (← all c s jobs))

/-- The job of a single template. An empty output counts as none. -/
def singleJob (s : Settings) (source : Path) (output : Option String) : Except Failure Job :=
  match output.filter (· != "") with
  | some name => .ok { source, target := .ofString name }
  | none => (targetName s).map fun name => { source, target := source.parent.join name }

/-- Documents what an input names. The output is used only for a single template. -/
def run (c : Compiler) (s : Settings) (input : String) (output : Option String) :
    Run (List Synced) := do
  let path := Path.ofString input
  match (← get).files.probe path.text with
  | .error _ => throw (.fault .system)
  | .ok none => Run.report (noSuchInput input)
  | .ok (some (.folder _)) => folder c s path
  | .ok (some (.file _)) =>
    let job ← .ofExcept (singleJob s path output)
    return [← one c s job]

end Generate

end TemplateDocs
