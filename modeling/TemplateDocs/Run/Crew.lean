import TemplateDocs.Run.Generate

/-!
# Documenting a folder with several workers

The templates of a folder are handed over to workers while the folder is still being walked. For each
of them a permit is taken first, which its worker gives back at the end, so that only so many are under
way at once. Nothing is handed over once a failure has been flagged, and in the end all workers are
waited for.

A turn is one step of the loop that walks and hands over, or of one worker; any order of turns is a
schedule.
-/

namespace TemplateDocs

namespace Generate

/-! ## The work on one template -/

/-- How far the work on a job has come. -/
inductive Work where
  | begun
  /-- Compiled, to a product of that name. -/
  | built (product : String)
  | parsed (t : Template)
  /-- Rendered to a text that the document does not hold yet; it may be there or not. -/
  | compared (text : String) (there : Bool)
  deriving Inhabited

/-- Parses a template from its source and its product, and removes the product. -/
def take (c : Compiler) (source product : String) : Run Template :=
  Run.andFinally
    (do
      let w ← get
      .ofOutcome (Template.parse source (w.files.read source) (c.productPath product)
        (w.readTemporary product)))
    fun w => w.dropTemporary (c.productPath product) product

/-- Renders a template and compares the document with the text: the text and whether the document is
there, unless it holds the text already. -/
def inspect (s : Settings) (target : String) (t : Template) : Run (Option (String × Bool)) := do
  let text := Tree.withLineFeeds (← .ofExcept (page s t))
  let w ← get
  let (there, same) ← .ofExcept (w.files.compare target text none w.disk)
  return if same then none else some (text, there)

/-- Writes the text of a document that was compared. -/
def write (target text : String) (there : Bool) : Run SyncStatus := do
  let w ← get
  let (written, files) := w.files.writeText (Path.ofString target) text w.disk
  modify fun w => { w with files }
  .ofExcept (written.map fun _ => if there then .updated else .created)

/-- The next step of the work on a job, which may be the last. -/
def advance (c : Compiler) (s : Settings) (job : Job) : Work → Run (Work ⊕ SyncStatus)
  | .begun => return .inl (.built (← c.build job.source.text))
  | .built product => return .inl (.parsed (← take c job.source.text product))
  | .parsed t => return match ← inspect s job.target.text t with
    | none => .inr .unchanged
    | some (text, there) => .inl (.compared text there)
  | .compared text there => return .inr (← write job.target.text text there)

end Generate

open Generate

/-- The workers for a folder, and what they go by. -/
structure Crew where
  compiler : Compiler
  settings : Settings
  /-- The folder. -/
  top : String
  /-- The name of the sources. -/
  trigger : String
  /-- Where the document of a source is, from the folder of the source. -/
  output : Path
  /-- How many permits there are, and how many threads. -/
  size : Nat

namespace Crew

/-- The crew that settings ask for, if they give a number of workers and the two names. -/
def ofSettings? (c : Compiler) (s : Settings) (top : Path) : Option Crew :=
  match s.needs "max_workers", s.maxWorkers, s.triggerFilename, s.outputFilename with
  | .ok _, .int size, .text trigger, .text output =>
    if 0 < size then
      some { compiler := c, settings := s, top := top.text, trigger, output := .ofString output,
             size := size.toNat }
    else none
  | _, _, _, _ => none

/-- The job of a source. -/
def job (crew : Crew) (source : Path) : Job :=
  { source, target := source.parent.join crew.output }

/-! ## States -/

/-- Where a worker is. From the moment it is known, what the work ended in is kept. -/
inductive Stage where
  /-- Handed over, but not begun. -/
  | queued
  | working (work : Work)
  /-- Done, but not recorded. -/
  | recording (ending : Except Failure SyncStatus)
  /-- Recorded as a result, which the caller has not been told. -/
  | telling (status : SyncStatus)
  /-- Recorded as an error, which has not been flagged. -/
  | flagging (e : Failure)
  /-- Done but for the permit. -/
  | releasing (ending : Except Failure SyncStatus)
  /-- Without a permit, but still on its thread. -/
  | leaving (ending : Except Failure SyncStatus)
  | ended (ending : Except Failure SyncStatus)
  deriving Inhabited

/-- A worker and its job. -/
structure Worker where
  job : Job
  stage : Stage := .queued
  deriving Inhabited

/-- What the loop and the workers share. -/
structure Shared where
  world : World
  /-- The permits that are free. -/
  permits : Nat
  /-- Whether a permit was given back beyond the number of permits. -/
  excess : Bool := false
  failed : Bool := false
  results : List Synced := []
  errors : List Failure := []

/-- Where the loop is. -/
inductive Loop where
  | walking
  /-- Waiting for a permit for a source. -/
  | asking (source : Path)
  /-- With a permit, before looking at the flag. -/
  | checking (source : Path)
  /-- About to hand a source over. -/
  | handing (source : Path)
  /-- About to give the permit back, because of a failure. -/
  | breaking
  /-- Waiting for all workers to end. -/
  | waiting
  | finished
  deriving DecidableEq, Inhabited

/-- The whole state of a run. -/
structure State where
  shared : Shared
  loop : Loop := .walking
  /-- The folders that the walk has still to visit, by their places. -/
  unvisited : List (List String) := [[]]
  /-- The workers in the order in which they were handed their jobs. -/
  workers : List Worker := []
  /-- Why the walk ended early. -/
  walkError : Option Failure := none

/-- The state before the first turn. -/
def start (crew : Crew) (w : World) : State :=
  { shared := { world := w, permits := crew.size } }

/-! ## Turns -/

/-- Gives a permit back. -/
def release (crew : Crew) (shared : Shared) : Shared :=
  if shared.permits < crew.size then { shared with permits := shared.permits + 1 }
  else { shared with excess := true }

/-- Whether a stage takes up a thread. -/
def Stage.isBusy : Stage → Bool
  | queued | ended _ => false
  | _ => true

/-- How many threads are taken up. -/
def busy (workers : List Worker) : Nat :=
  workers.countP fun worker => worker.stage.isBusy

/-- The stage after a step of the work. -/
def Stage.after : Except Failure (Work ⊕ SyncStatus) → Stage
  | .ok (.inl work) => working work
  | .ok (.inr status) => recording (.ok status)
  | .error e => recording (.error e)

/-- The next step of a worker. One that is queued needs a free thread. -/
def workerStep (crew : Crew) (free : Bool) (worker : Worker) (shared : Shared) :
    Option (Stage × Shared) :=
  let result (status : SyncStatus) : Synced := { path := worker.job.target.text, status }
  match worker.stage with
  | .queued => if free then some (.working .begun, shared) else none
  | .working work =>
    let part := Run.processing worker.job.source.text
      (advance crew.compiler crew.settings worker.job work)
    let (r, world) := part.run.run shared.world
    some (.after r, { shared with world })
  | .recording (.ok status) =>
    some (.telling status, { shared with results := shared.results ++ [result status] })
  | .recording (.error e) => some (.flagging e, { shared with errors := shared.errors ++ [e] })
  | .telling status =>
    let world := { shared.world with synced := shared.world.synced ++ [result status] }
    some (.releasing (.ok status), { shared with world })
  | .flagging e => some (.releasing (.error e), { shared with failed := true })
  | .releasing ending => some (.leaving ending, crew.release shared)
  | .leaving ending => some (.ended ending, shared)
  | .ended _ => none

/-- Whether all workers have ended. -/
def allEnded (workers : List Worker) : Bool :=
  workers.all fun worker => match worker.stage with
    | .ended _ => true
    | _ => false

/-- The next step of the walk: a folder is visited, or none is left. -/
def walkStep (crew : Crew) (st : State) : State :=
  match st.unvisited with
  | [] => { st with loop := .waiting }
  | place :: rest =>
    match st.shared.world.files.visit crew.top crew.trigger place with
    | .error e => { st with loop := .waiting, walkError := some e }
    | .ok (here, names) =>
      let source := (Path.ofString crew.top).below (place ++ [crew.trigger])
      { st with
        loop := if here then .asking source else .walking
        unvisited := names.map (fun name => place ++ [name]) ++ rest }

/-- The next step of the loop. -/
def loopStep (crew : Crew) (st : State) : Option State :=
  match st.loop with
  | .walking => some (crew.walkStep st)
  | .asking source =>
    if st.shared.permits = 0 then none
    else some { st with
      shared := { st.shared with permits := st.shared.permits - 1 }
      loop := .checking source }
  | .checking source =>
    some { st with loop := if st.shared.failed then .breaking else .handing source }
  | .handing source =>
    some { st with loop := .walking, workers := st.workers ++ [{ job := crew.job source }] }
  | .breaking => some { st with shared := crew.release st.shared, loop := .waiting }
  | .waiting => if allEnded st.workers then some { st with loop := .finished } else none
  | .finished => none

/-- Whose turn it is. -/
inductive Turn where
  | loop
  /-- The worker with that number. -/
  | worker (number : Nat)
  deriving DecidableEq, Repr, Inhabited

/-- One turn, if it can be taken. -/
def step (crew : Crew) (st : State) : Turn → Option State
  | .loop => crew.loopStep st
  | .worker number =>
    match st.workers[number]? with
    | none => none
    | some worker =>
      (crew.workerStep (busy st.workers < crew.size) worker st.shared).map fun (stage, shared) =>
        { st with shared, workers := st.workers.set number { worker with stage } }

/-- The state after a schedule, if all of its turns can be taken. -/
def run (crew : Crew) (turns : List Turn) (st : State) : Option State :=
  turns.foldlM crew.step st

/-- What a finished run ends in: the error of the walk, the error that was recorded first, or the
results in order, unless they have none. -/
def State.outcome? (st : State) : Option (Except Failure (List Synced)) :=
  match st.loop with
  | .finished => some (match st.walkError, st.shared.errors with
    | some e, _ => .error e
    | none, e :: _ => .error e
    | none, [] => inOrder st.shared.results)
  | _ => none

end Crew

end TemplateDocs
