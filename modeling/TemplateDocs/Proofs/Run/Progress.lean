import TemplateDocs.Proofs.Run.Sources

/-! # Every schedule ends

A run that is not finished has a turn that can be taken, and every turn leaves fewer to be taken, so
that every schedule leads to a finished run.
-/

namespace TemplateDocs

open Generate List

/-! ## Something can be done -/

namespace Crew

/-- Only a worker that is queued or has ended may have no step. -/
theorem workerStep_of_isBusy {crew : Crew} {worker : Worker} (h : worker.stage.isBusy = true)
    (free : Bool) (shared : Shared) : ∃ next, crew.workerStep free worker shared = some next := by
  obtain ⟨job, stage⟩ := worker
  cases stage with
  | queued | ended => cases h
  | recording ending => cases ending <;> exact ⟨_, rfl⟩
  | working | telling | flagging | releasing | leaving => exact ⟨_, rfl⟩

theorem step_of_workerStep {crew : Crew} {st : State} {worker : Worker} {next : Stage × Shared}
    (hworker : worker ∈ st.workers)
    (h : crew.workerStep (busy st.workers < crew.size) worker st.shared = some next) :
    ∃ turn st', crew.step st turn = some st' := by
  obtain ⟨number, hnumber⟩ := List.getElem?_of_mem hworker
  refine ⟨.worker number, Option.isSome_iff_exists.mp ?_⟩
  simp only [step, hnumber, h, Option.map_some, Option.isSome_some]

/-- While a worker has not ended, one of the workers can take a turn. -/
theorem exists_turn_of_worker {crew : Crew} {st : State} {worker : Worker} (hsize : 0 < crew.size)
    (hworker : worker ∈ st.workers) (hstage : ∀ ending, worker.stage ≠ .ended ending) :
    ∃ turn st', crew.step st turn = some st' := by
  by_cases hbusy : ∃ other ∈ st.workers, other.stage.isBusy = true
  · obtain ⟨other, hother, hbusy⟩ := hbusy
    obtain ⟨next, hnext⟩ := workerStep_of_isBusy hbusy (busy st.workers < crew.size) st.shared
    exact step_of_workerStep hother hnext
  · -- no thread is taken up, so that a queued worker can begin
    have hidle : busy st.workers = 0 := by
      rw [busy, List.countP_eq_zero]
      exact fun other hother hother' => hbusy ⟨other, hother, hother'⟩
    have hqueued : worker.stage = .queued := by
      cases hcase : worker.stage with
      | queued => rfl
      | ended ending => exact absurd hcase (hstage ending)
      | working | recording | telling | flagging | releasing | leaving =>
          exact absurd ⟨worker, hworker, by rw [hcase]; rfl⟩ hbusy
    have hfree : crew.workerStep (busy st.workers < crew.size) worker st.shared =
        some (.working .begun, st.shared) := by
      simp [workerStep, hqueued, hidle, hsize]
    exact step_of_workerStep hworker hfree

/-- A run that is not finished goes on. -/
theorem exists_turn_of_run {crew : Crew} {w : World} {turns : List Turn} {st : State}
    (hsize : 0 < crew.size) (h : crew.run turns (crew.start w) = some st)
    (hloop : st.loop ≠ .finished) : ∃ turn st', crew.step st turn = some st' := by
  have hturn : (crew.loopStep st).isSome → ∃ turn st', crew.step st turn = some st' :=
    fun hstep => ⟨.loop, Option.isSome_iff_exists.mp hstep⟩
  cases hcase : st.loop with
  | walking | checking | handing | breaking => exact hturn (by simp [loopStep, hcase])
  | finished => exact absurd hcase hloop
  | asking source =>
      by_cases hpermits : st.shared.permits = 0
      · -- all permits are with workers
        have htotal := (balanced_of_run h).total
        rw [hpermits, hcase] at htotal
        have hpos : 0 < unfinished st.workers := by
          simp only [Loop.held] at htotal
          omega
        obtain ⟨worker, hworker, hpermit⟩ := List.countP_pos_iff.mp hpos
        refine exists_turn_of_worker hsize hworker fun ending hending => ?_
        rw [hending] at hpermit
        cases hpermit
      · exact hturn (by simp [loopStep, hcase, hpermits])
  | waiting =>
      by_cases hended : allEnded st.workers = true
      · exact hturn (by simp [loopStep, hcase, hended])
      · rw [allEnded_iff] at hended
        push Not at hended
        obtain ⟨worker, hworker, hstage⟩ := hended
        exact exists_turn_of_worker hsize hworker hstage

end Crew

/-! ## How much there is left to do -/

/-- How many steps of the work are left at most. -/
def Generate.Work.left : Work → Nat
  | begun => 4
  | built _ => 3
  | parsed _ => 2
  | compared _ _ => 1

theorem Generate.Work.left_pos (work : Work) : 0 < work.left := by
  cases work <;> simp [left]

/-- Every step of the work leaves less. -/
theorem Generate.left_of_advance {c : Compiler} {s : Settings} {job : Job} {work next : Work}
    {w after : World} (h : (advance c s job work).run.run w = (.ok (.inl next), after)) :
    next.left < work.left := by
  cases work with
  | begun =>
      rw [advance_begun_run] at h
      split at h <;> cases h
      simp [Work.left]
  | built product =>
      rw [advance_built_run] at h
      split at h <;> cases h
      simp [Work.left]
  | parsed t =>
      rw [advance_parsed_run] at h
      split at h <;> cases h
      simp [Work.left]
  | compared text there =>
      rw [advance_compared_run] at h
      rcases hwrite : w.files.writeText (Path.ofString job.target.text) text w.disk with ⟨e | done, _⟩ <;>
        · rw [hwrite] at h
          cases h

namespace Crew

/-- How many turns of a worker are left at most. -/
def Stage.left : Stage → Nat
  | queued => 9
  | working work => work.left + 4
  | recording _ => 4
  | telling _ | flagging _ => 3
  | releasing _ => 2
  | leaving _ => 1
  | ended _ => 0

/-- How many turns of the loop are left at most until the next folder, those of the worker included to
which a source will be handed over. -/
def Loop.left : Loop → Nat
  | asking _ => 14
  | checking _ => 13
  | handing _ => 12
  | walking | breaking => 2
  | waiting => 1
  | finished => 0

/-- How many folders there are in and below a place, which leads down from the folder of a run. -/
def foldersAt (above : List String) (t : Tree) (place : List String) : Nat :=
  Node.folderCount ((t.at? (above ++ place)).getD .empty)

/-- How many turns are left at most: for each folder one to visit it, three to hand its source over, and
nine of the worker. -/
def State.left (above : List String) (t : Tree) (st : State) : Nat :=
  13 * (st.unvisited.map (foldersAt above t)).sum + st.loop.left +
    (st.workers.map fun worker => worker.stage.left).sum

theorem Moves.left_lt {crew : Crew} {free : Bool} {job : Job} {stage stage' : Stage}
    {shared shared' : Shared} (h : Moves crew free job stage shared stage' shared') :
    stage'.left < stage.left := by
  cases h with
  | @work shared work r world hrun =>
      rw [Run.processing_run] at hrun
      rcases hadvance : (advance crew.compiler crew.settings job work).run.run shared.world with
        ⟨e | next | status, after⟩ <;> rw [hadvance] at hrun <;> cases hrun
      · simpa [Except.mapError, Stage.after, Stage.left] using work.left_pos
      · have hnext := left_of_advance hadvance
        simpa only [Except.mapError, Stage.after, Stage.left, Nat.add_lt_add_iff_right] using hnext
      · simpa [Except.mapError, Stage.after, Stage.left] using work.left_pos
  | begin | recordResult | recordError | tell | flag | release | leave =>
      simp only [Stage.left, Work.left, Nat.reduceAdd, Nat.reduceLT]

/-- What is left to a list of workers after one of them has moved. -/
theorem sum_left_set {workers : List Worker} {number : Nat} {worker : Worker} {stage : Stage}
    (h : workers[number]? = some worker) (hlt : stage.left < worker.stage.left) :
    ((workers.set number { worker with stage }).map fun worker => worker.stage.left).sum <
      (workers.map fun worker => worker.stage.left).sum := by
  induction workers generalizing number with
  | nil => cases h
  | cons first workers ih =>
      cases number with
      | zero =>
          cases h
          simpa using hlt
      | succ number =>
          have hrest := ih (by simpa using h)
          simpa using hrest

section Steps

variable {crew : Crew} {above : List String} {t : Tree} {st st' : State}

theorem foldersAt_eq (hproper : t.top.Proper) {place : List String} {entries : List (String × Node)}
    (hplace : t.at? (above ++ place) = some (.folder entries)) :
    foldersAt above t place =
      (((Node.folderNames entries).map fun name => place ++ [name]).map (foldersAt above t)).sum + 1 := by
  have hinner : ∀ name, foldersAt above t (place ++ [name]) =
      Node.folderCount ((entryOf? name entries).getD .empty) := by
    intro name
    rw [foldersAt, ← List.append_assoc, Tree.at?_concat hplace]
  rw [foldersAt, hplace, Option.getD_some, (hproper.at? hplace).folderCount_eq, List.map_map]
  simp only [Function.comp_def, hinner]

theorem Found.left_lt_of_loop (h : Found crew above t st) (hproper : t.top.Proper)
    (htop : t.locate crew.top = .ok above) (hmove : LoopMoves crew st st') :
    st'.left above t < st.left above t := by
  cases hmove with
  | walk hloop =>
      rcases h.walkStep_cases htop with
        ⟨-, hstep⟩ | ⟨place, rest, entries, here, hplaces, hplace, -, hstep⟩
      · rw [hstep]
        simp only [State.left, hloop, Loop.left]
        omega
      · have hcount := foldersAt_eq hproper hplace
        rw [hstep]
        simp only [State.left, hloop, hplaces, List.map_append, List.sum_append, List.map_cons,
          List.sum_cons]
        cases here with
        | true =>
            simp only [if_true, Loop.left]
            omega
        | false =>
            simp only [Bool.false_eq_true, if_false, Loop.left]
            omega
  | hand hloop =>
      simp only [State.left, hloop, Loop.left, List.map_append, List.map_singleton, List.sum_append,
        List.sum_singleton, Stage.left]
      omega
  | ask hloop | refuse hloop | accept hloop | «break» hloop | finish hloop =>
      simp only [State.left, hloop, Loop.left]
      omega

/-- A schedule takes no more turns than were left at the start. -/
theorem length_add_left_le {w : World} {turns : List Turn} (hproper : w.files.top.Proper)
    (htop : w.files.locate crew.top = .ok above) (hfolder : w.files.IsFolderAt above)
    (h : crew.run turns (crew.start w) = some st) :
    turns.length + st.left above w.files ≤ (crew.start w).left above w.files := by
  refine run_induction (P := fun turns st =>
    turns.length + st.left above w.files ≤ (crew.start w).left above w.files) (by simp) ?_ h
  intro turns st turn st' hrun ih hstep
  have hless : st'.left above w.files < st.left above w.files := by
    rcases step_cases hstep with ⟨-, hmove⟩ | ⟨number, worker, stage, shared, -, hworker, hmove, rfl⟩
    · exact (found_of_run hproper htop hfolder hrun).left_lt_of_loop hproper htop hmove
    · have hsum := sum_left_set hworker hmove.left_lt
      simp only [State.left]
      omega
  rw [List.length_append, List.length_singleton]
  omega

end Steps

end Crew

end TemplateDocs
