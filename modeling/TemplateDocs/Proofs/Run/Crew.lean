import Mathlib.Data.List.Basic
import TemplateDocs.Proofs.Run.Files
import TemplateDocs.Run.Crew

/-! # Permits, records and the first error of a crew

Whatever the schedule: no permit is lost or made, every worker is recorded once, and a finished run
ends in the error that was recorded first, if any was.
-/

namespace TemplateDocs.Crew

open Generate List

/-! ## What a turn can do -/

/-- The moves of a worker with a job: from a stage to the next, and what that does to the rest. -/
inductive Moves (crew : Crew) (free : Bool) (job : Job) : Stage → Shared → Stage → Shared → Prop
  | begin {shared} (hfree : free = true) : Moves crew free job .queued shared (.working .begun) shared
  | work {shared work r world}
      (h : (Run.processing job.source.text
        (advance crew.compiler crew.settings job work)).run.run shared.world = (r, world)) :
      Moves crew free job (.working work) shared (.after r) { shared with world }
  | recordResult {shared status} :
      Moves crew free job (.recording (.ok status)) shared (.telling status)
        { shared with results := shared.results ++ [{ path := job.target.text, status }] }
  | recordError {shared e} :
      Moves crew free job (.recording (.error e)) shared (.flagging e)
        { shared with errors := shared.errors ++ [e] }
  | tell {shared status world}
      (h : world = { shared.world with
        synced := shared.world.synced ++ [{ path := job.target.text, status }] }) :
      Moves crew free job (.telling status) shared (.releasing (.ok status)) { shared with world }
  | flag {shared e} :
      Moves crew free job (.flagging e) shared (.releasing (.error e)) { shared with failed := true }
  | release {shared ending} :
      Moves crew free job (.releasing ending) shared (.leaving ending) (crew.release shared)
  | leave {shared ending} :
      Moves crew free job (.leaving ending) shared (.ended ending) shared

theorem moves_of_workerStep {crew : Crew} {free : Bool} {worker : Worker} {shared shared' : Shared}
    {stage : Stage} (h : crew.workerStep free worker shared = some (stage, shared')) :
    Moves crew free worker.job worker.stage shared stage shared' := by
  obtain ⟨job, before⟩ := worker
  cases before with
  | queued =>
      simp only [workerStep] at h
      split at h
      · rename_i hfree
        cases h
        exact .begin hfree
      · cases h
  | working work =>
      cases h
      exact .work rfl
  | recording ending =>
      cases ending with
      | ok status =>
          cases h
          exact .recordResult
      | error e =>
          cases h
          exact .recordError
  | telling status =>
      cases h
      exact .tell rfl
  | flagging e =>
      cases h
      exact .flag
  | releasing ending =>
      cases h
      exact .release
  | leaving ending =>
      cases h
      exact .leave
  | ended ending => cases h

/-- The moves of the loop. -/
inductive LoopMoves (crew : Crew) : State → State → Prop
  | walk {st} (hloop : st.loop = .walking) : LoopMoves crew st (crew.walkStep st)
  | ask {st source} (hloop : st.loop = .asking source) (hfree : st.shared.permits ≠ 0) :
      LoopMoves crew st { st with
        shared := { st.shared with permits := st.shared.permits - 1 }
        loop := .checking source }
  | refuse {st source} (hloop : st.loop = .checking source) (hfailed : st.shared.failed = true) :
      LoopMoves crew st { st with loop := .breaking }
  | accept {st source} (hloop : st.loop = .checking source) (hfailed : st.shared.failed = false) :
      LoopMoves crew st { st with loop := .handing source }
  | hand {st source} (hloop : st.loop = .handing source) :
      LoopMoves crew st { st with
        loop := .walking
        workers := st.workers ++ [{ job := crew.job source }] }
  | break {st} (hloop : st.loop = .breaking) :
      LoopMoves crew st { st with shared := crew.release st.shared, loop := .waiting }
  | finish {st} (hloop : st.loop = .waiting) (hended : allEnded st.workers = true) :
      LoopMoves crew st { st with loop := .finished }

theorem moves_of_loopStep {crew : Crew} {st st' : State} (h : crew.loopStep st = some st') :
    LoopMoves crew st st' := by
  unfold loopStep at h
  split at h
  case h_1 hloop =>
    cases h
    exact .walk hloop
  case h_2 source hloop =>
    split at h
    · cases h
    · rename_i hfree
      cases h
      exact .ask hloop hfree
  case h_3 source hloop =>
    cases h
    cases hfailed : st.shared.failed with
    | true => exact .refuse hloop hfailed
    | false => exact .accept hloop hfailed
  case h_4 source hloop =>
    cases h
    exact .hand hloop
  case h_5 hloop =>
    cases h
    exact .break hloop
  case h_6 hloop =>
    split at h
    · rename_i hended
      cases h
      exact .finish hloop hended
    · cases h
  case h_7 => cases h

/-- A turn is a move of the loop, or of one worker. -/
theorem step_cases {crew : Crew} {st st' : State} {turn : Turn} (h : crew.step st turn = some st') :
    (turn = .loop ∧ LoopMoves crew st st') ∨
      ∃ number worker stage shared, turn = .worker number ∧ st.workers[number]? = some worker ∧
        Moves crew (busy st.workers < crew.size) worker.job worker.stage st.shared stage shared ∧
        st' = { st with shared, workers := st.workers.set number { worker with stage } } := by
  cases turn with
  | loop => exact .inl ⟨rfl, moves_of_loopStep h⟩
  | worker number =>
      refine .inr ⟨number, ?_⟩
      simp only [step] at h
      cases hworker : st.workers[number]? with
      | none =>
          rw [hworker] at h
          cases h
      | some worker =>
          simp only [hworker, Option.map_eq_some_iff] at h
          obtain ⟨⟨stage, shared⟩, hstep, hst⟩ := h
          exact ⟨worker, stage, shared, rfl, rfl, moves_of_workerStep hstep, hst.symm⟩

@[simp] theorem walkStep_shared (crew : Crew) (st : State) : (crew.walkStep st).shared = st.shared := by
  unfold walkStep
  split
  · rfl
  · split <;> rfl

@[simp] theorem walkStep_workers (crew : Crew) (st : State) :
    (crew.walkStep st).workers = st.workers := by
  unfold walkStep
  split
  · rfl
  · split <;> rfl

/-- A walk goes on, has found a source, or is over. -/
theorem walkStep_loop (crew : Crew) (st : State) :
    (crew.walkStep st).loop = .walking ∨ (∃ source, (crew.walkStep st).loop = .asking source) ∨
      (crew.walkStep st).loop = .waiting := by
  unfold walkStep
  split
  · exact .inr (.inr rfl)
  · split
    · exact .inr (.inr rfl)
    · rename_i here names _
      cases here with
      | true => exact .inr (.inl ⟨_, rfl⟩)
      | false => exact .inl rfl

@[simp] theorem release_results (crew : Crew) (shared : Shared) :
    (crew.release shared).results = shared.results := by
  unfold release
  split <;> rfl

@[simp] theorem release_errors (crew : Crew) (shared : Shared) :
    (crew.release shared).errors = shared.errors := by
  unfold release
  split <;> rfl

@[simp] theorem release_failed (crew : Crew) (shared : Shared) :
    (crew.release shared).failed = shared.failed := by
  unfold release
  split <;> rfl

@[simp] theorem release_world (crew : Crew) (shared : Shared) :
    (crew.release shared).world = shared.world := by
  unfold release
  split <;> rfl

/-! ## Schedules -/

theorem run_append (crew : Crew) (turns more : List Turn) (st : State) :
    crew.run (turns ++ more) st = (crew.run turns st).bind (crew.run more) := by
  unfold run
  rw [List.foldlM_append]
  rfl

theorem run_concat (crew : Crew) (turns : List Turn) (turn : Turn) (st : State) :
    crew.run (turns ++ [turn]) st = (crew.run turns st).bind fun mid => crew.step mid turn := by
  rw [run_append]
  congr 1
  funext mid
  simp [run]

/-- What holds at the start and is kept by every turn holds after every schedule. -/
theorem run_induction {crew : Crew} {w : World} {P : List Turn → State → Prop}
    (hstart : P [] (crew.start w))
    (hstep : ∀ turns st turn st', crew.run turns (crew.start w) = some st → P turns st →
      crew.step st turn = some st' → P (turns ++ [turn]) st')
    {turns : List Turn} {st : State} (h : crew.run turns (crew.start w) = some st) : P turns st := by
  induction turns using List.reverseRecOn generalizing st with
  | nil =>
      cases h
      exact hstart
  | append_singleton turns turn ih =>
      rw [run_concat, Option.bind_eq_some_iff] at h
      obtain ⟨mid, hmid, hturn⟩ := h
      exact hstep turns mid turn st hmid (ih hmid) hturn

/-! ## Permits -/

/-- Whether a worker of that stage has a permit. -/
def Stage.hasPermit : Stage → Bool
  | leaving _ | ended _ => false
  | _ => true

/-- Whether a worker of that stage is at work on its job. -/
def Stage.isWorking : Stage → Bool
  | working _ => true
  | _ => false

/-- How many workers were handed a job and have not given their permit back. -/
def unfinished (workers : List Worker) : Nat :=
  workers.countP fun worker => worker.stage.hasPermit

/-- How many jobs are being worked on. -/
def running (workers : List Worker) : Nat :=
  workers.countP fun worker => worker.stage.isWorking

/-- How many permits the loop has. -/
def Loop.held : Loop → Nat
  | checking _ | handing _ | breaking => 1
  | _ => 0

theorem running_le_unfinished (workers : List Worker) : running workers ≤ unfinished workers := by
  unfold running unfinished
  refine List.countP_mono_left fun worker _ h => ?_
  cases hstage : worker.stage with
  | working work => rfl
  | _ => simp [hstage, Stage.isWorking] at h

/-- The permits of a state add up, and none was given back beyond their number. -/
structure Balanced (crew : Crew) (st : State) : Prop where
  total : st.shared.permits + unfinished st.workers + st.loop.held = crew.size
  inBounds : st.shared.excess = false

theorem hasPermit_after (r : Except Failure (Work ⊕ SyncStatus)) : (Stage.after r).hasPermit = true := by
  rcases r with e | work | status <;> rfl

/-- Only giving a permit back changes who has one. -/
theorem Moves.permits {crew : Crew} {free : Bool} {job : Job} {stage stage' : Stage}
    {shared shared' : Shared} (h : Moves crew free job stage shared stage' shared') :
    (shared'.permits = shared.permits ∧ shared'.excess = shared.excess ∧
        stage'.hasPermit = stage.hasPermit) ∨
      (shared' = crew.release shared ∧ stage.hasPermit = true ∧ stage'.hasPermit = false) := by
  cases h with
  | release => exact .inr ⟨rfl, rfl, rfl⟩
  | work => exact .inl ⟨rfl, rfl, hasPermit_after _⟩
  | begin | recordResult | recordError | tell | flag | leave => exact .inl ⟨rfl, rfl, rfl⟩

theorem release_of_lt {crew : Crew} {shared : Shared} (h : shared.permits < crew.size) :
    crew.release shared = { shared with permits := shared.permits + 1 } :=
  if_pos h

/-- The count of workers of some kind after one of them has changed. -/
theorem countP_set {p : Worker → Bool} {workers : List Worker} {number : Nat} {worker next : Worker}
    (h : workers[number]? = some worker) :
    (workers.set number next).countP p + (if p worker then 1 else 0) =
      workers.countP p + (if p next then 1 else 0) := by
  obtain ⟨hlt, hget⟩ := List.getElem?_eq_some_iff.mp h
  rw [List.countP_set hlt, hget]
  have hpos : p worker = true → 0 < workers.countP p := by
    intro hp
    rw [List.countP_pos_iff]
    exact ⟨worker, hget ▸ List.getElem_mem hlt, hp⟩
  split
  · rename_i hp
    have := hpos hp
    omega
  · omega

theorem map_job_set {workers : List Worker} {number : Nat} {worker : Worker}
    (h : workers[number]? = some worker) (stage : Stage) :
    (workers.set number { worker with stage }).map Worker.job = workers.map Worker.job := by
  obtain ⟨hlt, hget⟩ := List.getElem?_eq_some_iff.mp h
  rw [List.map_set]
  refine List.ext_getElem (by simp) fun i hi hi' => ?_
  rw [List.getElem_set]
  split
  · rename_i hsame
    subst hsame
    simp [hget]
  · rfl

theorem Balanced.loop {crew : Crew} {st st' : State} (h : Balanced crew st)
    (hmove : LoopMoves crew st st') : Balanced crew st' := by
  obtain ⟨htotal, hexcess⟩ := h
  cases hmove with
  | walk hloop =>
      refine ⟨?_, by simpa using hexcess⟩
      rw [hloop] at htotal
      rcases walkStep_loop crew st with hnext | ⟨source, hnext⟩ | hnext <;>
        simpa [hnext, Loop.held] using htotal
  | ask hloop hfree =>
      refine ⟨?_, hexcess⟩
      rw [hloop] at htotal
      simp only [Loop.held] at htotal ⊢
      omega
  | refuse hloop hfailed =>
      rw [hloop] at htotal
      exact ⟨htotal, hexcess⟩
  | accept hloop hfailed =>
      rw [hloop] at htotal
      exact ⟨htotal, hexcess⟩
  | hand hloop =>
      refine ⟨?_, hexcess⟩
      rw [hloop] at htotal
      simp only [Loop.held, unfinished, List.countP_append, List.countP_singleton, Stage.hasPermit,
        if_true] at htotal ⊢
      omega
  | «break» hloop =>
      rw [hloop] at htotal
      simp only [Loop.held] at htotal
      have hlt : st.shared.permits < crew.size := by omega
      rw [release_of_lt hlt]
      refine ⟨?_, hexcess⟩
      simp only [Loop.held]
      omega
  | finish hloop hended =>
      rw [hloop] at htotal
      exact ⟨htotal, hexcess⟩

theorem Balanced.worker {crew : Crew} {free : Bool} {st : State} {number : Nat} {worker : Worker}
    {stage : Stage} {shared : Shared} (h : Balanced crew st)
    (hworker : st.workers[number]? = some worker)
    (hmove : Moves crew free worker.job worker.stage st.shared stage shared) :
    Balanced crew { st with shared, workers := st.workers.set number { worker with stage } } := by
  obtain ⟨htotal, hexcess⟩ := h
  have hcount := @countP_set (fun worker => worker.stage.hasPermit) st.workers number worker
    { worker with stage } hworker
  simp only [unfinished] at htotal
  rcases hmove.permits with ⟨hpermits, hsame, hstage⟩ | ⟨rfl, hbefore, hafter⟩
  · refine ⟨?_, hsame.trans hexcess⟩
    simp only [unfinished, hpermits]
    rw [hstage] at hcount
    omega
  · simp only [hbefore, hafter, if_true, Bool.false_eq_true, if_false] at hcount
    have hlt : st.shared.permits < crew.size := by omega
    rw [release_of_lt hlt]
    refine ⟨?_, hexcess⟩
    simp only [unfinished]
    omega

theorem balanced_of_run {crew : Crew} {w : World} {turns : List Turn} {st : State}
    (h : crew.run turns (crew.start w) = some st) : Balanced crew st := by
  refine run_induction (P := fun _ st => Balanced crew st) ⟨rfl, rfl⟩ ?_ h
  intro turns st turn st' _ hst hstep
  rcases step_cases hstep with ⟨-, hmove⟩ | ⟨number, worker, stage, shared, -, hworker, hmove, rfl⟩
  · exact hst.loop hmove
  · exact hst.worker hworker hmove

/-! ## Records -/

/-- What the work of a stage ended in, once that is recorded. -/
def Stage.recorded? : Stage → Option (Except Failure SyncStatus)
  | telling status => some (.ok status)
  | flagging e => some (.error e)
  | releasing ending | leaving ending | ended ending => some ending
  | _ => none

/-- The result that is recorded for a worker. -/
def Worker.result? (worker : Worker) : Option Synced :=
  match worker.stage.recorded? with
  | some (.ok status) => some { path := worker.job.target.text, status }
  | _ => none

/-- The error that is recorded for a worker. -/
def Worker.error? (worker : Worker) : Option Failure :=
  match worker.stage.recorded? with
  | some (.error e) => some e
  | _ => none

/-- What is recorded is what the workers have ended in, once for each. -/
structure Recorded (st : State) : Prop where
  results : st.shared.results ~ st.workers.filterMap Worker.result?
  errors : st.shared.errors ~ st.workers.filterMap Worker.error?

theorem recorded?_after (r : Except Failure (Work ⊕ SyncStatus)) : (Stage.after r).recorded? = none := by
  rcases r with e | work | status <;> rfl

/-- A move records nothing, or the result of its worker, or the error of its worker. -/
theorem Moves.records {crew : Crew} {free : Bool} {job : Job} {stage stage' : Stage}
    {shared shared' : Shared} (h : Moves crew free job stage shared stage' shared') :
    (stage'.recorded? = stage.recorded? ∧ shared'.results = shared.results ∧
        shared'.errors = shared.errors) ∨
      (∃ status, stage.recorded? = none ∧ stage'.recorded? = some (.ok status) ∧
        shared'.results = shared.results ++ [{ path := job.target.text, status }] ∧
        shared'.errors = shared.errors) ∨
      ∃ e, stage.recorded? = none ∧ stage'.recorded? = some (.error e) ∧
        shared'.results = shared.results ∧ shared'.errors = shared.errors ++ [e] := by
  cases h with
  | recordResult => exact .inr (.inl ⟨_, rfl, rfl, rfl, rfl⟩)
  | recordError => exact .inr (.inr ⟨_, rfl, rfl, rfl, rfl⟩)
  | release => exact .inl ⟨rfl, by simp, by simp⟩
  | work => exact .inl ⟨recorded?_after _, rfl, rfl⟩
  | begin | tell | flag | leave => exact .inl ⟨rfl, rfl, rfl⟩

/-- What the workers have ended in after one of them has changed. -/
theorem filterMap_set_perm {β : Type} {f : Worker → Option β} {workers : List Worker} {number : Nat}
    {worker next : Worker} {new : List β} (h : workers[number]? = some worker)
    (hnew : (f next).toList = (f worker).toList ++ new) :
    (workers.set number next).filterMap f ~ workers.filterMap f ++ new := by
  obtain ⟨hlt, hget⟩ := List.getElem?_eq_some_iff.mp h
  have hset : workers.set number next ~ next :: workers.eraseIdx number :=
    List.set_perm_cons_eraseIdx hlt next
  have hsame : worker :: workers.eraseIdx number ~ workers := by
    rw [← hget]
    exact List.getElem_cons_eraseIdx_perm hlt
  have hcons : ∀ x : Worker, ∀ xs, (x :: xs).filterMap f = (f x).toList ++ xs.filterMap f := by
    intro x xs
    cases hx : f x <;> simp [hx]
  calc (workers.set number next).filterMap f
      ~ (next :: workers.eraseIdx number).filterMap f := hset.filterMap f
    _ = (f worker).toList ++ (new ++ (workers.eraseIdx number).filterMap f) := by
        rw [hcons, hnew, List.append_assoc]
    _ ~ (f worker).toList ++ ((workers.eraseIdx number).filterMap f ++ new) :=
        List.perm_append_comm.append_left _
    _ = (worker :: workers.eraseIdx number).filterMap f ++ new := by
        rw [hcons, List.append_assoc]
    _ ~ workers.filterMap f ++ new := (hsame.filterMap f).append_right new

theorem Recorded.loop {crew : Crew} {st st' : State} (h : Recorded st)
    (hmove : LoopMoves crew st st') : Recorded st' := by
  obtain ⟨hresults, herrors⟩ := h
  cases hmove with
  | walk hloop => exact ⟨by simpa using hresults, by simpa using herrors⟩
  | hand hloop =>
      have hresult : ∀ job : Job, { job : Worker }.result? = none := fun _ => rfl
      have herror : ∀ job : Job, { job : Worker }.error? = none := fun _ => rfl
      exact ⟨by simpa [hresult] using hresults, by simpa [herror] using herrors⟩
  | «break» hloop => exact ⟨by simpa using hresults, by simpa using herrors⟩
  | ask | refuse | accept | finish => exact ⟨hresults, herrors⟩

theorem Recorded.worker {crew : Crew} {free : Bool} {st : State} {number : Nat} {worker : Worker}
    {stage : Stage} {shared : Shared} (h : Recorded st)
    (hworker : st.workers[number]? = some worker)
    (hmove : Moves crew free worker.job worker.stage st.shared stage shared) :
    Recorded { st with shared, workers := st.workers.set number { worker with stage } } := by
  have hnew : ∃ results errors, shared.results = st.shared.results ++ results ∧
      shared.errors = st.shared.errors ++ errors ∧
      ({ worker with stage } : Worker).result?.toList = worker.result?.toList ++ results ∧
      ({ worker with stage } : Worker).error?.toList = worker.error?.toList ++ errors := by
    unfold Worker.result? Worker.error?
    rcases hmove.records with ⟨hstage, hresults, herrors⟩ |
      ⟨status, hbefore, hafter, hresults, herrors⟩ | ⟨e, hbefore, hafter, hresults, herrors⟩
    · exact ⟨[], [], by simp [hresults], by simp [herrors], by simp [hstage], by simp [hstage]⟩
    · exact ⟨_, [], hresults, by simp [herrors], by simp [hbefore, hafter], by simp [hbefore, hafter]⟩
    · exact ⟨[], _, by simp [hresults], herrors, by simp [hbefore, hafter], by simp [hbefore, hafter]⟩
  obtain ⟨results, errors, hresults, herrors, hresult, herror⟩ := hnew
  refine ⟨?_, ?_⟩
  · rw [hresults]
    exact (h.results.append_right results).trans (filterMap_set_perm hworker hresult).symm
  · rw [herrors]
    exact (h.errors.append_right errors).trans (filterMap_set_perm hworker herror).symm

theorem recorded_of_run {crew : Crew} {w : World} {turns : List Turn} {st : State}
    (h : crew.run turns (crew.start w) = some st) : Recorded st := by
  refine run_induction (P := fun _ st => Recorded st) ⟨.refl _, .refl _⟩ ?_ h
  intro turns st turn st' _ hst hstep
  rcases step_cases hstep with ⟨-, hmove⟩ | ⟨number, worker, stage, shared, -, hworker, hmove, rfl⟩
  · exact hst.loop hmove
  · exact hst.worker hworker hmove

/-! ## The order of errors -/

/-- A turn records at most one error. -/
theorem errors_of_step {crew : Crew} {st st' : State} {turn : Turn}
    (h : crew.step st turn = some st') :
    st'.shared.errors = st.shared.errors ∨ ∃ e, st'.shared.errors = st.shared.errors ++ [e] := by
  rcases step_cases h with ⟨-, hmove⟩ | ⟨number, worker, stage, shared, -, hworker, hmove, rfl⟩
  · cases hmove with
    | walk | «break» => exact .inl (by simp)
    | ask | refuse | accept | hand | finish => exact .inl rfl
  · rcases hmove.records with ⟨-, -, herrors⟩ | ⟨status, -, -, -, herrors⟩ | ⟨e, -, -, -, herrors⟩
    · exact .inl herrors
    · exact .inl herrors
    · exact .inr ⟨e, herrors⟩

/-- The first of the errors was recorded when there were none. -/
theorem first_error_of_run {crew : Crew} {w : World} {turns : List Turn} {st : State} {e : Failure}
    {rest : List Failure} (h : crew.run turns (crew.start w) = some st)
    (herrors : st.shared.errors = e :: rest) :
    ∃ before mid, before <+: turns ∧ crew.run before (crew.start w) = some mid ∧
      mid.shared.errors = [e] := by
  refine run_induction (P := fun turns st => ∀ e rest, st.shared.errors = e :: rest →
    ∃ before mid, before <+: turns ∧ crew.run before (crew.start w) = some mid ∧
      mid.shared.errors = [e]) ?_ ?_ h e rest herrors
  · intro e rest hnone
    cases hnone
  · intro turns st turn st' hrun ih hstep e rest herrors
    cases hbefore : st.shared.errors with
    | cons first others =>
        have hsame : first = e := by
          rcases errors_of_step hstep with hkept | ⟨new, hadded⟩
          · rw [hkept, hbefore] at herrors
            exact (List.cons.inj herrors).1
          · rw [hadded, hbefore] at herrors
            exact (List.cons.inj herrors).1
        obtain ⟨before, mid, hprefix, hmid, hone⟩ := ih first others hbefore
        exact ⟨before, mid, hprefix.trans (List.prefix_append _ _), hmid, by rw [hone, hsame]⟩
    | nil =>
        refine ⟨turns ++ [turn], st', List.prefix_refl _, ?_, ?_⟩
        · rw [run_concat, hrun]
          exact hstep
        · rcases errors_of_step hstep with hkept | ⟨new, hadded⟩
          · rw [hkept, hbefore] at herrors
            cases herrors
          · rw [hadded, hbefore] at herrors ⊢
            cases herrors
            rfl

/-! ## Handing over -/

/-- In the run up to here, a source was checked when so many workers were there, and no failure was
flagged. -/
def CheckedAt (crew : Crew) (w : World) (turns : List Turn) (source : Path) (number : Nat) : Prop :=
  ∃ before mid, before <+: turns ∧ crew.run before (crew.start w) = some mid ∧
    mid.loop = .checking source ∧ mid.shared.failed = false ∧ mid.workers.length = number

theorem CheckedAt.later {crew : Crew} {w : World} {turns : List Turn} {source : Path} {number : Nat}
    (h : CheckedAt crew w turns source number) (turn : Turn) :
    CheckedAt crew w (turns ++ [turn]) source number := by
  obtain ⟨before, mid, hprefix, hmid⟩ := h
  exact ⟨before, mid, hprefix.trans (List.prefix_append _ _), hmid⟩

/-- Every source that was handed over, or is about to be, was checked. -/
structure Checked (crew : Crew) (w : World) (turns : List Turn) (st : State) : Prop where
  handed : ∀ number worker, st.workers[number]? = some worker →
    CheckedAt crew w turns worker.job.source number
  handing : ∀ source, st.loop = .handing source →
    CheckedAt crew w turns source st.workers.length

theorem Checked.step {crew : Crew} {w : World} {turns : List Turn} {st st' : State} {turn : Turn}
    (h : Checked crew w turns st) (hrun : crew.run turns (crew.start w) = some st)
    (hstep : crew.step st turn = some st') : Checked crew w (turns ++ [turn]) st' := by
  have hkept : ∀ number worker, st.workers[number]? = some worker →
      CheckedAt crew w (turns ++ [turn]) worker.job.source number :=
    fun number worker hworker => (h.handed number worker hworker).later turn
  rcases step_cases hstep with ⟨-, hmove⟩ | ⟨number, worker, stage, shared, -, hworker, -, rfl⟩
  · cases hmove with
    | walk hloop =>
        refine ⟨by simpa using hkept, fun source hsource => ?_⟩
        rcases walkStep_loop crew st with hnext | ⟨source', hnext⟩ | hnext <;>
          simp [hnext] at hsource
    | accept hloop hfailed =>
        refine ⟨hkept, fun source hsource => ?_⟩
        cases hsource
        exact ⟨turns, st, List.prefix_append _ _, hrun, hloop, hfailed, rfl⟩
    | hand hloop =>
        refine ⟨fun number worker hworker => ?_, fun source hsource => by cases hsource⟩
        rw [List.getElem?_append] at hworker
        split at hworker
        · exact hkept number worker hworker
        · rename_i hlast
          have hzero : number - st.workers.length = 0 := by
            by_contra hne
            rw [List.getElem?_eq_none (by simpa using Nat.one_le_iff_ne_zero.mpr hne)] at hworker
            cases hworker
          rw [hzero] at hworker
          cases hworker
          have hnumber : number = st.workers.length := by omega
          rw [hnumber]
          exact (h.handing _ hloop).later turn
    | ask | refuse | «break» | finish => exact ⟨hkept, fun source hsource => by cases hsource⟩
  · refine ⟨fun other next hnext => ?_, fun source hsource => ?_⟩
    · rw [List.getElem?_set] at hnext
      split at hnext
      · rename_i hsame
        split at hnext
        · cases hnext
          exact hsame ▸ hkept number worker hworker
        · cases hnext
      · exact hkept other next hnext
    · simpa using (h.handing source hsource).later turn

theorem checked_of_run {crew : Crew} {w : World} {turns : List Turn} {st : State}
    (h : crew.run turns (crew.start w) = some st) : Checked crew w turns st := by
  refine run_induction ⟨?_, ?_⟩ (fun turns st turn st' hrun hst hstep => hst.step hrun hstep) h
  · intro number worker hworker
    simp [start] at hworker
  · intro source hsource
    cases hsource

/-! ## The end -/

theorem allEnded_iff {workers : List Worker} :
    allEnded workers = true ↔ ∀ worker ∈ workers, ∃ ending, worker.stage = .ended ending := by
  unfold allEnded
  rw [List.all_eq_true]
  refine forall₂_congr fun worker _ => ?_
  cases worker.stage <;> simp

/-- Once the loop is finished, nothing moves any more. -/
theorem ended_of_run {crew : Crew} {w : World} {turns : List Turn} {st : State}
    (h : crew.run turns (crew.start w) = some st) (hfinished : st.loop = .finished) :
    ∀ worker ∈ st.workers, ∃ ending, worker.stage = .ended ending := by
  rw [← allEnded_iff]
  refine run_induction (P := fun _ st => st.loop = .finished → allEnded st.workers = true) ?_ ?_ h
    hfinished
  · intro hloop
    cases hloop
  · intro turns st turn st' _ ih hstep hloop
    rcases step_cases hstep with ⟨-, hmove⟩ | ⟨number, worker, stage, shared, -, hworker, hmove, rfl⟩
    · cases hmove with
      | walk =>
          rcases walkStep_loop crew st with hnext | ⟨source, hnext⟩ | hnext <;> simp [hnext] at hloop
      | finish hwaiting hended => exact hended
      | ask | refuse | accept | hand | «break» => cases hloop
    · obtain ⟨ending, hending⟩ := allEnded_iff.mp (ih hloop) worker (List.mem_of_getElem? hworker)
      rw [hending] at hmove
      cases hmove

/-- An ended worker has a result or an error, and not both. -/
theorem recorded_once {worker : Worker} {ending : Except Failure SyncStatus}
    (h : worker.stage = .ended ending) : worker.result?.isSome = !worker.error?.isSome := by
  unfold Worker.result? Worker.error?
  rw [h]
  cases ending <;> rfl

theorem error?_of_ended {worker : Worker} {ending : Except Failure SyncStatus} {e : Failure}
    (h : worker.stage = .ended ending) : worker.error? = some e ↔ worker.stage = .ended (.error e) := by
  unfold Worker.error?
  rw [h]
  cases ending <;> simp [Stage.recorded?]

theorem result?_of_ended {worker : Worker} {ending : Except Failure SyncStatus} {r : Synced}
    (h : worker.stage = .ended ending) :
    worker.result? = some r ↔
      worker.stage = .ended (.ok r.status) ∧ worker.job.target.text = r.path := by
  obtain ⟨path, status⟩ := r
  unfold Worker.result?
  rw [h]
  cases ending <;> simp [Stage.recorded?, and_comm]

/-- Two workers have told different things about one document. -/
def Clash (workers : List Worker) : Prop :=
  ∃ a ∈ workers, ∃ b ∈ workers, ∃ x y, a.stage = .ended (.ok x) ∧ b.stage = .ended (.ok y) ∧
    a.job.target.text = b.job.target.text ∧ x ≠ y

theorem any_clash_iff {results : List Synced} :
    (results.any fun a => results.any (clash a)) = true ↔
      ∃ a ∈ results, ∃ b ∈ results, clash a b = true := by
  simp only [List.any_eq_true]

theorem inOrder_eq_error_iff {results : List Synced} {e : Failure} :
    inOrder results = .error e ↔
      (∃ a ∈ results, ∃ b ∈ results, clash a b = true) ∧ e = .fault .wrongKind := by
  unfold inOrder
  rw [← any_clash_iff]
  split
  case isTrue h => simp [h, eq_comm]
  case isFalse h => simp [h]

/-- What holds of every state that a schedule leads to. -/
structure Protocol (crew : Crew) (w : World) (turns : List Turn) (st : State) : Prop where
  /-- The free permits, those of the workers and that of the loop are all the permits. -/
  permits : st.shared.permits + unfinished st.workers + st.loop.held = crew.size
  /-- No more jobs are worked on at once than there are permits. -/
  bounded : running st.workers ≤ crew.size
  /-- No permit was given back beyond their number. -/
  inBounds : st.shared.excess = false
  /-- A source was handed over only after a check that found no failure flagged. -/
  checked : ∀ number worker, st.workers[number]? = some worker →
    CheckedAt crew w turns worker.job.source number
  /-- The results are those of the workers whose job succeeded, each once. -/
  results : st.shared.results ~ st.workers.filterMap Worker.result?
  /-- The errors are those of the workers whose job failed, each once. -/
  errors : st.shared.errors ~ st.workers.filterMap Worker.error?
  /-- A worker that has ended is in one of the two, and not in both. -/
  once : ∀ worker ∈ st.workers, ∀ ending, worker.stage = .ended ending →
    worker.result?.isSome = !worker.error?.isSome
  /-- The run ends after all its workers. -/
  ends : st.loop = .finished → ∀ worker ∈ st.workers, ∃ ending, worker.stage = .ended ending
  /-- A run whose walk went well raises exactly if a job failed, or if two clash. -/
  raises : st.walkError = none → ∀ outcome, st.outcome? = some outcome →
    ((∃ e, outcome = .error e) ↔
      (∃ worker ∈ st.workers, ∃ e, worker.stage = .ended (.error e)) ∨ Clash st.workers)
  /-- If a job failed, it raises the error that was recorded when there were none. -/
  earliest : st.walkError = none → ∀ e, st.outcome? = some (.error e) →
    (∃ worker ∈ st.workers, ∃ e', worker.stage = .ended (.error e')) →
    ∃ before mid, before <+: turns ∧ crew.run before (crew.start w) = some mid ∧
      mid.shared.errors = [e]
  /-- If no job failed, what it raises is that the results have no order. -/
  unordered : st.walkError = none → ∀ e, st.outcome? = some (.error e) →
    (∀ worker ∈ st.workers, ∀ e', worker.stage ≠ .ended (.error e')) → e = .fault .wrongKind

theorem outcome?_eq {st : State} {outcome : Except Failure (List Synced)}
    (hwalk : st.walkError = none) (h : st.outcome? = some outcome) :
    st.loop = .finished ∧
      ((∃ e rest, st.shared.errors = e :: rest ∧ outcome = .error e) ∨
        (st.shared.errors = [] ∧ outcome = inOrder st.shared.results)) := by
  unfold State.outcome? at h
  split at h
  · rename_i hloop
    refine ⟨hloop, ?_⟩
    rw [hwalk] at h
    cases herrors : st.shared.errors with
    | nil =>
        rw [herrors] at h
        exact .inr ⟨rfl, (Option.some.inj h).symm⟩
    | cons e rest =>
        rw [herrors] at h
        exact .inl ⟨e, rest, rfl, (Option.some.inj h).symm⟩
  · cases h

section Finished

variable {crew : Crew} {w : World} {turns : List Turn} {st : State}

theorem mem_errors_iff (h : crew.run turns (crew.start w) = some st) (hfinished : st.loop = .finished)
    {e : Failure} : e ∈ st.shared.errors ↔ ∃ worker ∈ st.workers, worker.stage = .ended (.error e) := by
  rw [(recorded_of_run h).errors.mem_iff, List.mem_filterMap]
  refine exists_congr fun worker => and_congr_right fun hworker => ?_
  obtain ⟨ending, hending⟩ := ended_of_run h hfinished worker hworker
  exact error?_of_ended hending

theorem mem_results_iff (h : crew.run turns (crew.start w) = some st) (hfinished : st.loop = .finished)
    {r : Synced} : r ∈ st.shared.results ↔
      ∃ worker ∈ st.workers, worker.stage = .ended (.ok r.status) ∧ worker.job.target.text = r.path := by
  rw [(recorded_of_run h).results.mem_iff, List.mem_filterMap]
  refine exists_congr fun worker => and_congr_right fun hworker => ?_
  obtain ⟨ending, hending⟩ := ended_of_run h hfinished worker hworker
  exact result?_of_ended hending

/-- The results have no order exactly if two workers clash. -/
theorem inOrder_results_iff (h : crew.run turns (crew.start w) = some st)
    (hfinished : st.loop = .finished) {e : Failure} :
    inOrder st.shared.results = .error e ↔ Clash st.workers ∧ e = .fault .wrongKind := by
  rw [inOrder_eq_error_iff]
  refine and_congr_left fun _ => ?_
  constructor
  · rintro ⟨r, hr, q, hq, hclash⟩
    obtain ⟨a, ha, hx, hpath⟩ := (mem_results_iff h hfinished).mp hr
    obtain ⟨b, hb, hy, hpath'⟩ := (mem_results_iff h hfinished).mp hq
    simp only [clash, Bool.and_eq_true, beq_iff_eq, bne_iff_ne] at hclash
    exact ⟨a, ha, b, hb, _, _, hx, hy, hpath.trans (hclash.1.trans hpath'.symm), hclash.2⟩
  · rintro ⟨a, ha, b, hb, x, y, hx, hy, hpath, hne⟩
    refine ⟨⟨a.job.target.text, x⟩, (mem_results_iff h hfinished).mpr ⟨a, ha, hx, rfl⟩,
      ⟨b.job.target.text, y⟩, (mem_results_iff h hfinished).mpr ⟨b, hb, hy, rfl⟩, ?_⟩
    simpa [clash] using ⟨hpath, hne⟩

theorem raises_of_run (h : crew.run turns (crew.start w) = some st) (hwalk : st.walkError = none)
    {outcome : Except Failure (List Synced)} (houtcome : st.outcome? = some outcome) :
    (∃ e, outcome = .error e) ↔
      (∃ worker ∈ st.workers, ∃ e, worker.stage = .ended (.error e)) ∨ Clash st.workers := by
  obtain ⟨hfinished, hcases⟩ := outcome?_eq hwalk houtcome
  rcases hcases with ⟨e, rest, herrors, rfl⟩ | ⟨hnone, rfl⟩
  · obtain ⟨worker, hworker, hstage⟩ := (mem_errors_iff h hfinished).mp (herrors ▸ List.mem_cons_self)
    exact iff_of_true ⟨e, rfl⟩ (.inl ⟨worker, hworker, e, hstage⟩)
  · have hnot : ¬ ∃ worker ∈ st.workers, ∃ e, worker.stage = .ended (.error e) := by
      rintro ⟨worker, hworker, e, hstage⟩
      have he := (mem_errors_iff h hfinished).mpr ⟨worker, hworker, hstage⟩
      rw [hnone] at he
      cases he
    simp [inOrder_results_iff h hfinished, hnot]

end Finished

/-- Every schedule keeps to the protocol. -/
theorem protocol_of_run {crew : Crew} {w : World} {turns : List Turn} {st : State}
    (h : crew.run turns (crew.start w) = some st) : Protocol crew w turns st where
  permits := (balanced_of_run h).total
  bounded := by
    have htotal := (balanced_of_run h).total
    have hrunning := running_le_unfinished st.workers
    omega
  inBounds := (balanced_of_run h).inBounds
  checked := (checked_of_run h).handed
  results := (recorded_of_run h).results
  errors := (recorded_of_run h).errors
  once := fun _ _ _ hending => recorded_once hending
  ends := ended_of_run h
  raises := fun hwalk _ houtcome => raises_of_run h hwalk houtcome
  earliest := by
    rintro hwalk e houtcome ⟨worker, hworker, e', hstage⟩
    obtain ⟨hfinished, ⟨e'', rest, herrors, heq⟩ | ⟨hnone, -⟩⟩ := outcome?_eq hwalk houtcome
    · cases heq
      exact first_error_of_run h herrors
    · have he := (mem_errors_iff h hfinished).mpr ⟨worker, hworker, hstage⟩
      rw [hnone] at he
      cases he
  unordered := by
    intro hwalk e houtcome hnot
    obtain ⟨hfinished, ⟨e', rest, herrors, -⟩ | ⟨-, heq⟩⟩ := outcome?_eq hwalk houtcome
    · obtain ⟨worker, hworker, hstage⟩ :=
        (mem_errors_iff h hfinished).mp (herrors ▸ List.mem_cons_self)
      exact absurd hstage (hnot worker hworker e')
    · exact ((inOrder_results_iff h hfinished).mp heq.symm).2

/-- One worker for a folder, without a compiler. -/
def helpless : Crew where
  compiler := { available := [], compile := fun _ => {}, folder := "/tmp", tag := fun _ => "0" }
  settings := .default none
  top := "."
  trigger := "main.bicep"
  output := .ofString "README.md"
  size := 1

/-- A template in a folder, and one in the folder around it. -/
def twoTemplates : World where
  files := .folder [("a", .folder [("main.bicep", .file .empty)]), ("main.bicep", .file .empty)]

/-- The first job fails while the walk goes on, and before the second template is checked. -/
def lateCheck : List Turn :=
  [.loop, .loop, .loop, .loop, .worker 0, .worker 0, .loop, .worker 0, .worker 0, .worker 0, .loop,
    .loop, .loop, .worker 0, .loop]

theorem protocol_of_run_lateCheck :
    ∃ st, helpless.run lateCheck (helpless.start twoTemplates) = some st ∧
      st.outcome? = some (.error (.reported (BuildError.noCommand.report "main.bicep"))) ∧
      Protocol helpless twoTemplates lateCheck st := by
  have hrun : (helpless.run lateCheck (helpless.start twoTemplates)).bind State.outcome? =
      some (.error (.reported (BuildError.noCommand.report "main.bicep"))) := by
    decide +kernel
  obtain ⟨st, hst, houtcome⟩ := Option.bind_eq_some_iff.mp hrun
  exact ⟨st, hst, houtcome, protocol_of_run hst⟩

/-- One worker whose documents all have one name, with a compiler that finds nothing in a template. -/
def sharing : Crew where
  compiler :=
    { compile := fun _ => { product := some (.file ⟨#[0x7B, 0x7D]⟩) }
      folder := "/tmp"
      tag := fun count => String.ofList (List.replicate count 'x') }
  settings := { Settings.default none with sections := [] }
  top := "."
  trigger := "main.bicep"
  output := .ofString "/README.md"
  size := 1

/-- A worker ends before the next one begins. -/
def inTurn : List Turn :=
  List.replicate 4 .loop ++ List.replicate 9 (.worker 0) ++ List.replicate 4 .loop ++
    List.replicate 9 (.worker 1) ++ List.replicate 2 .loop

/-- No job fails, but the second one updates the document that the first one has created. -/
theorem raises_without_failure :
    ∃ st, sharing.run inTurn (sharing.start twoTemplates) = some st ∧ st.walkError = none ∧
      (∀ worker ∈ st.workers, ∀ e, worker.stage ≠ .ended (.error e)) ∧
      st.outcome? = some (.error (.fault .wrongKind)) := by
  have hrun : (sharing.run inTurn (sharing.start twoTemplates)).map (fun st =>
      (st.walkError, st.workers.filterMap Worker.error?, st.outcome?)) =
      some (none, [], some (.error (.fault .wrongKind))) := by
    decide +kernel
  obtain ⟨st, hst, hends⟩ := Option.map_eq_some_iff.mp hrun
  obtain ⟨hwalk, herrors, houtcome⟩ := Prod.mk.inj hends |>.imp_right Prod.mk.inj
  refine ⟨st, hst, hwalk, fun worker hworker e hstage => ?_, houtcome⟩
  have hnone := List.filterMap_eq_nil_iff.mp herrors worker hworker
  rw [Worker.error?, hstage] at hnone
  cases hnone

end TemplateDocs.Crew
