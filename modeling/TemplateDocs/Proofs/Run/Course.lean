import TemplateDocs.Proofs.Run.Plan
import TemplateDocs.Proofs.Run.Sources

/-! # Workers that go by their plans

When the jobs of a folder do not get in each other's way, every worker goes by the plan of its job,
whatever the others have done so far. The files in every state are those that the workers which are
done with their jobs have written, and the walk finds what it would have found before the first of them.
-/

namespace TemplateDocs.Crew

open Generate List

/-! ## Moves of a worker by its plan -/

/-- The stages of a worker that goes by a plan. -/
def Stage.Follows (plan : Plan) : Stage → Prop
  | queued | working .begun | working (.built _) => True
  | working (.parsed t) => t = plan.template
  | working (.compared text there) => text = plan.text ∧ there = plan.there ∧ plan.same = false
  | recording ending | releasing ending | leaving ending | ended ending => ending = .ok plan.status
  | telling status => status = plan.status
  | flagging _ => False

/-- Whether the work of a stage is done. -/
def Stage.isDone : Stage → Bool
  | queued | working _ => false
  | _ => true

/-- The moves of a worker that goes by a plan. -/
inductive PlannedMoves (crew : Crew) (job : Job) (plan : Plan) :
    Stage → Shared → Stage → Shared → Prop
  | begin {shared} : PlannedMoves crew job plan .queued shared (.working .begun) shared
  | build {shared product world}
      (hproduct : product = crew.compiler.productName job.source.text shared.world.commands.length)
      (hfiles : world.files = shared.world.files) (hdisk : world.disk = shared.world.disk)
      (hcommands : world.commands.length = shared.world.commands.length + 1)
      (htemporary : world.temporary = (product, .file plan.product) :: shared.world.temporary) :
      PlannedMoves crew job plan (.working .begun) shared (.working (.built product))
        { shared with world }
  | take {shared product world}
      (hfiles : world.files = shared.world.files) (hdisk : world.disk = shared.world.disk)
      (hcommands : world.commands = shared.world.commands)
      (htemporary : ∀ other, other ≠ product →
        entryOf? other world.temporary = entryOf? other shared.world.temporary) :
      PlannedMoves crew job plan (.working (.built product)) shared
        (.working (.parsed plan.template)) { shared with world }
  | differ {shared} (hsame : plan.same = false) :
      PlannedMoves crew job plan (.working (.parsed plan.template)) shared
        (.working (.compared plan.text plan.there)) shared
  | agree {shared} (hsame : plan.same = true) :
      PlannedMoves crew job plan (.working (.parsed plan.template)) shared
        (.recording (.ok plan.status)) shared
  | write {shared world}
      (hworld : world = { shared.world with files := shared.world.files.plantAll plan.writes }) :
      PlannedMoves crew job plan (.working (.compared plan.text plan.there)) shared
        (.recording (.ok plan.status)) { shared with world }
  | record {shared} :
      PlannedMoves crew job plan (.recording (.ok plan.status)) shared (.telling plan.status)
        { shared with
          results := shared.results ++ [{ path := job.target.text, status := plan.status }] }
  | tell {shared world}
      (hworld : world = { shared.world with
        synced := shared.world.synced ++ [{ path := job.target.text, status := plan.status }] }) :
      PlannedMoves crew job plan (.telling plan.status) shared (.releasing (.ok plan.status))
        { shared with world }
  | release {shared} :
      PlannedMoves crew job plan (.releasing (.ok plan.status)) shared (.leaving (.ok plan.status))
        (crew.release shared)
  | leave {shared} :
      PlannedMoves crew job plan (.leaving (.ok plan.status)) shared (.ended (.ok plan.status)) shared

section Moves

variable {crew : Crew} {job : Job} {plan : Plan} {stage stage' : Stage} {shared shared' : Shared}

/-- A step of the work by the plan. -/
theorem planned_of_advance {work : Work} {r : Except Failure (Work ⊕ SyncStatus)} {world : World}
    (hfits : Fits crew.compiler crew.settings shared.world.files shared.world.disk job plan)
    (hfollows : (Stage.working work).Follows plan)
    (hproduct : ∀ product, work = .built product →
      entryOf? product shared.world.temporary = some (.file plan.product))
    (h : (advance crew.compiler crew.settings job work).run.run shared.world = (r, world)) :
    PlannedMoves crew job plan (.working work) shared (.after r) { shared with world } := by
  cases work with
  | begun =>
      obtain ⟨after, hbuild, hfiles, hdisk, hcommands, htemporary⟩ := hfits.build_run
      rw [advance_begun_run, hbuild] at h
      cases h
      exact .build rfl hfiles hdisk hcommands htemporary
  | built product =>
      obtain ⟨after, htake, hfiles, hdisk, hcommands, htemporary⟩ :=
        hfits.take_run (hproduct product rfl)
      rw [advance_built_run, htake] at h
      cases h
      exact .take hfiles hdisk hcommands htemporary
  | parsed t =>
      cases hfollows
      rw [advance_parsed_run, hfits.inspect_run] at h
      cases hsame : plan.same with
      | true =>
          have hstatus : plan.status = .unchanged := by simp [Plan.status, hsame]
          simp only [hsame, if_true] at h
          cases h
          rw [Stage.after, ← hstatus]
          exact .agree hsame
      | false =>
          simp only [hsame, Bool.false_eq_true, if_false] at h
          cases h
          exact .differ hsame
  | compared text there =>
      obtain ⟨rfl, rfl, hsame⟩ := hfollows
      have hstatus : plan.status = if plan.there then .updated else .created := by
        simp [Plan.status, hsame]
      have hwrites : plan.writes = [(plan.place, Text.encode plan.text)] := by
        simp [Plan.writes, hsame]
      rw [advance_compared_run, hfits.written hsame] at h
      cases h
      rw [Except.map, Stage.after, ← hstatus]
      exact .write (by rw [hwrites]; rfl)

theorem planned_of_moves {free : Bool}
    (hfits : stage.isDone = false →
      Fits crew.compiler crew.settings shared.world.files shared.world.disk job plan)
    (hfollows : stage.Follows plan)
    (hproduct : ∀ product, stage = .working (.built product) →
      entryOf? product shared.world.temporary = some (.file plan.product))
    (h : Moves crew free job stage shared stage' shared') :
    PlannedMoves crew job plan stage shared stage' shared' := by
  cases h with
  | begin => exact .begin
  | @work shared work r world hrun =>
      rw [Run.processing_run] at hrun
      rcases hadvance : (advance crew.compiler crew.settings job work).run.run shared.world with
        ⟨r', after⟩
      have hplanned := planned_of_advance (hfits rfl) hfollows
        (fun product hwork => hproduct product (by rw [hwork])) hadvance
      rw [hadvance] at hrun
      cases hrun
      cases r' with
      | ok next => exact hplanned
      | error e => cases hplanned
  | recordResult =>
      cases hfollows
      exact .record
  | recordError => cases hfollows
  | tell hworld =>
      cases hfollows
      exact .tell hworld
  | flag => cases hfollows
  | release =>
      cases hfollows
      exact .release
  | leave =>
      cases hfollows
      exact .leave

/-- By its plan a worker goes on. -/
theorem PlannedMoves.follows (h : PlannedMoves crew job plan stage shared stage' shared') :
    stage'.Follows plan := by
  cases h with
  | begin | build => trivial
  | differ hsame => exact ⟨rfl, rfl, hsame⟩
  | take | agree | write | record | tell | release | leave => rfl

theorem PlannedMoves.disk_eq (h : PlannedMoves crew job plan stage shared stage' shared') :
    shared'.world.disk = shared.world.disk := by
  cases h with
  | build _ _ hdisk _ _ => exact hdisk
  | take _ hdisk _ _ => exact hdisk
  | write hworld | tell hworld => rw [hworld]
  | release => rw [release_world]
  | begin | differ | agree | record | leave => rfl

/-- No move by a plan flags a failure. -/
theorem PlannedMoves.failed_eq (h : PlannedMoves crew job plan stage shared stage' shared') :
    shared'.failed = shared.failed := by
  cases h with
  | release => rw [release_failed]
  | begin | build | take | differ | agree | write | record | tell | leave => rfl

/-- The files change with the move that is the last of the work. -/
theorem PlannedMoves.files_eq (h : PlannedMoves crew job plan stage shared stage' shared') :
    (stage'.isDone = stage.isDone ∧ shared'.world.files = shared.world.files) ∨
      (stage.isDone = false ∧ stage'.isDone = true ∧
        shared'.world.files = shared.world.files.plantAll plan.writes) := by
  cases h with
  | build _ hfiles _ _ _ => exact .inl ⟨rfl, hfiles⟩
  | take hfiles _ _ _ => exact .inl ⟨rfl, hfiles⟩
  | agree hsame => exact .inr ⟨rfl, rfl, by simp [Plan.writes, hsame, Tree.plantAll]⟩
  | write hworld => exact .inr ⟨rfl, rfl, by rw [hworld]⟩
  | tell hworld => exact .inl ⟨rfl, by rw [hworld]⟩
  | release => exact .inl ⟨rfl, by rw [release_world]⟩
  | begin | differ | record | leave => exact .inl ⟨rfl, rfl⟩

end Moves

/-! ## Products -/

/-- The name of the product that a stage works on. -/
def Stage.product? : Stage → Option String
  | working (.built product) => some product
  | _ => none

/-- A move leaves the products as they are, adds one, or takes one away. -/
theorem PlannedMoves.products {crew : Crew} {job : Job} {plan : Plan} {stage stage' : Stage}
    {shared shared' : Shared} (h : PlannedMoves crew job plan stage shared stage' shared') :
    (stage.product? = none ∧ stage'.product? = none ∧
        shared'.world.temporary = shared.world.temporary ∧
        shared'.world.commands = shared.world.commands) ∨
      (∃ product, stage.product? = none ∧ stage'.product? = some product ∧
        product = crew.compiler.productName job.source.text shared.world.commands.length ∧
        shared'.world.temporary = (product, .file plan.product) :: shared.world.temporary ∧
        shared'.world.commands.length = shared.world.commands.length + 1) ∨
      ∃ product, stage.product? = some product ∧ stage'.product? = none ∧
        (∀ other, other ≠ product →
          entryOf? other shared'.world.temporary = entryOf? other shared.world.temporary) ∧
        shared'.world.commands = shared.world.commands := by
  cases h with
  | build hproduct _ _ hcommands htemporary =>
      exact .inr (.inl ⟨_, rfl, rfl, hproduct, htemporary, hcommands⟩)
  | take _ _ hcommands htemporary => exact .inr (.inr ⟨_, rfl, rfl, htemporary, hcommands⟩)
  | write hworld | tell hworld => exact .inl ⟨rfl, rfl, by rw [hworld], by rw [hworld]⟩
  | release => exact .inl ⟨rfl, rfl, by rw [release_world], by rw [release_world]⟩
  | begin | differ | agree | record | leave => exact .inl ⟨rfl, rfl, rfl, rfl⟩

/-- The names of the products that workers have. -/
def products (workers : List Worker) : List String :=
  workers.filterMap fun worker => worker.stage.product?

/-- Every worker finds its own product, under a name that no other has. -/
structure Stocked (crew : Crew) (plan : Job → Plan) (world : World) (workers : List Worker) : Prop where
  found : ∀ worker ∈ workers, ∀ product, worker.stage.product? = some product →
    entryOf? product world.temporary = some (.file (plan worker.job).product)
  named : ∀ worker ∈ workers, ∀ product, worker.stage.product? = some product →
    ∃ count < world.commands.length,
      product = crew.compiler.productName worker.job.source.text count
  apart : (products workers).Nodup

/-- Products of the workers have names that tell when they were made. -/
def NamesApart (crew : Crew) (jobs : List Job) : Prop :=
  ∀ job ∈ jobs, ∀ other ∈ jobs, ∀ m n,
    crew.compiler.productName job.source.text m = crew.compiler.productName other.source.text n → m = n

theorem products_taken {workers : List Worker} {number : Nat} {worker : Worker} {stage : Stage}
    {product : String} (hworker : workers[number]? = some worker)
    (hbefore : worker.stage.product? = some product) (hafter : stage.product? = none) :
    products workers ~ products (workers.set number { worker with stage }) ++ [product] := by
  obtain ⟨hlt, hget⟩ := List.getElem?_eq_some_iff.mp hworker
  have hset : (workers.set number { worker with stage })[number]? = some { worker with stage } := by
    simp [hlt]
  have hback : (workers.set number { worker with stage }).set number worker = workers := by
    rw [List.set_set, ← hget, List.set_getElem_self]
  have hperm : products ((workers.set number { worker with stage }).set number worker) ~
      products (workers.set number { worker with stage }) ++ [product] :=
    filterMap_set_perm hset (by simp [hbefore, hafter])
  rwa [hback] at hperm

/-- A worker with a product is not the one that has just moved to a stage without. -/
theorem mem_of_product {workers : List Worker} {number : Nat} {worker other : Worker} {stage : Stage}
    {product : String} (hother : other ∈ workers.set number { worker with stage })
    (hafter : stage.product? = none) (hproduct : other.stage.product? = some product) :
    other ∈ workers := by
  rcases List.mem_or_eq_of_mem_set hother with hother | rfl
  · exact hother
  · rw [hafter] at hproduct
    cases hproduct

theorem Stocked.worker {crew : Crew} {plan : Job → Plan} {jobs : List Job} {shared shared' : Shared}
    {workers : List Worker} {number : Nat} {worker : Worker} {stage : Stage}
    (h : Stocked crew plan shared.world workers) (hnames : crew.NamesApart jobs)
    (hjobs : ∀ worker ∈ workers, worker.job ∈ jobs) (hworker : workers[number]? = some worker)
    (hmove : PlannedMoves crew worker.job (plan worker.job) worker.stage shared stage shared') :
    Stocked crew plan shared'.world (workers.set number { worker with stage }) := by
  rcases hmove.products with ⟨hbefore, hafter, htemporary, hcommands⟩ |
    ⟨product, hbefore, hafter, hproduct, htemporary, hcommands⟩ |
    ⟨product, hbefore, hafter, htemporary, hcommands⟩
  · -- no product is made or taken
    have hperm : products (workers.set number { worker with stage }) ~ products workers ++ [] :=
      filterMap_set_perm hworker (by simp [hbefore, hafter])
    rw [List.append_nil] at hperm
    refine ⟨fun other hother p hp => ?_, fun other hother p hp => ?_, hperm.nodup_iff.mpr h.apart⟩
    · rw [htemporary]
      exact h.found other (mem_of_product hother hafter hp) p hp
    · rw [hcommands]
      exact h.named other (mem_of_product hother hafter hp) p hp
  · -- the name of the new product tells its number, which is new
    have hnew : ∀ other ∈ workers, other.stage.product? ≠ some product := by
      intro other hother hsame
      obtain ⟨count, hcount, hname⟩ := h.named other hother product hsame
      have hnumber := hnames _ (hjobs worker (List.mem_of_getElem? hworker)) _ (hjobs other hother) _ _
        (hproduct.symm.trans hname)
      omega
    have hperm : products (workers.set number { worker with stage }) ~ products workers ++ [product] :=
      filterMap_set_perm hworker (by simp [hbefore, hafter])
    have hnodup : (products workers ++ [product]).Nodup := by
      rw [List.nodup_append_comm]
      refine List.nodup_cons.mpr ⟨fun hold => ?_, h.apart⟩
      obtain ⟨other, hother, hsame⟩ := List.mem_filterMap.mp hold
      exact hnew other hother hsame
    refine ⟨fun other hother p hp => ?_, fun other hother p hp => ?_, hperm.nodup_iff.mpr hnodup⟩
    · rw [htemporary]
      rcases List.mem_or_eq_of_mem_set hother with hother | rfl
      · have hne : (p == product) = false :=
          beq_eq_false_iff_ne.mpr fun hsame => hnew other hother (hsame ▸ hp)
        simpa [entryOf?, List.lookup_cons, hne] using h.found other hother p hp
      · cases hafter.symm.trans hp
        simp [entryOf?]
    · rw [hcommands]
      rcases List.mem_or_eq_of_mem_set hother with hother | rfl
      · obtain ⟨count, hcount, hname⟩ := h.named other hother p hp
        exact ⟨count, by omega, hname⟩
      · cases hafter.symm.trans hp
        exact ⟨_, by omega, hproduct⟩
  · -- the product that is removed is no other worker's
    have hnodup := (products_taken hworker hbefore hafter).nodup_iff.mp h.apart
    rw [List.nodup_append_comm] at hnodup
    obtain ⟨hgone, hapart⟩ := List.nodup_cons.mp hnodup
    refine ⟨fun other hother p hp => ?_, fun other hother p hp => ?_, hapart⟩
    · have hne : p ≠ product := by
        rintro rfl
        exact hgone (List.mem_filterMap.mpr ⟨other, hother, hp⟩)
      rw [htemporary p hne]
      exact h.found other (mem_of_product hother hafter hp) p hp
    · rw [hcommands]
      exact h.named other (mem_of_product hother hafter hp) p hp

theorem Stocked.hand {crew : Crew} {plan : Job → Plan} {world : World} {workers : List Worker}
    (h : Stocked crew plan world workers) (job : Job) :
    Stocked crew plan world (workers ++ [{ job := job }]) := by
  have hold : ∀ worker ∈ workers ++ [{ job := job }], ∀ product, worker.stage.product? = some product →
      worker ∈ workers := by
    intro worker hworker product hproduct
    rcases List.mem_append.mp hworker with hworker | hworker
    · exact hworker
    · rw [List.mem_singleton.mp hworker] at hproduct
      cases hproduct
  refine ⟨fun worker hworker p hp => ?_, fun worker hworker p hp => ?_, ?_⟩
  · exact h.found worker (hold worker hworker p hp) p hp
  · exact h.named worker (hold worker hworker p hp) p hp
  · simpa [products, Stage.product?] using h.apart

/-! ## All workers on course -/

/-- The sources in and below a place, which leads down from the folder of the crew. -/
def sourcesAt (crew : Crew) (above : List String) (t : Tree) (place : List String) : List Path :=
  Node.filesNamed crew.trigger ((Path.ofString crew.top).below place)
    ((t.at? (above ++ place)).getD .empty)

/-- The jobs of the workers that are done with them. -/
def doneJobs (workers : List Worker) : List Job :=
  workers.filterMap fun worker => if worker.stage.isDone then some worker.job else none

/-- The jobs of a folder do not get in the way of each other, nor of the walk. -/
structure Smooth (crew : Crew) (above : List String) (w : World) (plan : Job → Plan)
    (jobs : List Job) : Prop where
  proper : w.files.top.Proper
  top : w.files.locate crew.top = .ok above
  folder : w.files.IsFolderAt above
  jobs_eq : jobs = (crew.sourcesAt above w.files []).map crew.job
  independent : Independent crew.compiler crew.settings w.files w.disk plan jobs
  /-- No document has the name of the sources. -/
  unnoticed : ∀ job ∈ jobs, (plan job).place.getLast? ≠ some crew.trigger
  named : crew.NamesApart jobs

/-- A state in which every worker goes by its plan. -/
structure OnCourse (crew : Crew) (above : List String) (w : World) (plan : Job → Plan)
    (jobs : List Job) (st : State) : Prop where
  disk : st.shared.world.disk = w.disk
  /-- Just the jobs that are done have changed the files. -/
  files : st.shared.world.files = w.files.plantAll (allWrites plan (doneJobs st.workers))
  stocked : Stocked crew plan st.shared.world st.workers
  follows : ∀ worker ∈ st.workers, worker.stage.Follows (plan worker.job)
  unflagged : st.shared.failed = false
  walked : st.walkError = none
  unbroken : st.loop ≠ .breaking
  /-- The jobs that were handed over, the one that will be next, and those not found yet are all. -/
  handed : st.workers.map Worker.job ++ (st.loop.source?.toList ++
    st.unvisited.flatMap (crew.sourcesAt above w.files)).map crew.job = jobs
  /-- The walk goes to the end. -/
  visited : st.loop = .waiting ∨ st.loop = .finished → st.unvisited = []

section Steps

variable {crew : Crew} {above : List String} {w : World} {plan : Job → Plan} {jobs : List Job}
  {st st' : State}

theorem doneJobs_sublist (workers : List Worker) : doneJobs workers <+ workers.map Worker.job := by
  unfold doneJobs
  induction workers with
  | nil => exact .slnil
  | cons worker workers ih =>
      rw [List.map_cons, List.filterMap_cons]
      cases worker.stage.isDone with
      | true => exact ih.cons_cons _
      | false => exact ih.cons _

/-- The sources of a folder are the one in it, and those of the folders in it. -/
theorem sourcesAt_folder {t : Tree} (hproper : t.top.Proper) {place : List String}
    {entries : List (String × Node)} (hplace : t.at? (above ++ place) = some (.folder entries)) :
    crew.sourcesAt above t place =
      (if (entryOf? crew.trigger entries).any Node.isFile then
        [(Path.ofString crew.top).below (place ++ [crew.trigger])] else []) ++
      ((Node.folderNames entries).map fun name => place ++ [name]).flatMap
        (crew.sourcesAt above t) := by
  have hchild : ∀ name, ((Path.ofString crew.top).below place).child name =
      (Path.ofString crew.top).below (place ++ [name]) := by
    simp [Path.below, Path.child]
  have hinner : ∀ name, t.at? (above ++ (place ++ [name])) = entryOf? name entries := by
    intro name
    rw [← List.append_assoc, Tree.at?_concat hplace]
  rw [sourcesAt, hplace, Option.getD_some, Node.filesNamed_folder (hproper.at? hplace), List.flatMap_map]
  simp only [hchild, sourcesAt, hinner]

/-- A move of a worker adds its job to those that are done, or none, and what the job writes. -/
theorem doneJobs_set {workers : List Worker} {number : Nat} {worker : Worker} {stage : Stage}
    {shared shared' : Shared} (hworker : workers[number]? = some worker)
    (hmove : PlannedMoves crew worker.job (plan worker.job) worker.stage shared stage shared') :
    ∃ new, doneJobs (workers.set number { worker with stage }) ~ doneJobs workers ++ new ∧
      shared'.world.files = shared.world.files.plantAll (allWrites plan new) := by
  rcases hmove.files_eq with ⟨hsame, hfiles⟩ | ⟨hbefore, hafter, hfiles⟩
  · exact ⟨[], filterMap_set_perm hworker (by simp [hsame]), hfiles⟩
  · refine ⟨[worker.job], filterMap_set_perm hworker (by simp [hbefore, hafter]), ?_⟩
    rw [hfiles, allWrites, List.flatMap_singleton]

namespace OnCourse

theorem handed_sublist (h : OnCourse crew above w plan jobs st) : st.workers.map Worker.job <+ jobs := by
  rw [← h.handed]
  exact List.sublist_append_left _ _

theorem job_mem (h : OnCourse crew above w plan jobs st) {worker : Worker}
    (hworker : worker ∈ st.workers) : worker.job ∈ jobs :=
  h.handed_sublist.subset (List.mem_map_of_mem hworker)

theorem done_mem (h : OnCourse crew above w plan jobs st) : ∀ job ∈ doneJobs st.workers, job ∈ jobs :=
  fun _ hjob => ((doneJobs_sublist st.workers).trans h.handed_sublist).subset hjob

/-- A worker that is not done finds everything as its plan says. -/
theorem fits (h : OnCourse crew above w plan jobs st) (hsmooth : Smooth crew above w plan jobs)
    {worker : Worker} (hworker : worker ∈ st.workers) (hstage : worker.stage.isDone = false) :
    Fits crew.compiler crew.settings st.shared.world.files st.shared.world.disk worker.job
      (plan worker.job) := by
  have hnodup : (st.workers.map Worker.job).Nodup :=
    hsmooth.independent.nodup.sublist h.handed_sublist
  have hnot : worker.job ∉ doneJobs st.workers := by
    intro hdone
    obtain ⟨other, hother, hjob⟩ := List.mem_filterMap.mp hdone
    split at hjob
    · rename_i hdone'
      have hsame := List.inj_on_of_nodup_map hnodup hother hworker (Option.some.inj hjob)
      rw [hsame, hstage] at hdone'
      cases hdone'
    · cases hjob
  rw [h.files, h.disk]
  exact hsmooth.independent.fits_after h.done_mem (h.job_mem hworker) hnot

theorem worker {free : Bool} {number : Nat} {worker : Worker} {stage : Stage} {shared : Shared}
    (h : OnCourse crew above w plan jobs st) (hsmooth : Smooth crew above w plan jobs)
    (hworker : st.workers[number]? = some worker)
    (hmove : Moves crew free worker.job worker.stage st.shared stage shared) :
    OnCourse crew above w plan jobs
      { st with shared, workers := st.workers.set number { worker with stage } } := by
  have hmem : worker ∈ st.workers := List.mem_of_getElem? hworker
  have hplanned := planned_of_moves (h.fits hsmooth hmem) (h.follows worker hmem)
    (fun product hproduct => h.stocked.found worker hmem product (by rw [hproduct]; rfl)) hmove
  have hjobs : (st.workers.set number { worker with stage }).map Worker.job =
      st.workers.map Worker.job := map_job_set hworker stage
  exact
    { disk := hplanned.disk_eq.trans h.disk
      files := by
        obtain ⟨new, hperm, hfiles⟩ := doneJobs_set hworker hplanned
        have hdone : doneJobs (st.workers.set number { worker with stage }) <+ jobs :=
          (doneJobs_sublist _).trans (hjobs ▸ h.handed_sublist)
        dsimp only
        rw [hfiles, h.files, ← Tree.plantAll_append, ← allWrites_append,
          hsmooth.independent.plantAll_perm hdone hperm]
      stocked := h.stocked.worker hsmooth.named (fun _ => h.job_mem) hworker hplanned
      follows := by
        intro other hother
        rcases List.mem_or_eq_of_mem_set hother with hother | rfl
        · exact h.follows other hother
        · exact hplanned.follows
      unflagged := hplanned.failed_eq.trans h.unflagged
      walked := h.walked
      unbroken := h.unbroken
      handed := by
        dsimp only
        rw [hjobs]
        exact h.handed
      visited := h.visited }

/-- A visit finds what it would have found at the start. -/
theorem walkStep_cases (h : OnCourse crew above w plan jobs st)
    (hsmooth : Smooth crew above w plan jobs) (hfound : Found crew above w.files st) :
    (st.unvisited = [] ∧ crew.walkStep st = { st with loop := .waiting }) ∨
      ∃ place rest entries, st.unvisited = place :: rest ∧
        w.files.at? (above ++ place) = some (.folder entries) ∧
        crew.walkStep st = { st with
          loop := if (entryOf? crew.trigger entries).any Node.isFile then
              .asking ((Path.ofString crew.top).below (place ++ [crew.trigger]))
            else .walking
          unvisited := (Node.folderNames entries).map (fun name => place ++ [name]) ++ rest } := by
  rcases hfound.walkStep_cases hsmooth.top with hend | ⟨place, rest, entries, here, hplaces, hplace,
    hvisit, hstep⟩
  · exact .inl hend
  · have hname : ∀ e ∈ allWrites plan (doneJobs st.workers), e.1.getLast? ≠ some crew.trigger := by
      intro e he
      obtain ⟨job, hjob, hplace⟩ := mem_allWrites he
      rw [hplace]
      exact hsmooth.unnoticed job (h.done_mem job hjob)
    rw [h.files, Tree.visit_plantAll (hsmooth.independent.fileSpots h.done_mem) hname hsmooth.top
      hplace] at hvisit
    cases hvisit
    exact .inr ⟨place, rest, entries, hplaces, hplace, hstep⟩

/-- A turn of the loop that takes no source from the walk and hands none over. -/
theorem relooped (h : OnCourse crew above w plan jobs st) {loop : Loop} (permits : Nat)
    (hsource : loop.source? = st.loop.source?) (hunbroken : loop ≠ .breaking)
    (hvisited : loop = .waiting ∨ loop = .finished → st.unvisited = []) :
    OnCourse crew above w plan jobs { st with shared := { st.shared with permits }, loop } :=
  { h with
    unbroken := hunbroken
    handed := by
      dsimp only
      rw [hsource]
      exact h.handed
    visited := hvisited }

theorem loop (h : OnCourse crew above w plan jobs st)
    (hsmooth : Smooth crew above w plan jobs) (hfound : Found crew above w.files st)
    (hmove : LoopMoves crew st st') : OnCourse crew above w plan jobs st' := by
  have hhanded := h.handed
  cases hmove with
  | walk hloop =>
      rw [hloop] at hhanded
      rcases h.walkStep_cases hsmooth hfound with ⟨hnone, hstep⟩ |
        ⟨place, rest, entries, hplaces, hplace, hstep⟩
      · rw [hstep]
        exact h.relooped st.shared.permits (by rw [hloop]; rfl) (by simp) fun _ => hnone
      · rw [hstep]
        rw [hplaces, List.flatMap_cons, sourcesAt_folder hsmooth.proper hplace] at hhanded
        cases hhere : (entryOf? crew.trigger entries).any Node.isFile with
        | true =>
            exact { h with
              unbroken := by simp
              handed := by simpa [hhere, Loop.source?] using hhanded
              visited := by simp }
        | false =>
            exact { h with
              unbroken := by simp
              handed := by simpa [hhere, Loop.source?] using hhanded
              visited := by simp }
  | ask hloop hfree => exact h.relooped _ (by rw [hloop]; rfl) (by simp) (by simp)
  | refuse hloop hfailed =>
      rw [h.unflagged] at hfailed
      cases hfailed
  | accept hloop hfailed =>
      exact h.relooped st.shared.permits (by rw [hloop]; rfl) (by simp) (by simp)
  | hand hloop =>
      rw [hloop] at hhanded
      exact { h with
        files := by simpa [doneJobs, Stage.isDone] using h.files
        stocked := h.stocked.hand _
        follows := by
          intro worker hworker
          rcases List.mem_append.mp hworker with hworker | hworker
          · exact h.follows worker hworker
          · rw [List.mem_singleton.mp hworker]
            trivial
        unbroken := by simp
        handed := by simpa [Loop.source?] using hhanded
        visited := by simp }
  | «break» hloop => exact absurd hloop h.unbroken
  | finish hloop hended =>
      exact h.relooped st.shared.permits (by rw [hloop]; rfl) (by simp) fun _ => h.visited (.inl hloop)

end OnCourse

theorem onCourse_of_run {turns : List Turn} (hsmooth : Smooth crew above w plan jobs)
    (h : crew.run turns (crew.start w) = some st) : OnCourse crew above w plan jobs st := by
  refine run_induction (P := fun _ st => OnCourse crew above w plan jobs st) ?_ ?_ h
  · exact
      { disk := rfl
        files := rfl
        stocked := ⟨by simp [start], by simp [start], .nil⟩
        follows := by simp [start]
        unflagged := rfl
        walked := rfl
        unbroken := by simp [start]
        handed := by simp [start, Loop.source?, hsmooth.jobs_eq]
        visited := by simp [start] }
  · intro turns st turn st' hrun hst hstep
    rcases step_cases hstep with ⟨-, hmove⟩ | ⟨number, worker, stage, shared, -, hworker, hmove, rfl⟩
    · exact hst.loop hsmooth (found_of_run hsmooth.proper hsmooth.top hsmooth.folder hrun) hmove
    · exact hst.worker hsmooth hworker hmove

end Steps

end TemplateDocs.Crew
