import Mathlib.Data.List.Pairwise
import TemplateDocs.Proofs.Run.Touched

/-! # Jobs that do not get in each other's way

A job that succeeds goes through steps whose outcome is known beforehand from its source, its compiled
form and its document. Jobs with documents in folders of their own leave each other's steps as they are,
so that they can be done one after the other.
-/

namespace TemplateDocs

open List

namespace Generate

/-! ## Plans -/

/-- What a job that succeeds comes by, from its compiled form to its document. -/
structure Plan where
  /-- The compiled form. -/
  product : ByteArray
  template : Template
  /-- The text of the document. -/
  text : String
  /-- Whether the document is there already. -/
  there : Bool
  /-- Whether it holds the text already. -/
  same : Bool
  /-- The place of the document. -/
  place : List String
  deriving Inhabited

namespace Plan

/-- What becomes of the document. -/
def status (plan : Plan) : SyncStatus :=
  if plan.same then .unchanged else if plan.there then .updated else .created

/-- What is written: the document, unless it holds the text already. -/
def writes (plan : Plan) : List (List String × ByteArray) :=
  if plan.same then [] else [(plan.place, Text.encode plan.text)]

theorem mem_writes {plan : Plan} {e : List String × ByteArray} (h : e ∈ plan.writes) :
    e.1 = plan.place := by
  unfold writes at h
  split at h
  · cases h
  · rw [List.mem_singleton.mp h]

end Plan

/-- The plan of a job in a tree: every step of the job succeeds, and gives what the plan says. -/
structure Fits (c : Compiler) (s : Settings) (t : Tree) (disk : Disk) (job : Job) (plan : Plan) :
    Prop where
  started : c.Starts job.source.text
  console : (c.compile job.source.text).IsText
  exits : (c.compile job.source.text).exitCode = 0
  product : (c.compile job.source.text).product = some (.file plan.product)
  parsed : ∀ name, (Template.parse job.source.text (t.read job.source.text) name
    (.ok plan.product)).result = .ok plan.template
  rendered : ∃ content, page s plan.template = .ok content ∧ plan.text = Tree.withLineFeeds content
  compared : t.compare job.target.text plan.text none disk = .ok (plan.there, plan.same)
  place : t.filePlace (Path.ofString job.target.text).text = .ok plan.place
  written : plan.same = false → t.writeText (Path.ofString job.target.text) plan.text disk =
    (.ok (), Tree.plant (.file (Text.encode plan.text)) plan.place t)

/-! ## The whole of a job from its steps -/

theorem parse_steps (c : Compiler) (source : String) :
    parse c source = c.build source >>= take c source := rfl

theorem document_steps (s : Settings) (target : String) (t : Template) (w : World) :
    (document s target t).run.run w =
      match (inspect s target t).run.run w with
      | (.error e, after) => (.error e, after)
      | (.ok none, after) => (.ok .unchanged, after)
      | (.ok (some (text, there)), after) => (write target text there).run.run after := by
  rw [document_run, inspect_run]
  cases page s t with
  | error e => rfl
  | ok content =>
      simp only [Tree.sync]
      rcases w.files.compare target (Tree.withLineFeeds content) none w.disk with e | ⟨there, _ | _⟩
      · rfl
      · simp only [Generate.write]
        rw [Run.get_bind_run]
        rfl
      · rfl

/-! ## Steps of a job that succeeds -/

section Steps

variable {c : Compiler} {s : Settings} {w : World} {job : Job} {plan : Plan}

theorem Fits.build_run (h : Fits c s w.files w.disk job plan) :
    ∃ after, (c.build job.source.text).run.run w =
        (.ok (c.productName job.source.text w.commands.length), after) ∧
      after.files = w.files ∧ after.disk = w.disk ∧
      after.commands.length = w.commands.length + 1 ∧
      after.temporary = (c.productName job.source.text w.commands.length, .file plan.product) ::
        w.temporary := by
  obtain ⟨command, hbuild⟩ := h.started.build_run w
  obtain ⟨errors, herrors⟩ := Compilation.exists_errorText_iff.mpr h.console
  rw [herrors] at hbuild
  dsimp only at hbuild
  rw [if_pos (by rw [h.exits, beq_self_eq_true])] at hbuild
  exact ⟨_, hbuild, by simp [Compiler.worldAfter, World.addTemporary, h.product]⟩

/-- Only the entry of the name can go. -/
theorem dropTemporary_other {name other : String} (hne : other ≠ name) (path : String) :
    entryOf? other (w.dropTemporary path name).temporary = entryOf? other w.temporary := by
  unfold World.dropTemporary
  split
  · rfl
  · split
    · exact entryOf?_eraseP_of_ne hne _
    · rfl

theorem Fits.take_run (h : Fits c s w.files w.disk job plan) {name : String}
    (hproduct : entryOf? name w.temporary = some (.file plan.product)) :
    ∃ after, (take c job.source.text name).run.run w = (.ok plan.template, after) ∧
      after.files = w.files ∧ after.disk = w.disk ∧ after.commands = w.commands ∧
      ∀ other, other ≠ name → entryOf? other after.temporary = entryOf? other w.temporary := by
  have hread : w.readTemporary name = .ok plan.product := by
    simp only [World.readTemporary, hproduct]
  rw [Generate.take_run, hread]
  dsimp only
  rw [h.parsed]
  obtain ⟨hfiles, hdisk⟩ := dropTemporary_keeps
    { w with warnings := w.warnings ++ (Template.parse job.source.text
      (w.files.read job.source.text) (c.productPath name) (.ok plan.product)).warnings }
    (c.productPath name) name
  exact ⟨_, rfl, hfiles, hdisk, dropTemporary_commands _ _ _, fun other hne => dropTemporary_other hne _⟩

theorem Fits.inspect_run (h : Fits c s w.files w.disk job plan) :
    (inspect s job.target.text plan.template).run.run w =
      (.ok (if plan.same then none else some (plan.text, plan.there)), w) := by
  obtain ⟨content, hpage, htext⟩ := h.rendered
  have hcompared := h.compared
  rw [htext] at hcompared ⊢
  rw [Generate.inspect_run, hpage]
  dsimp only
  rw [hcompared]
  cases plan.same <;> rfl

theorem Fits.write_run (h : Fits c s w.files w.disk job plan) (hsame : plan.same = false) :
    (write job.target.text plan.text plan.there).run.run w =
      (.ok plan.status, { w with files := w.files.plantAll plan.writes }) := by
  unfold Generate.write
  rw [Run.get_bind_run, h.written hsame]
  simp only [Plan.status, Plan.writes, hsame, Bool.false_eq_true, if_false]
  rfl

theorem Fits.document_run (h : Fits c s w.files w.disk job plan) :
    (document s job.target.text plan.template).run.run w =
      (.ok plan.status, { w with files := w.files.plantAll plan.writes }) := by
  rw [document_steps, h.inspect_run]
  cases hsame : plan.same with
  | true =>
      simp only [Plan.status, Plan.writes, hsame, if_true]
      rfl
  | false => exact h.write_run hsame

/-- A job that fits its plan does what the plan says. -/
theorem Fits.one_run (h : Fits c s w.files w.disk job plan) :
    ∃ after, (one c s job).run.run w = (.ok { path := job.target.text, status := plan.status }, after) ∧
      after.files = w.files.plantAll plan.writes ∧ after.disk = w.disk := by
  obtain ⟨built, hbuild, hbuiltFiles, hbuiltDisk, -, htemporary⟩ := h.build_run
  have hbuilt : Fits c s built.files built.disk job plan := by rwa [hbuiltFiles, hbuiltDisk]
  have hproduct : entryOf? (c.productName job.source.text w.commands.length) built.temporary =
      some (.file plan.product) := by
    simp [htemporary, entryOf?]
  obtain ⟨taken, htake, htakenFiles, htakenDisk, -⟩ := hbuilt.take_run hproduct
  have htaken : Fits c s taken.files taken.disk job plan := by rwa [htakenFiles, htakenDisk]
  have hparse : (parse c job.source.text).run.run w = (.ok plan.template, taken) := by
    rw [parse_steps, Run.run_bind, hbuild]
    exact htake
  rw [Generate.one_run, hparse]
  dsimp only
  rw [htaken.document_run]
  refine ⟨_, rfl, ?_, ?_⟩
  · rw [htakenFiles, hbuiltFiles]
  · rw [htakenDisk, hbuiltDisk]

end Steps

/-! ## Plans of jobs that succeed -/

/-- What a product is read as does not depend on its name. -/
theorem parse_any_name {source name : String} {contents : Contents} {bytes : ByteArray}
    {t : Template} (h : (Template.parse source contents name (.ok bytes)).result = .ok t)
    (other : String) : (Template.parse source contents other (.ok bytes)).result = .ok t := by
  rw [parse_result] at h ⊢
  obtain ⟨found, hfound, h⟩ := bind_eq_ok_iff.mp h
  obtain ⟨doc, hdoc, h⟩ := bind_eq_ok_iff.mp h
  obtain ⟨bytes', hbytes, hheld⟩ := compiledDocument_eq_ok hdoc
  cases hbytes
  have hother : compiledDocument other (.ok bytes) = .ok doc := by
    rw [compiledDocument_held hheld] at hdoc ⊢
    exact hdoc
  exact bind_eq_ok_iff.mpr ⟨found, hfound, bind_eq_ok_iff.mpr ⟨doc, hother, h⟩⟩

/-- A product that can be parsed is what the compiler left, if nothing had its name before. -/
theorem product_of_parse {c : Compiler} {source : String} {w mid : World} {t : Template}
    (hfresh : entryOf? (c.productName source w.commands.length) w.temporary = none)
    (h : (parse c source).run.run w = (.ok t, mid)) :
    ∃ name built bytes, (c.build source).run.run w = (.ok name, built) ∧
      (c.compile source).product = some (.file bytes) ∧
      (Template.parse source (w.files.read source) (c.productPath name) (.ok bytes)).result = .ok t := by
  rw [parse_run] at h
  rcases hbuild : (c.build source).run.run w with ⟨e | name, built⟩
  · rw [hbuild] at h
    cases h
  · rw [hbuild] at h
    have hresult := congrArg Prod.fst h
    dsimp only at hresult
    rw [build_files hbuild] at hresult
    obtain ⟨-, -, -, rfl, command, rfl⟩ := Compiler.build_eq_ok hbuild
    obtain ⟨-, -, -, -, -, -, ⟨bytes, hbytes, -⟩, -⟩ := parse_eq_ok hresult
    rw [hbytes] at hresult
    refine ⟨_, _, bytes, rfl, ?_, hresult⟩
    unfold Compiler.worldAfter World.readTemporary at hbytes
    cases hproduct : (c.compile source).product with
    | none => simp [hproduct, hfresh] at hbytes
    | some node =>
        cases node with
        | folder entries => simp [hproduct, World.addTemporary, entryOf?] at hbytes
        | file left => simpa [hproduct, World.addTemporary, entryOf?] using hbytes

/-- A document that is brought in step was compared at its place, and written there if need be. -/
theorem document_eq_ok {s : Settings} {target : String} {t : Template} {w after : World}
    {status : SyncStatus} (h : (document s target t).run.run w = (.ok status, after)) :
    ∃ text there same place,
      (∃ content, page s t = .ok content ∧ text = Tree.withLineFeeds content) ∧
      w.files.compare target text none w.disk = .ok (there, same) ∧
      w.files.filePlace (Path.ofString target).text = .ok place ∧
      (same = false → w.files.writeText (Path.ofString target) text w.disk =
        (.ok (), Tree.plant (.file (Text.encode text)) place w.files)) := by
  rw [document_run] at h
  cases hpage : page s t with
  | error e =>
      rw [hpage] at h
      cases h
  | ok content =>
      rw [hpage] at h
      rcases hsync : w.files.sync target content none w.disk with ⟨r, files⟩
      simp only [hsync] at h
      obtain ⟨hstatus, -⟩ := Prod.mk.inj h
      subst hstatus
      rcases Tree.sync_eq_ok_iff.mp hsync with ⟨there, hcompare, -⟩ | ⟨there, hcompare, hwrite, -⟩
      · obtain ⟨place, hplace⟩ := Tree.filePlace_of_compare hcompare
        refine ⟨_, there, true, place, ⟨content, rfl, rfl⟩, hcompare, hplace, fun hsame => ?_⟩
        cases hsame
      · obtain ⟨-, -, -, -, -, bytes, -, hwritten⟩ := Tree.writeText_eq_ok_iff.mp hwrite
        obtain ⟨place, hplace, -⟩ := Tree.write_eq_ok_iff.mp hwritten
        refine ⟨_, there, false, place, ⟨content, rfl, rfl⟩, hcompare, hplace, fun _ => ?_⟩
        exact (Tree.SameFolders.refl _).writeText hplace hwrite

/-- Every job that succeeds has a plan. -/
theorem exists_fits {c : Compiler} {s : Settings} {job : Job} {w after : World} {synced : Synced}
    (hfresh : entryOf? (c.productName job.source.text w.commands.length) w.temporary = none)
    (h : (one c s job).run.run w = (.ok synced, after)) :
    ∃ plan, Fits c s w.files w.disk job plan := by
  rw [Generate.one_run] at h
  have hkeeps := parse_keeps c job.source.text w
  rcases hparse : (parse c job.source.text).run.run w with ⟨e | template, mid⟩
  · rw [hparse] at h
    cases h
  · rw [hparse] at h hkeeps
    obtain ⟨hfiles, hdisk⟩ := hkeeps
    obtain ⟨name, built, product, hbuild, hproduct, hparsed⟩ := product_of_parse hfresh hparse
    obtain ⟨hstarts, hconsole, hexits, -⟩ := Compiler.build_eq_ok hbuild
    rcases hdocument : (document s job.target.text template).run.run mid with ⟨e | status, last⟩
    · simp only [hdocument] at h
      cases h
    · obtain ⟨text, there, same, place, hrendered, hcompared, hplace, hwritten⟩ :=
        document_eq_ok hdocument
      rw [hfiles, hdisk] at hcompared
      rw [hfiles] at hplace
      rw [hfiles, hdisk] at hwritten
      exact ⟨{ product, template, text, there, same, place }, hstarts, hconsole, hexits, hproduct,
        parse_any_name hparsed, hrendered, hcompared, hplace, hwritten⟩

/-! ## Jobs that succeed whatever others write -/

theorem Fits.plantAll {c : Compiler} {s : Settings} {t : Tree} {disk : Disk} {job : Job} {plan : Plan}
    {writes : List (List String × ByteArray)} (h : Fits c s t disk job plan)
    (hspots : ∀ e ∈ writes, t.FileSpot e.1) (htarget : ∀ e ∈ writes, e.1 ≠ plan.place)
    (hsource : ∀ e ∈ writes, t.locate job.source.text ≠ .ok e.1) :
    Fits c s (t.plantAll writes) disk job plan := by
  have hfolders := (Tree.sameFolders_plantAll hspots).symm
  have hread : (t.plantAll writes).read job.source.text = t.read job.source.text := by
    obtain ⟨-, -, -, -, ⟨bytes, hbytes, -⟩, -⟩ := parse_eq_ok (h.parsed "")
    obtain ⟨place, hplace, -⟩ := Tree.filePlace_of_read hbytes
    have hne : ∀ e ∈ writes, e.1 ≠ place := by
      rintro e he rfl
      exact hsource e he (Tree.filePlace_eq_ok_iff.mp hplace).1
    rw [Tree.read, Tree.find_plantAll hspots hplace hne, Tree.read]
  exact
    { h with
      parsed := by
        rw [hread]
        exact h.parsed
      compared := by
        rw [Tree.compare_congr (Tree.find_plantAll hspots h.place htarget)]
        exact h.compared
      place := hfolders.filePlace h.place
      written := fun hsame => hfolders.writeText h.place (h.written hsame) }

/-- Jobs that succeed, with documents in folders of their own none of which is a source. -/
structure Independent (c : Compiler) (s : Settings) (t : Tree) (disk : Disk) (plan : Job → Plan)
    (jobs : List Job) : Prop where
  fits : ∀ job ∈ jobs, Fits c s t disk job (plan job)
  apart : jobs.Pairwise fun job other => (plan job).place.dropLast ≠ (plan other).place.dropLast
  spared : ∀ job ∈ jobs, ∀ other ∈ jobs, t.locate job.source.text ≠ .ok (plan other).place

/-- What jobs write. -/
def allWrites (plan : Job → Plan) (jobs : List Job) : List (List String × ByteArray) :=
  jobs.flatMap fun job => (plan job).writes

theorem allWrites_append (plan : Job → Plan) (jobs more : List Job) :
    allWrites plan (jobs ++ more) = allWrites plan jobs ++ allWrites plan more :=
  List.flatMap_append

theorem mem_allWrites {plan : Job → Plan} {jobs : List Job} {e : List String × ByteArray}
    (h : e ∈ allWrites plan jobs) : ∃ job ∈ jobs, e.1 = (plan job).place := by
  obtain ⟨job, hjob, he⟩ := List.mem_flatMap.mp h
  exact ⟨job, hjob, Plan.mem_writes he⟩

/-- The result of a job. -/
def Plan.result (plan : Job → Plan) (job : Job) : Synced :=
  { path := job.target.text, status := (plan job).status }

namespace Independent

variable {c : Compiler} {s : Settings} {t : Tree} {disk : Disk} {plan : Job → Plan}
  {jobs done more : List Job}

theorem fileSpots (h : Independent c s t disk plan jobs) (hdone : ∀ job ∈ done, job ∈ jobs) :
    ∀ e ∈ allWrites plan done, t.FileSpot e.1 := by
  intro e he
  obtain ⟨job, hjob, hplace⟩ := mem_allWrites he
  rw [hplace]
  exact Tree.filePlace_fileSpot (h.fits job (hdone job hjob)).place

theorem nodup (h : Independent c s t disk plan jobs) : jobs.Nodup :=
  h.apart.imp fun hne hsame => hne (by rw [hsame])

theorem place_ne (h : Independent c s t disk plan jobs) {job other : Job} (hjob : job ∈ jobs)
    (hother : other ∈ jobs) (hne : job ≠ other) :
    (plan job).place.dropLast ≠ (plan other).place.dropLast := by
  have : Std.Symm fun job other => (plan job).place.dropLast ≠ (plan other).place.dropLast :=
    ⟨fun _ _ => Ne.symm⟩
  exact h.apart.forall hjob hother hne

/-- A job goes by its plan also after other jobs. -/
theorem fits_after (h : Independent c s t disk plan jobs) (hdone : ∀ job ∈ done, job ∈ jobs)
    {job : Job} (hjob : job ∈ jobs) (hnot : job ∉ done) :
    Fits c s (t.plantAll (allWrites plan done)) disk job (plan job) := by
  refine (h.fits job hjob).plantAll (h.fileSpots hdone) (fun e he => ?_) fun e he => ?_
  · obtain ⟨other, hother, hplace⟩ := mem_allWrites he
    rw [hplace]
    intro hsame
    have hne : other ≠ job := by
      rintro rfl
      exact hnot hother
    exact h.place_ne (hdone other hother) hjob hne (by rw [hsame])
  · obtain ⟨other, hother, hplace⟩ := mem_allWrites he
    rw [hplace]
    exact h.spared job hjob other (hdone other hother)

/-- The order of jobs does not matter for the files. -/
theorem plantAll_perm (h : Independent c s t disk plan jobs) (hdone : done <+ jobs)
    (hperm : done ~ more) :
    t.plantAll (allWrites plan done) = t.plantAll (allWrites plan more) := by
  refine Tree.plantAll_perm (hperm.flatMap_right _) (h.fileSpots fun job hjob => hdone.subset hjob) ?_
  have hapart := h.apart.sublist hdone
  refine List.pairwise_flatMap.mpr ⟨fun job _ => ?_, hapart.imp fun hne e he e' he' => ?_⟩
  · unfold Plan.writes
    split
    · exact .nil
    · exact List.pairwise_singleton _ _
  · rw [Plan.mem_writes he, Plan.mem_writes he']
    exact hne

/-- What is left after the first job. -/
theorem rest {job : Job} (h : Independent c s t disk plan (job :: jobs)) :
    Independent c s (t.plantAll (plan job).writes) disk plan jobs := by
  obtain ⟨hfirst, happart⟩ := List.pairwise_cons.mp h.apart
  have hdone : ∀ other ∈ [job], other ∈ job :: jobs := by simp
  have hwrites : allWrites plan [job] = (plan job).writes := List.flatMap_singleton _ _
  have hfolders := Tree.sameFolders_plantAll (h.fileSpots hdone)
  rw [hwrites] at hfolders
  refine ⟨fun other hother => ?_, happart, fun other hother third hthird hlocate => ?_⟩
  · have hne : other ∉ [job] := by
      rw [List.mem_singleton]
      rintro rfl
      exact hfirst other hother rfl
    exact hwrites ▸ h.fits_after hdone (List.mem_cons_of_mem job hother) hne
  · exact h.spared other (List.mem_cons_of_mem job hother) third (List.mem_cons_of_mem job hthird)
      (hfolders.locate hlocate)

/-- The jobs one after the other. -/
theorem all_run {w : World} (h : Independent c s w.files w.disk plan jobs) :
    ∃ after, (all c s jobs).run.run w = (.ok (jobs.map (Plan.result plan)), after) ∧
      after.files = w.files.plantAll (allWrites plan jobs) := by
  induction jobs generalizing w with
  | nil => exact ⟨w, all_nil_run c s w, rfl⟩
  | cons job jobs ih =>
      obtain ⟨mid, hone, hfiles, hdisk⟩ := (h.fits job List.mem_cons_self).one_run
      have hrest : Independent c s mid.files mid.disk plan jobs := by
        rw [hfiles, hdisk]
        exact h.rest
      obtain ⟨after, hall, hafter⟩ := ih hrest
      refine ⟨after, ?_, ?_⟩
      · rw [all_cons_run, hone]
        simp only [hall]
        rfl
      · rw [hafter, hfiles, ← Tree.plantAll_append]
        rfl

end Independent

end Generate

end TemplateDocs
