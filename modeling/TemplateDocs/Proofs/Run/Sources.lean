import TemplateDocs.Proofs.Run.Crew
import TemplateDocs.Proofs.Run.Touched
import TemplateDocs.Settings.Layers

/-! # What becomes of the sources

A run over a folder changes a source only where the document of some source leads to it.
-/

namespace TemplateDocs

open Generate List

/-! ## Names of drafts and of sources -/

theorem ending_draftName {p : Path} {tag : DraftTag} {name : String}
    (h : p.name = Tree.draftName tag name) : p.ending = ".tmp" := by
  have hlist : p.name.toList = ("." ++ name ++ "." ++ tag.digits).toList ++ '.' :: "tmp".toList := by
    rw [h, Tree.draftName, String.toList_append]
    rfl
  have hbefore : ("." ++ name ++ "." ++ tag.digits).toList ≠ [] := by simp
  rw [Path.ending, hlist, Path.splitName_append hbefore (by decide) (by decide)]
  dsimp only
  decide +kernel

/-- A place for the draft of a document is no place of a source. -/
theorem draft_ne_source {t : Tree} {p : Path} {disk : Disk} {place : List String} {job : Job}
    {trigger : String} (hp : p.Proper) (hname : p.name ≠ "")
    (hdraft : t.filePlace (Tree.draft p disk).text = .ok place)
    (hcompiles : Compiles job) (hsource : (Path.ofString job.source.text).name = trigger) :
    place.getLast? ≠ some trigger := by
  obtain ⟨around, -, -, rfl, -⟩ := Tree.draft_beside hp hname hdraft
  intro hlast
  have htrigger : (Path.ofString job.source.text).name = Tree.draftName (disk.tag p) p.name := by
    rw [hsource]
    simpa using hlast.symm
  have hending := ending_draftName htrigger
  rw [hcompiles] at hending
  exact absurd hending (by decide)

/-- A file of the sources' name stays as it is, unless the document of a job leads to it. -/
theorem Generate.Touched.kept {jobs : List Job} {t u : Tree} {trigger : String} {place : List String}
    {bytes : ByteArray} (h : Touched jobs t u)
    (hjobs : ∀ job ∈ jobs, (Path.ofString job.source.text).name = trigger)
    (hplace : t.at? place = some (.file bytes)) (hname : place.getLast? = some trigger) :
    u.at? place = some (.file bytes) ∨
      ∃ job ∈ jobs, t.filePlace (Path.ofString job.target.text).text = .ok place := by
  obtain ⟨writes, rfl, hwrites⟩ := h
  by_cases hwritten : ∃ e ∈ writes, place = e.1
  · obtain ⟨e, he, rfl⟩ := hwritten
    obtain ⟨job, hjob, hcompiles, htarget | ⟨hnamed, disk, hdraft⟩⟩ := hwrites e he
    · exact .inr ⟨job, hjob, htarget⟩
    · have hne := draft_ne_source (Path.ofString_proper _) hnamed hdraft hcompiles (hjobs job hjob)
      exact absurd hname hne
  · refine .inl ?_
    rw [Tree.at?_plantAll (Touched.fileSpots hwrites) _ fun e he heq => hwritten ⟨e, he, heq⟩, hplace]
    rintro ⟨entries, hentries⟩
    rw [hplace] at hentries
    cases hentries

namespace Crew

/-! ## What the walk of a crew finds -/

/-- A source that a walk can find: it has the trigger's name, and stands in a folder that was there from
the start. -/
def IsSource (crew : Crew) (above : List String) (t : Tree) (source : Path) : Prop :=
  ∃ place, t.IsFolderAt (above ++ place) ∧
    source = (Path.ofString crew.top).below (place ++ [crew.trigger])

/-- The source that the loop is about to hand over. -/
def Loop.source? : Loop → Option Path
  | asking source | checking source | handing source => some source
  | _ => none

/-- Whether the work of a stage has gone beyond its beginning. -/
def Stage.isCompiled : Stage → Bool
  | working (.built _) | working (.parsed _) | working (.compared _ _) => true
  | _ => false

/-- What holds in a run over the folder at a place of a tree: nothing is found outside of that folder,
and nothing is written but by workers. -/
structure Found (crew : Crew) (above : List String) (t : Tree) (st : State) : Prop where
  unvisited : ∀ place ∈ st.unvisited, t.IsFolderAt (above ++ place)
  asked : ∀ source, st.loop.source? = some source → IsSource crew above t source
  handed : ∀ worker ∈ st.workers, ∃ source, IsSource crew above t source ∧
    worker.job = crew.job source
  touched : Touched (st.workers.map Worker.job) t st.shared.world.files
  compiled : ∀ worker ∈ st.workers, worker.stage.isCompiled = true → Compiles worker.job

section Steps

variable {crew : Crew} {above : List String} {t : Tree} {st : State}

theorem visit_touched {jobs : List Job} {u : Tree} {top : String} {place : List String}
    {entries : List (String × Node)} (h : Touched jobs t u) (htop : t.locate top = .ok above)
    (hplace : t.at? (above ++ place) = some (.folder entries)) (name : String) :
    ∃ here, u.visit top name place = .ok (here, Node.folderNames entries) := by
  have hfolders := h.sameFolders
  obtain ⟨writes, rfl, hwrites⟩ := h
  obtain ⟨after, hafter, hnames⟩ := Tree.folderNames_plantAll (Touched.fileSpots hwrites) hplace
  exact ⟨_, by rw [Tree.visit_of_folder (hfolders.symm.locate htop) hafter, hnames]⟩

theorem isFolderAt_inner (hproper : t.top.Proper) {place : List String} {entries : List (String × Node)}
    (hplace : t.at? place = some (.folder entries)) {name : String}
    (hname : name ∈ Node.folderNames entries) : t.IsFolderAt (place ++ [name]) := by
  obtain ⟨more, hmore⟩ := (hproper.at? hplace).mem_folderNames.mp hname
  exact ⟨more, (Tree.at?_concat hplace name).trans hmore⟩

/-- A step of the walk ends it, or visits a folder. -/
theorem Found.walkStep_cases (h : Found crew above t st) (htop : t.locate crew.top = .ok above) :
    (st.unvisited = [] ∧ crew.walkStep st = { st with loop := .waiting }) ∨
      ∃ place rest entries here, st.unvisited = place :: rest ∧
        t.at? (above ++ place) = some (.folder entries) ∧
        st.shared.world.files.visit crew.top crew.trigger place =
          .ok (here, Node.folderNames entries) ∧
        crew.walkStep st = { st with
          loop := if here then .asking ((Path.ofString crew.top).below (place ++ [crew.trigger]))
            else .walking
          unvisited := (Node.folderNames entries).map (fun name => place ++ [name]) ++ rest } := by
  unfold walkStep
  cases hunvisited : st.unvisited with
  | nil => exact .inl ⟨rfl, rfl⟩
  | cons place rest =>
      obtain ⟨entries, hentries⟩ := h.unvisited place (by simp [hunvisited])
      obtain ⟨here, hvisit⟩ := visit_touched h.touched htop hentries crew.trigger
      refine .inr ⟨place, rest, entries, here, rfl, hentries, hvisit, ?_⟩
      simp only [hvisit]

theorem Found.loop {st' : State} (h : Found crew above t st) (hproper : t.top.Proper)
    (htop : t.locate crew.top = .ok above) (hmove : LoopMoves crew st st') :
    Found crew above t st' := by
  obtain ⟨hunvisited, hasked, hhanded, htouched, hcompiled⟩ := id h
  cases hmove with
  | walk hloop =>
      rcases h.walkStep_cases htop with ⟨-, hstep⟩ |
        ⟨place, rest, entries, here, hplaces, hplace, -, hstep⟩
      · rw [hstep]
        exact ⟨hunvisited, (fun _ hsource => by cases hsource), hhanded, htouched, hcompiled⟩
      · rw [hstep]
        refine ⟨fun inner hinner => ?_, fun source hsource => ?_, hhanded, htouched, hcompiled⟩
        · rcases List.mem_append.mp hinner with hinner | hinner
          · obtain ⟨name, hname, rfl⟩ := List.mem_map.mp hinner
            rw [← List.append_assoc]
            exact isFolderAt_inner hproper hplace hname
          · exact hunvisited inner (by simp [hplaces, hinner])
        · cases here with
          | false => cases hsource
          | true =>
              cases hsource
              exact ⟨place, ⟨entries, hplace⟩, rfl⟩
  | ask hloop | accept hloop =>
      rw [hloop] at hasked
      exact ⟨hunvisited, hasked, hhanded, htouched, hcompiled⟩
  | refuse | finish =>
      exact ⟨hunvisited, (fun _ hsource => by cases hsource), hhanded, htouched, hcompiled⟩
  | «break» =>
      exact ⟨hunvisited, (fun _ hsource => by cases hsource), hhanded, by simpa using htouched,
        hcompiled⟩
  | hand hloop =>
      rw [hloop] at hasked
      refine ⟨hunvisited, (fun _ hsource => by cases hsource), fun worker hworker => ?_, ?_,
        fun worker hworker => ?_⟩
      · rcases List.mem_append.mp hworker with hworker | hworker
        · exact hhanded worker hworker
        · rw [List.mem_singleton.mp hworker]
          exact ⟨_, hasked _ rfl, rfl⟩
      · exact htouched.mono (by simp +contextual)
      · rcases List.mem_append.mp hworker with hworker | hworker
        · exact hcompiled worker hworker
        · rw [List.mem_singleton.mp hworker]
          exact fun hstage => by cases hstage

/-- Only work on the job changes files, and only beyond its beginning. -/
theorem Moves.touches {free : Bool} {job : Job} {stage stage' : Stage} {shared shared' : Shared}
    (h : Moves crew free job stage shared stage' shared')
    (hcompiled : stage.isCompiled = true → Compiles job) :
    Touches job shared.world.files shared'.world.files ∧
      (stage'.isCompiled = true → Compiles job) := by
  cases h with
  | @work shared work r world hrun =>
      rw [Run.processing_run] at hrun
      rcases hadvance : (advance crew.compiler crew.settings job work).run.run shared.world with
        ⟨r', after⟩
      rw [hadvance] at hrun
      cases hrun
      have hwork : work ≠ .begun → Compiles job := by
        intro hbegun
        refine hcompiled ?_
        cases work with
        | begun => exact absurd rfl hbegun
        | built | parsed | compared => rfl
      refine ⟨advance_touches hwork hadvance, fun hafter => ?_⟩
      cases work with
      | begun =>
          rcases r' with e | next | status
          · cases hafter
          · exact compiles_of_advance hadvance
          · cases hafter
      | built | parsed | compared => exact hwork (by simp)
  | begin | recordResult | recordError | tell | flag | leave =>
      exact ⟨.inl (by simp_all), fun hafter => by cases hafter⟩
  | release => exact ⟨.inl (by simp), fun hafter => by cases hafter⟩

theorem Found.worker {free : Bool} {number : Nat} {worker : Worker} {stage : Stage} {shared : Shared}
    (h : Found crew above t st) (hworker : st.workers[number]? = some worker)
    (hmove : Moves crew free worker.job worker.stage st.shared stage shared) :
    Found crew above t { st with shared, workers := st.workers.set number { worker with stage } } := by
  obtain ⟨hunvisited, hasked, hhanded, htouched, hcompiled⟩ := h
  have hmem : worker ∈ st.workers := List.mem_of_getElem? hworker
  obtain ⟨htouches, hafter⟩ := hmove.touches (hcompiled worker hmem)
  refine ⟨hunvisited, hasked, fun other hother => ?_, ?_, fun other hother => ?_⟩
  · rcases List.mem_or_eq_of_mem_set hother with hother | rfl
    · exact hhanded other hother
    · exact hhanded worker hmem
  · rw [map_job_set hworker]
    exact htouched.touch (List.mem_map_of_mem hmem) htouches
  · rcases List.mem_or_eq_of_mem_set hother with hother | rfl
    · exact hcompiled other hother
    · exact hafter

theorem found_of_run {w : World} {turns : List Turn} (hproper : w.files.top.Proper)
    (htop : w.files.locate crew.top = .ok above) (hfolder : w.files.IsFolderAt above)
    (h : crew.run turns (crew.start w) = some st) : Found crew above w.files st := by
  refine run_induction (P := fun _ st => Found crew above w.files st) ?_ ?_ h
  · refine ⟨fun place hplace => ?_, (fun _ hsource => by cases hsource), (by simp [start]), .refl _ _,
      (by simp [start])⟩
    rw [List.mem_singleton.mp hplace, List.append_nil]
    exact hfolder
  · intro turns st turn st' _ hst hstep
    rcases step_cases hstep with ⟨-, hmove⟩ | ⟨number, worker, stage, shared, -, hworker, hmove, rfl⟩
    · exact hst.loop hproper htop hmove
    · exact hst.worker hworker hmove

end Steps

/-! ## Paths of sources and documents -/

section Paths

variable {crew : Crew} {above place : List String} {t : Tree} {source : Path}

theorem IsSource.isName (h : IsSource crew above t source) (hproper : t.top.Proper)
    (htrigger : Path.IsName crew.trigger) :
    ∃ place, t.IsFolderAt (above ++ place) ∧ (∀ part ∈ place ++ [crew.trigger], Path.IsName part) ∧
      source = (Path.ofString crew.top).below (place ++ [crew.trigger]) := by
  obtain ⟨place, ⟨entries, hentries⟩, rfl⟩ := h
  refine ⟨place, ⟨entries, hentries⟩, fun part hpart => ?_, rfl⟩
  rcases List.mem_append.mp hpart with hpart | hpart
  · exact hproper.isName hentries part (List.mem_append_right above hpart)
  · rw [List.mem_singleton.mp hpart]
    exact htrigger

/-- The name of a source is read back from its text. -/
theorem IsSource.name (h : IsSource crew above t source) (hproper : t.top.Proper)
    (htrigger : Path.IsName crew.trigger) : (Path.ofString source.text).name = crew.trigger := by
  obtain ⟨place, -, hnames, rfl⟩ := h.isName hproper htrigger
  rw [((Path.ofString_clean crew.top).below_names hnames).ofString_text]
  simp [Path.name, Path.below]

theorem job_target (hroot : crew.output.root = "") (p : Path) (place : List String) (name : String) :
    (crew.job (p.below (place ++ [name]))).target = p.below (place ++ crew.output.parts) := by
  have hparts : (p.parts ++ (place ++ [name])).dropLast = p.parts ++ place := by
    rw [← List.append_assoc, List.dropLast_concat]
  simp [job, Path.join, Path.parent, Path.below, hroot, hparts]

/-- A document that leads to a file has the name of that file. -/
theorem IsSource.output_name (h : IsSource crew above t source) {name : String} (hproper : t.top.Proper)
    (htop : t.locate (Path.ofString crew.top).text = .ok above)
    (houtput : ∃ s, crew.output = Path.ofString s)
    (hplace : t.filePlace (Path.ofString (crew.job source).target.text).text = .ok place)
    (hlast : place.getLast? = some name) : crew.output.name = name := by
  obtain ⟨s, hs⟩ := houtput
  have houtput : crew.output.Clean := hs ▸ Path.ofString_clean s
  have hclean := Path.ofString_clean crew.top
  by_cases hroot : crew.output.root = ""
  · obtain ⟨inner, hinner, rfl⟩ := h
    have hnames : ∀ part ∈ inner, Path.IsName part := by
      obtain ⟨entries, hentries⟩ := hinner
      exact fun part hpart => hproper.isName hentries part (List.mem_append_right above hpart)
    have hparts : ∀ part ∈ inner ++ crew.output.parts, Path.IsPart part ∧ part ≠ "." := by
      intro part hpart
      rcases List.mem_append.mp hpart with hpart | hpart
      · exact ⟨(hnames part hpart).isPart, (hnames part hpart).notHere⟩
      · exact ⟨houtput.parts part hpart, houtput.notHere part hpart⟩
    have htarget := hclean.below hparts
    rw [job_target hroot, htarget.ofString_text] at hplace
    rcases List.eq_nil_or_concat crew.output.parts with hnil | ⟨front, last, hconcat⟩
    · -- without a name of its own the document is the folder of the source
      obtain ⟨hlocate, hfile⟩ := Tree.filePlace_eq_ok_iff.mp hplace
      rw [hnil, List.append_nil] at hlocate
      exact absurd (Tree.locate_below hclean hnames htop hlocate ▸ hinner) hfile
    · have hname := Tree.name_of_filePlace htarget.toProper hplace hlast
      simpa [Path.name, Path.below, hconcat] using hname
  · have htarget : (crew.job source).target = crew.output := by simp [job, Path.join, hroot]
    rw [htarget, houtput.ofString_text] at hplace
    exact Tree.name_of_filePlace houtput.toProper hplace hlast

end Paths

/-! ## Runs over a folder -/

/-- A crew for a folder under settings. -/
structure OnFolder (c : Compiler) (s : Settings) (input : String) (t : Tree) (crew : Crew) : Prop where
  ofSettings : ofSettings? c s (Path.ofString input) = some crew
  folder : ∃ entries, t.find crew.top = .ok (.folder entries)

theorem ofSettings?_eq_some {c : Compiler} {s : Settings} {top : Path} {crew : Crew}
    (h : ofSettings? c s top = some crew) :
    s.needs "max_workers" = .ok () ∧ ∃ output, 0 < crew.size ∧ s.maxWorkers = .int crew.size ∧
      s.triggerFilename = .text crew.trigger ∧ s.outputFilename = .text output ∧
      crew.output = .ofString output ∧ crew.compiler = c ∧ crew.settings = s ∧ crew.top = top.text := by
  unfold ofSettings? at h
  split at h
  · rename_i size trigger output hneeds hworkers htrigger houtput
    split at h
    · rename_i hpos
      cases h
      have hsize : ((size.toNat : Nat) : Int) = size := Int.toNat_of_nonneg hpos.le
      refine ⟨hneeds, output, ?_, ?_, htrigger, houtput, rfl, rfl, rfl, rfl⟩
      · dsimp only
        omega
      · dsimp only
        rw [hsize, hworkers]
    · cases h
  · cases h

namespace OnFolder

variable {c : Compiler} {s : Settings} {input : String} {w : World} {crew : Crew}

/-- The place of the folder, from which all paths lead down. -/
theorem place (h : OnFolder c s input w.files crew) :
    ∃ above entries, w.files.locate crew.top = .ok above ∧
      w.files.at? above = some (.folder entries) ∧ Path.ofString crew.top = Path.ofString input ∧
      (Path.ofString crew.top).text = crew.top := by
  obtain ⟨entries, hfind⟩ := h.folder
  obtain ⟨-, -, -, -, -, -, -, -, -, htop⟩ := ofSettings?_eq_some h.ofSettings
  unfold Tree.find at hfind
  cases hlocate : w.files.locate crew.top with
  | error e =>
      rw [hlocate] at hfind
      cases hfind
  | ok above =>
      simp only [hlocate] at hfind
      split at hfind
      · rename_i node hat
        cases hfind
        have hsame : Path.ofString crew.top = Path.ofString input := by
          rw [htop, (Path.ofString_clean input).ofString_text]
        exact ⟨above, entries, rfl, hat, hsame, by rw [hsame, htop]⟩
      · cases hfind

/-- What a walk of the folder finds. -/
theorem walk_eq (h : OnFolder c s input w.files crew) {above : List String}
    (htop : w.files.locate crew.top = .ok above) :
    ∃ entries, w.files.at? above = some (.folder entries) ∧
      w.files.walk crew.top crew.trigger =
        .ok (Node.filesNamed crew.trigger (Path.ofString crew.top) (.folder entries)) := by
  obtain ⟨above', entries, htop', hat, -⟩ := h.place
  rw [htop] at htop'
  cases htop'
  exact ⟨entries, hat, by simp only [Tree.walk, Tree.find, htop, hat]⟩

/-- The sources of the folder, and their jobs. -/
theorem jobs (h : OnFolder c s input w.files crew) :
    ∃ sources, w.files.walk crew.top crew.trigger = .ok sources ∧
      Generate.jobs s w.files crew.top = .ok (sources.map crew.job) := by
  obtain ⟨above, -, htop, -⟩ := h.place
  obtain ⟨entries, -, hwalk⟩ := h.walk_eq htop
  obtain ⟨-, output, -, -, htrigger, houtput, hname, -⟩ := ofSettings?_eq_some h.ofSettings
  refine ⟨_, hwalk, ?_⟩
  unfold Generate.jobs targetName
  rw [htrigger, houtput]
  simp only [hwalk, ← hname]
  cases Node.filesNamed crew.trigger (Path.ofString crew.top) (.folder entries) <;> rfl

/-- A walk finds the files of the trigger's name in and below the folder. -/
theorem mem_walk_iff (h : OnFolder c s input w.files crew) (hproper : w.files.top.Proper)
    {sources : List Path} {source : Path} {above : List String}
    (hwalk : w.files.walk crew.top crew.trigger = .ok sources)
    (htop : w.files.locate crew.top = .ok above) :
    source ∈ sources ↔ ∃ place bytes,
      source = (Path.ofString crew.top).below (place ++ [crew.trigger]) ∧
      w.files.at? (above ++ (place ++ [crew.trigger])) = some (.file bytes) := by
  obtain ⟨entries, hat, hwalk'⟩ := h.walk_eq htop
  rw [hwalk] at hwalk'
  cases hwalk'
  rw [(hproper.at? hat).mem_filesNamed]
  simp only [Tree.at?_append _ above, hat, Option.bind_some]

/-- What a walk finds is a source. -/
theorem isSource (h : OnFolder c s input w.files crew) (hproper : w.files.top.Proper)
    {sources : List Path} {source : Path} {above : List String}
    (hwalk : w.files.walk crew.top crew.trigger = .ok sources)
    (htop : w.files.locate crew.top = .ok above) (hsource : source ∈ sources) :
    IsSource crew above w.files source := by
  obtain ⟨place, bytes, rfl, hfile⟩ := (h.mem_walk_iff hproper hwalk htop).mp hsource
  rw [← List.append_assoc] at hfile
  exact ⟨place, Node.isFolderAt_of_concat hfile, rfl⟩

/-- A run over a folder does the jobs one after the other. -/
theorem run (h : OnFolder c s input w.files crew) {jobs : List Job}
    (hjobs : Generate.jobs s w.files crew.top = .ok jobs) (output : Option String) :
    (Generate.run c s input output).run.run w =
      match (all c s jobs).run.run w with
      | (.error e, after) => (.error e, after)
      | (.ok results, after) => (inOrder results, after) := by
  obtain ⟨entries, hfind⟩ := h.folder
  obtain ⟨hneeds, -, hpos, hworkers, -, -, -, -, -, htop⟩ := ofSettings?_eq_some h.ofSettings
  have hprobe : w.files.probe (Path.ofString input).text = .ok (some (.folder entries)) := by
    rw [← htop, Tree.probe, hfind]
  have hcheck : checkWorkers s.maxWorkers = .ok () := by
    rw [hworkers, checkWorkers, if_pos (by omega)]
  have hidle : isIdle s.maxWorkers = false := by
    rw [hworkers]
    rfl
  unfold Generate.run
  dsimp only
  rw [Run.get_bind_run, hprobe]
  dsimp only
  unfold Generate.folder
  rw [Run.ofExcept_bind_run, hneeds]
  dsimp only
  rw [Run.ofExcept_bind_run, hcheck]
  dsimp only
  rw [Run.get_bind_run, Run.ofExcept_bind_run, ← htop, hjobs]
  dsimp only
  rw [hidle]
  simp only [Bool.false_eq_true, if_false]
  rw [Run.run_bind]
  rcases (all c s jobs).run.run w with ⟨e | results, after⟩ <;> rfl

end OnFolder

/-! ## Sources -/

section Kept

variable {c : Compiler} {s : Settings} {input : String} {w : World} {crew : Crew} {jobs : List Job}
  {place : List String} {bytes : ByteArray}

/-- What jobs over a folder leave of a file with the sources' name. -/
theorem kept_of_touched {t : Tree} {above : List String} (h : OnFolder c s input w.files crew)
    (hproper : w.files.top.Proper) (htop : w.files.locate crew.top = .ok above)
    (hjobs : ∀ job ∈ jobs, ∃ source, IsSource crew above w.files source ∧ job = crew.job source)
    (htouched : Touched jobs w.files t) (hplace : w.files.at? place = some (.file bytes))
    (hname : place.getLast? = some crew.trigger) :
    t.at? place = some (.file bytes) ∨
      (crew.output.name = crew.trigger ∧
        ∃ job ∈ jobs, w.files.filePlace (Path.ofString job.target.text).text = .ok place) := by
  obtain ⟨-, -, -, -, -, htext⟩ := h.place
  obtain ⟨-, output, -, -, -, -, houtput, -⟩ := ofSettings?_eq_some h.ofSettings
  have htrigger : Path.IsName crew.trigger :=
    hproper.isName hplace _ (List.mem_of_getLast? hname)
  have hnames : ∀ job ∈ jobs, (Path.ofString job.source.text).name = crew.trigger := by
    intro job hjob
    obtain ⟨source, hsource, rfl⟩ := hjobs job hjob
    exact hsource.name hproper htrigger
  rcases htouched.kept hnames hplace hname with hkept | ⟨job, hjob, htarget⟩
  · exact .inl hkept
  · obtain ⟨source, hsource, rfl⟩ := hjobs job hjob
    refine .inr ⟨?_, crew.job source, hjob, htarget⟩
    exact hsource.output_name hproper (by rw [htext, htop]) ⟨output, houtput⟩ htarget hname

/-- Every file of the sources' name keeps its bytes, in every state of every schedule and also when the
jobs are done one after the other, whether they fail or not: unless documents have the name of the
sources, and the document of a job leads to the file. -/
theorem sources_kept (h : OnFolder c s input w.files crew) (hproper : w.files.top.Proper)
    (hplace : w.files.at? place = some (.file bytes)) (hname : place.getLast? = some crew.trigger) :
    (∀ turns st, crew.run turns (crew.start w) = some st →
      st.shared.world.files.at? place = some (.file bytes) ∨
        (crew.output.name = crew.trigger ∧ ∃ worker ∈ st.workers,
          w.files.filePlace (Path.ofString worker.job.target.text).text = .ok place)) ∧
    ∀ output r after, (Generate.run c s input output).run.run w = (r, after) →
      after.files.at? place = some (.file bytes) ∨
        (crew.output.name = crew.trigger ∧ ∃ jobs, Generate.jobs s w.files crew.top = .ok jobs ∧
          ∃ job ∈ jobs, w.files.filePlace (Path.ofString job.target.text).text = .ok place) := by
  obtain ⟨above, entries, htop, hfolder, -⟩ := h.place
  constructor
  · intro turns st hrun
    have hfound := found_of_run hproper htop ⟨entries, hfolder⟩ hrun
    have hjobs : ∀ job ∈ st.workers.map Worker.job, ∃ source,
        IsSource crew above w.files source ∧ job = crew.job source := by
      simpa only [List.forall_mem_map] using hfound.handed
    refine (kept_of_touched h hproper htop hjobs hfound.touched hplace hname).imp_right ?_
    rintro ⟨houtput, job, hjob, htarget⟩
    obtain ⟨worker, hworker, rfl⟩ := List.mem_map.mp hjob
    exact ⟨houtput, worker, hworker, htarget⟩
  · intro output r after hrun
    obtain ⟨sources, hwalk, hjobs⟩ := h.jobs
    have hfiles : after.files = ((all c s (sources.map crew.job)).run.run w).2.files := by
      rw [h.run hjobs] at hrun
      rcases hall : (all c s (sources.map crew.job)).run.run w with ⟨e | results, last⟩
      · rw [hall] at hrun
        cases hrun
        rfl
      · rw [hall] at hrun
        cases hrun
        rfl
    have htouched := all_touched c s (sources.map crew.job) w
    rw [← hfiles] at htouched
    have hsources : ∀ job ∈ sources.map crew.job, ∃ source,
        IsSource crew above w.files source ∧ job = crew.job source := by
      simp only [List.forall_mem_map]
      exact fun source hsource => ⟨source, h.isSource hproper hwalk htop hsource, rfl⟩
    refine (kept_of_touched h hproper htop hsources htouched hplace hname).imp_right ?_
    exact fun ⟨houtput, hjob⟩ => ⟨houtput, _, hjobs, hjob⟩

theorem twoTemplates_proper : twoTemplates.files.top.Proper := by
  have hinner : (Node.folder [("main.bicep", .file .empty)]).Proper := by
    refine Node.proper_folder ?_ (by simp) ?_ <;> simp only [List.mem_singleton, forall_eq]
    · decide +kernel
    · exact Node.proper_file _
  refine Node.proper_folder ?_ (by decide) ?_ <;>
    simp only [List.mem_cons, List.not_mem_nil, or_false, forall_eq_or_imp, forall_eq]
  · decide +kernel
  · exact ⟨hinner, Node.proper_file _⟩

/-- The default settings spare the sources. -/
theorem sources_kept_default :
    ∃ crew, ofSettings? helpless.compiler (.default none) (Path.ofString ".") = some crew ∧
      ∀ turns st, crew.run turns (crew.start twoTemplates) = some st →
        st.shared.world.files.at? ["a", "main.bicep"] = some (.file .empty) := by
  refine ⟨_, rfl, fun turns st hrun => ?_⟩
  have hlocate : twoTemplates.files.locate (Path.ofString ".").text = .ok [] := by decide +kernel
  have hfolder : OnFolder helpless.compiler (.default none) "." twoTemplates.files _ :=
    ⟨rfl, _, by simp only [Tree.find, hlocate]; rfl⟩
  have hplace : twoTemplates.files.at? ["a", "main.bicep"] = some (.file .empty) := rfl
  rcases (sources_kept hfolder twoTemplates_proper hplace rfl).1 turns st hrun with hkept | ⟨hname, -⟩
  · exact hkept
  · exact absurd hname (by decide +kernel)

/-- Settings under which a document has the name of its source. -/
def selfNamed : Settings :=
  { Settings.default none with sections := [], outputFilename := .text "main.bicep" }

/-- A compiler whose product is an empty document. -/
def plainCompiler : Compiler where
  compile _ := { product := some (.file ⟨#[0x7B, 0x7D]⟩) }
  folder := "/tmp"
  tag count := String.ofList (List.replicate count 'x')

/-- Valid settings under which a run over a folder overwrites the source in it. -/
theorem sources_overwritten :
    Settings.validate [(.text "sections", .list []), (.text "output_filename", .text "main.bicep")] =
        .ok () ∧
      (Settings.ofMapping none
        [(.text "sections", .list []), (.text "output_filename", .text "main.bicep")]).result =
        .ok selfNamed ∧
      ((Generate.run plainCompiler selfNamed "." none).run.run
        { files := .folder [("main.bicep", .file .empty)] }).2.files.read "main.bicep" ≠ .ok .empty := by
  refine ⟨?_, ?_, by decide +kernel⟩
  · rfl
  · rfl

end Kept

end Crew

end TemplateDocs
