import TemplateDocs.Proofs.Run.Course
import TemplateDocs.Proofs.Run.Progress

/-! # All schedules agree

Documents with a plain name that is not the name of the sources stand next to their sources, so that no
job reads what another one writes. If every job of a folder succeeds on its own, then every schedule of
every crew ends, and ends with the results and the files of the jobs done one after the other.
-/

namespace TemplateDocs

open Generate List

namespace Crew

/-! ## The end of a run on course -/

section Ends

variable {crew : Crew} {above : List String} {w : World} {plan : Job → Plan} {jobs : List Job}
  {turns : List Turn} {st : State}

theorem OnCourse.ended (h : OnCourse crew above w plan jobs st)
    (hrun : crew.run turns (crew.start w) = some st) (hloop : st.loop = .finished) :
    st.workers.map Worker.job = jobs ∧
      ∀ worker ∈ st.workers, worker.stage = .ended (.ok (plan worker.job).status) := by
  constructor
  · have hhanded := h.handed
    rw [hloop, h.visited (.inr hloop)] at hhanded
    simpa [Loop.source?] using hhanded
  · intro worker hworker
    obtain ⟨ending, hending⟩ := ended_of_run hrun hloop worker hworker
    have hfollows := h.follows worker hworker
    rw [hending] at hfollows ⊢
    cases hfollows
    rfl

/-- A finished run has the results of all jobs, and no error. -/
theorem OnCourse.outcome (h : OnCourse crew above w plan jobs st)
    (hrun : crew.run turns (crew.start w) = some st) (hloop : st.loop = .finished) :
    st.shared.results ~ jobs.map (Plan.result plan) ∧
      st.outcome? = some (inOrder st.shared.results) := by
  obtain ⟨hjobs, hended⟩ := h.ended hrun hloop
  have hrecorded := recorded_of_run hrun
  have hresults : st.workers.filterMap Worker.result? = jobs.map (Plan.result plan) := by
    rw [← hjobs, List.map_map, ← List.filterMap_eq_map]
    refine List.filterMap_congr fun worker hworker => ?_
    simp [Worker.result?, hended worker hworker, Stage.recorded?, Plan.result]
  have herrors : st.shared.errors = [] := by
    have hnone : st.workers.filterMap Worker.error? = [] := by
      rw [List.filterMap_eq_nil_iff]
      intro worker hworker
      simp [Worker.error?, hended worker hworker, Stage.recorded?]
    exact List.Perm.eq_nil (hnone ▸ hrecorded.errors)
  refine ⟨hresults ▸ hrecorded.results, ?_⟩
  simp [State.outcome?, hloop, h.walked, herrors]

theorem OnCourse.files_of_finished (h : OnCourse crew above w plan jobs st)
    (hrun : crew.run turns (crew.start w) = some st) (hloop : st.loop = .finished) :
    st.shared.world.files = w.files.plantAll (allWrites plan jobs) := by
  obtain ⟨hjobs, hended⟩ := h.ended hrun hloop
  have hdone : doneJobs st.workers = st.workers.map Worker.job := by
    rw [doneJobs, ← List.filterMap_eq_map]
    refine List.filterMap_congr fun worker hworker => ?_
    simp [hended worker hworker, Stage.isDone]
  rw [h.files, hdone, hjobs]

/-- Results of different paths have an order. -/
theorem inOrder_of_nodup {results : List Synced} (h : (results.map Synced.path).Nodup) :
    inOrder results = .ok (sortByName Synced.path results) := by
  refine if_neg fun hany => ?_
  obtain ⟨a, ha, b, hb, hclash⟩ := any_clash_iff.mp hany
  simp only [clash, Bool.and_eq_true, beq_iff_eq, bne_iff_ne] at hclash
  exact hclash.2 (congrArg Synced.status (List.inj_on_of_nodup_map h ha hb hclash.1))

theorem outcome?_eq_none_iff : st.outcome? = none ↔ st.loop ≠ .finished := by
  unfold State.outcome?
  cases st.loop <;> simp

/-- At the end of every schedule there are the results and the files of all jobs. -/
theorem Smooth.agrees (h : Smooth crew above w plan jobs)
    (hnodup : ((jobs.map (Plan.result plan)).map Synced.path).Nodup)
    (hrun : crew.run turns (crew.start w) = some st) {outcome : Except Failure (List Synced)}
    (houtcome : st.outcome? = some outcome) :
    outcome = .ok (sortByName Synced.path (jobs.map (Plan.result plan))) ∧
      st.shared.world.files = w.files.plantAll (allWrites plan jobs) := by
  have hcourse := onCourse_of_run h hrun
  have hloop : st.loop = .finished := by
    by_contra hloop
    rw [outcome?_eq_none_iff.mpr hloop] at houtcome
    cases houtcome
  obtain ⟨hresults, hsome⟩ := hcourse.outcome hrun hloop
  rw [houtcome, inOrder_of_nodup ((hresults.map Synced.path).nodup_iff.mpr hnodup)] at hsome
  refine ⟨?_, hcourse.files_of_finished hrun hloop⟩
  rw [Option.some.inj hsome, ← sortByName_eq_of_perm Synced.path hresults.symm hnodup]

end Ends

end Crew

/-! ## Jobs of a folder -/

/-- Products have names of their own: nothing has the name of a product before, and no two commands have
the same tag. -/
structure Compiler.NamesProducts (c : Compiler) (w : World) : Prop where
  tags : Function.Injective c.tag
  fresh : ∀ source count, entryOf? (c.productName source count) w.temporary = none

/-- Products of sources of one name tell the number of their command. -/
theorem Compiler.NamesProducts.number_eq {c : Compiler} {w : World} (h : c.NamesProducts w)
    {a b : String} (hname : (Path.ofString a).name = (Path.ofString b).name) {m n : Nat}
    (hsame : c.productName a m = c.productName b n) : m = n := by
  have hstem : (Path.ofString a).stem = (Path.ofString b).stem := by
    rw [Path.stem, Path.stem, hname]
  unfold productName at hsame
  rw [hstem] at hsame
  refine h.tags (String.toList_inj.mp ?_)
  have hlist := congrArg String.toList hsame
  simpa [String.toList_append] using hlist

namespace Crew

/-- A folder with its sources, whose documents have a plain name. -/
structure PlainFolder (c : Compiler) (s : Settings) (input : String) (w : World) (crew : Crew)
    (above : List String) (sources : List Path) (name : String) : Prop where
  onFolder : OnFolder c s input w.files crew
  proper : w.files.top.Proper
  top : w.files.locate crew.top = .ok above
  walk : w.files.walk crew.top crew.trigger = .ok sources
  output : crew.output = Path.ofString name
  isName : Path.IsName name

namespace PlainFolder

variable {c : Compiler} {s : Settings} {input name : String} {w : World} {crew : Crew}
  {above : List String} {sources : List Path} {source : Path}

/-- The walk lists the sources below the folder, each once. -/
theorem sourcesAt_eq (h : PlainFolder c s input w crew above sources name) :
    crew.sourcesAt above w.files [] = sources ∧ sources.Nodup := by
  obtain ⟨entries, hat, hwalk⟩ := h.onFolder.walk_eq h.top
  rw [h.walk] at hwalk
  cases hwalk
  exact ⟨by simp [sourcesAt, hat, Path.below], (h.proper.at? hat).filesNamed_nodup _ _⟩

/-- The paths of a source and of its document, which is next to it. -/
theorem job_paths (h : PlainFolder c s input w crew above sources name) (hsource : source ∈ sources) :
    ∃ inner, (∀ part ∈ inner ++ [crew.trigger], Path.IsName part) ∧
      (∀ part ∈ inner ++ [name], Path.IsName part) ∧
      source = (Path.ofString crew.top).below (inner ++ [crew.trigger]) ∧
      (crew.job source).target = (Path.ofString crew.top).below (inner ++ [name]) := by
  obtain ⟨inner, bytes, rfl, hfile⟩ := (h.onFolder.mem_walk_iff h.proper h.walk h.top).mp hsource
  have hnames : ∀ part ∈ inner ++ [crew.trigger], Path.IsName part :=
    fun part hpart => h.proper.isName hfile part (List.mem_append_right above hpart)
  have hparts : crew.output.root = "" ∧ crew.output.parts = [name] := by
    rw [h.output, h.isName.ofString_eq]
    exact ⟨rfl, rfl⟩
  refine ⟨inner, hnames, fun part hpart => ?_, rfl, by rw [job_target hparts.1, hparts.2]⟩
  rcases List.mem_append.mp hpart with hpart | hpart
  · exact hnames part (List.mem_append_left _ hpart)
  · rw [List.mem_singleton.mp hpart]
    exact h.isName

/-- Different sources have different documents. -/
theorem targets_nodup (h : PlainFolder c s input w crew above sources name) :
    (sources.map fun source => (crew.job source).target.text).Nodup := by
  have hclean := Path.ofString_clean crew.top
  refine h.sourcesAt_eq.2.map_on fun source hsource other hother hsame => ?_
  obtain ⟨inner, -, hnames, hpath, htarget⟩ := h.job_paths hsource
  obtain ⟨inner', -, hnames', hpath', htarget'⟩ := h.job_paths hother
  have hpaths := congrArg Path.ofString hsame
  rw [htarget, htarget', (hclean.below_names hnames).ofString_text,
    (hclean.below_names hnames').ofString_text] at hpaths
  have hinner : inner = inner' := by simpa [Path.below] using hpaths
  rw [hpath, hpath', hinner]

/-- The places of a source and of its document. -/
theorem job_places (h : PlainFolder c s input w crew above sources name) (hsource : source ∈ sources)
    {plan : Plan} (hplan : Fits c s w.files w.disk (crew.job source) plan) :
    ∃ inner, source = (Path.ofString crew.top).below (inner ++ [crew.trigger]) ∧
      (Path.ofString source.text).name = crew.trigger ∧
      plan.place = above ++ (inner ++ [name]) ∧
      ∀ place, w.files.locate source.text = .ok place → place = above ++ (inner ++ [crew.trigger]) := by
  obtain ⟨-, -, -, -, -, htext⟩ := h.onFolder.place
  have hclean := Path.ofString_clean crew.top
  have habove : w.files.locate (Path.ofString crew.top).text = .ok above := by rw [htext, h.top]
  have hsourceName := (h.onFolder.isSource h.proper h.walk h.top hsource).name h.proper
  obtain ⟨inner, hnames, hnames', rfl, htarget⟩ := h.job_paths hsource
  have hplace := (Tree.filePlace_eq_ok_iff.mp hplan.place).1
  rw [htarget, (hclean.below_names hnames').ofString_text] at hplace
  refine ⟨inner, rfl, hsourceName (hnames _ (by simp)),
    Tree.locate_below hclean hnames' habove hplace, fun place hlocate => ?_⟩
  exact Tree.locate_below hclean hnames habove hlocate

/-- Jobs that succeed each on their own do not get in the way of each other, nor of the walk, unless
documents have the name of the sources. -/
theorem smooth (h : PlainFolder c s input w crew above sources name) (hne : name ≠ crew.trigger)
    (hproducts : c.NamesProducts w)
    (hok : ∀ source ∈ sources, ∃ synced after,
      (one c s (crew.job source)).run.run w = (.ok synced, after)) :
    ∃ plan, Smooth crew above w plan (sources.map crew.job) := by
  obtain ⟨entries, hfolder, -⟩ := h.onFolder.walk_eq h.top
  obtain ⟨-, -, -, -, -, -, -, hcompiler, hsettings, -⟩ := ofSettings?_eq_some h.onFolder.ofSettings
  have hplans : ∀ job ∈ sources.map crew.job, ∃ plan, Fits c s w.files w.disk job plan := by
    simp only [List.forall_mem_map]
    intro source hsource
    obtain ⟨synced, after, hrun⟩ := hok source hsource
    exact exists_fits (hproducts.fresh _ _) hrun
  choose! plan hplan using hplans
  have hplaces := fun (source : Path) (hsource : source ∈ sources) =>
    h.job_places hsource (hplan _ (List.mem_map_of_mem hsource))
  obtain ⟨hsources, hnodup⟩ := h.sourcesAt_eq
  refine ⟨plan, h.proper, h.top, ⟨entries, hfolder⟩, by rw [hsources], ⟨?_, ?_, ?_⟩, ?_, ?_⟩
  · rw [hcompiler, hsettings]
    exact hplan
  · refine List.pairwise_map.mpr (hnodup.imp_of_mem fun {source other} hsource hother hdiffer hsame => ?_)
    obtain ⟨inner, hpath, -, hplace, -⟩ := hplaces source hsource
    obtain ⟨inner', hpath', -, hplace', -⟩ := hplaces other hother
    rw [hplace, hplace', ← List.append_assoc, ← List.append_assoc, List.dropLast_concat,
      List.dropLast_concat, List.append_right_inj] at hsame
    exact hdiffer (by rw [hpath, hpath', hsame])
  · simp only [List.forall_mem_map]
    intro source hsource other hother hlocate
    obtain ⟨inner, -, -, -, hlocated⟩ := hplaces source hsource
    obtain ⟨inner', -, -, hplace, -⟩ := hplaces other hother
    have hlast := congrArg List.getLast? (hlocated _ hlocate)
    rw [hplace] at hlast
    simp [hne] at hlast
  · simp only [List.forall_mem_map]
    intro source hsource
    obtain ⟨inner, -, -, hplace, -⟩ := hplaces source hsource
    simp [hplace, hne]
  · simp only [NamesApart, List.forall_mem_map]
    intro source hsource other hother m n hsame
    obtain ⟨-, -, hsourceName, -⟩ := hplaces source hsource
    obtain ⟨-, -, hotherName, -⟩ := hplaces other hother
    rw [hcompiler] at hsame
    exact hproducts.number_eq (hsourceName.trans hotherName.symm) hsame

end PlainFolder

/-! ## All schedules -/

/-- What a crew does in a folder: whatever the schedule, it gives the same answer and leaves the same
files as the jobs of the sources done one after the other. -/
structure Agreement (c : Compiler) (s : Settings) (input : String) (w : World) (crew : Crew)
    (above : List String) (sources : List Path) (answer : List Synced) (after : World) : Prop where
  /-- The place of the folder. -/
  top : w.files.locate crew.top = .ok above
  /-- The sources are the files of the trigger's name in and below the folder. -/
  found : ∀ source, source ∈ sources ↔ ∃ place bytes,
    source = (Path.ofString crew.top).below (place ++ [crew.trigger]) ∧
      w.files.at? (above ++ (place ++ [crew.trigger])) = some (.file bytes)
  /-- The answer is in the order of paths. -/
  sorted : answer.Pairwise fun a b => Text.inOrder a.path b.path
  /-- It has one entry for each source, with the path of its document. -/
  entries : answer.map Synced.path ~ sources.map fun source => (crew.job source).target.text
  /-- No two entries have the same path. -/
  once : (answer.map Synced.path).Nodup
  /-- Done one after the other, the jobs have the same results, and leave the files after them. -/
  sequential : ∃ results, (all c s (sources.map crew.job)).run.run w = (.ok results, after) ∧
    answer = sortByName Synced.path results
  /-- The run over the folder is that. -/
  returns : ∀ output, (Generate.run c s input output).run.run w = (.ok answer, after)
  /-- A schedule has at most thirteen turns for each folder, and two for the end. -/
  bounded : ∀ turns st, crew.run turns (crew.start w) = some st →
    turns.length ≤ 13 * foldersAt above w.files [] + 2
  /-- A schedule can be continued up to the end. -/
  goesOn : ∀ turns st, crew.run turns (crew.start w) = some st → st.outcome? = none →
    ∃ turn st', crew.step st turn = some st'
  /-- At the end of every schedule there are the answer and the files. -/
  agrees : ∀ turns st outcome, crew.run turns (crew.start w) = some st →
    st.outcome? = some outcome → outcome = .ok answer ∧ st.shared.world.files = after.files

section Schedules

variable {c : Compiler} {s : Settings} {input name : String} {w : World} {crew : Crew}
  {sources : List Path}

/-- Where documents have a plain name other than that of the sources, products have names of their own
and every job succeeds on its own, all schedules agree with the jobs done one after the other. -/
theorem schedules_agree (h : OnFolder c s input w.files crew) (hproper : w.files.top.Proper)
    (hwalk : w.files.walk crew.top crew.trigger = .ok sources)
    (houtput : s.outputFilename = .text name) (hname : Path.IsName name) (hne : name ≠ crew.trigger)
    (hproducts : c.NamesProducts w)
    (hok : ∀ source ∈ sources, ∃ synced after,
      (one c s (crew.job source)).run.run w = (.ok synced, after)) :
    ∃ above answer after, Agreement c s input w crew above sources answer after := by
  obtain ⟨above, entries, htop, hfolder, -⟩ := h.place
  obtain ⟨-, output, hsize, -, -, houtput', hpath, hcompiler, hsettings, -⟩ :=
    ofSettings?_eq_some h.ofSettings
  rw [houtput'] at houtput
  cases houtput
  obtain ⟨sources', hwalk', hjobs⟩ := h.jobs
  rw [hwalk] at hwalk'
  cases hwalk'
  have hplain : PlainFolder c s input w crew above sources name :=
    ⟨h, hproper, htop, hwalk, hpath, hname⟩
  obtain ⟨plan, hsmooth⟩ := hplain.smooth hne hproducts hok
  have hindependent := hsmooth.independent
  rw [hcompiler, hsettings] at hindependent
  obtain ⟨after, hall, hfiles⟩ := hindependent.all_run
  have hpaths : ((sources.map crew.job).map (Plan.result plan)).map Synced.path =
      sources.map fun source => (crew.job source).target.text := by
    simp [Plan.result, Function.comp_def]
  have hnodup : (((sources.map crew.job).map (Plan.result plan)).map Synced.path).Nodup :=
    hpaths ▸ hplain.targets_nodup
  have hperm := (sortByName_perm Synced.path
    ((sources.map crew.job).map (Plan.result plan))).map Synced.path
  refine ⟨above, sortByName Synced.path ((sources.map crew.job).map (Plan.result plan)), after, ?_⟩
  exact
    { top := htop
      found := fun source => h.mem_walk_iff hproper hwalk htop
      sorted := sortByName_sorted _ _
      entries := hpaths ▸ hperm
      once := hperm.nodup_iff.mpr hnodup
      sequential := ⟨_, hall, rfl⟩
      returns := fun output => by
        rw [h.run hjobs, hall]
        dsimp only
        rw [inOrder_of_nodup hnodup]
      bounded := by
        intro turns st hrun
        have hlength := length_add_left_le hproper htop ⟨entries, hfolder⟩ hrun
        simp only [State.left, start, Loop.left, List.map_cons, List.map_nil, List.sum_cons,
          List.sum_nil] at hlength
        omega
      goesOn := fun turns st hrun hnone =>
        exists_turn_of_run hsize hrun (outcome?_eq_none_iff.mp hnone)
      agrees := by
        intro turns st outcome hrun houtcome
        obtain ⟨hsame, hleft⟩ := hsmooth.agrees hnodup hrun houtcome
        exact ⟨hsame, hleft.trans hfiles.symm⟩ }

/-- Settings for documents without sections. -/
def bare : Settings :=
  { Settings.default none with sections := [] }

theorem plainCompiler_namesProducts {w : World} (h : w.temporary = []) :
    plainCompiler.NamesProducts w := by
  refine ⟨fun m n hsame => ?_, fun source count => by rw [h]; rfl⟩
  have hlength := congrArg String.length hsame
  simpa [plainCompiler] using hlength

/-- The crew of two for the working directory. -/
def pair : Crew where
  compiler := plainCompiler
  settings := bare
  top := (Path.ofString ".").text
  trigger := "main.bicep"
  output := Path.ofString "README.md"
  size := 2

/-- Two workers document two templates. -/
theorem schedules_agree_pair :
    ∃ above after, Agreement plainCompiler bare "." twoTemplates pair above
      [Path.ofString "main.bicep", Path.ofString "a/main.bicep"]
      [{ path := "README.md", status := .created }, { path := "a/README.md", status := .created }]
      after := by
  have hlocate : twoTemplates.files.locate pair.top = .ok [] := by decide +kernel
  have hfind : twoTemplates.files.find pair.top = .ok twoTemplates.files.top := by
    simp only [Tree.find, hlocate]
    rfl
  have hfolder : OnFolder plainCompiler bare "." twoTemplates.files pair := ⟨rfl, _, hfind⟩
  have hwalk : twoTemplates.files.walk pair.top pair.trigger =
      .ok [Path.ofString "main.bicep", Path.ofString "a/main.bicep"] := by
    rw [Tree.walk, hfind]
    refine congrArg Except.ok ((Node.filesNamed_folder twoTemplates_proper _ _).trans ?_)
    decide +kernel
  have hok : ∀ source ∈ [Path.ofString "main.bicep", Path.ofString "a/main.bicep"],
      ∃ synced after, (one plainCompiler bare (pair.job source)).run.run twoTemplates =
        (.ok synced, after) := by
    have hfirst : ((one plainCompiler bare (pair.job (Path.ofString "main.bicep"))).run.run
        twoTemplates).1 = .ok { path := "README.md", status := .created } := by decide +kernel
    have hsecond : ((one plainCompiler bare (pair.job (Path.ofString "a/main.bicep"))).run.run
        twoTemplates).1 = .ok { path := "a/README.md", status := .created } := by decide +kernel
    simp only [List.mem_cons, List.not_mem_nil, or_false, forall_eq_or_imp, forall_eq]
    exact ⟨⟨_, _, Prod.ext hfirst rfl⟩, _, _, Prod.ext hsecond rfl⟩
  obtain ⟨above, answer, after, hagreement⟩ := schedules_agree hfolder twoTemplates_proper hwalk rfl
    (by decide +kernel) (by decide +kernel) (plainCompiler_namesProducts rfl) hok
  obtain ⟨results, hall, hanswer⟩ := hagreement.sequential
  have hresults : ((all plainCompiler bare ([Path.ofString "main.bicep",
      Path.ofString "a/main.bicep"].map pair.job)).run.run twoTemplates).1 =
      .ok [{ path := "README.md", status := .created },
        { path := "a/README.md", status := .created }] := by
    decide +kernel
  rw [hall] at hresults
  cases hresults
  have hsorted : answer = [{ path := "README.md", status := .created },
      { path := "a/README.md", status := .created }] :=
    hanswer.trans (List.mergeSort_of_pairwise (by decide +kernel))
  exact ⟨above, after, hsorted ▸ hagreement⟩

end Schedules

end Crew

end TemplateDocs
