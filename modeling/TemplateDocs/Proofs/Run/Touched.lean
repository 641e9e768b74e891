import TemplateDocs.Proofs.Files.Walk
import TemplateDocs.Proofs.Run.Failures
import TemplateDocs.Run.Crew

/-! # The files that jobs write

A job writes its document, or leaves the draft of it, and it writes nothing unless its source has the
ending of a template. All other files stay as they are.
-/

namespace TemplateDocs

namespace Tree

/-- A file can be written at the place: the file of the path, or a draft of that file. -/
def WritableAt (t : Tree) (p : Path) (place : List String) : Prop :=
  t.filePlace p.text = .ok place ∨
    (p.name ≠ "" ∧ ∃ disk, t.filePlace (draft p disk).text = .ok place)

theorem WritableAt.fileSpot {t : Tree} {p : Path} {place : List String} (h : t.WritableAt p place) :
    t.FileSpot place := by
  rcases h with h | ⟨-, disk, h⟩
  · exact filePlace_fileSpot h
  · exact filePlace_fileSpot h

theorem SameFolders.writableAt {t u : Tree} (h : SameFolders t u) {p : Path} {place : List String}
    (hplace : t.WritableAt p place) : u.WritableAt p place :=
  hplace.imp h.filePlace (And.imp_right fun ⟨disk, hdraft⟩ => ⟨disk, h.filePlace hdraft⟩)

theorem writeText_after {t after : Tree} {p : Path} {text : String} {disk : Disk}
    {r : Except Failure Unit} (h : t.writeText p text disk = (r, after)) :
    after = t ∨ ∃ place bytes, t.WritableAt p place ∧ after = plant (.file bytes) place t := by
  cases r with
  | ok done =>
      obtain ⟨-, -, -, -, -, bytes, -, hwrite⟩ := writeText_eq_ok_iff.mp h
      obtain ⟨place, hplace, hafter⟩ := write_eq_ok_iff.mp hwrite
      exact .inr ⟨place, bytes, .inl hplace, hafter⟩
  | error e =>
      rcases left_of_writeText h with ⟨hsame, -⟩ | ⟨hstays, place, bytes, hplace, hafter⟩
      · exact .inl hsame
      · exact .inr ⟨place, bytes, .inr ⟨hstays.named, disk, hplace⟩, hafter⟩

theorem sync_after {t after : Tree} {name content : String} {disk : Disk}
    {r : Except Failure SyncStatus} (h : t.sync name content none disk = (r, after)) :
    after = t ∨ ∃ place bytes, t.WritableAt (Path.ofString name) place ∧
      after = plant (.file bytes) place t := by
  unfold sync at h
  rcases hcompare : t.compare name (withLineFeeds content) none disk with e | ⟨there, same⟩
  · simp only [hcompare] at h
    cases h
    exact .inl rfl
  · cases same with
    | true =>
        simp only [hcompare] at h
        cases h
        exact .inl rfl
    | false =>
        simp only [hcompare] at h
        rcases hwrite : t.writeText (Path.ofString name) (withLineFeeds content) disk with ⟨done, written⟩
        simp only [hwrite] at h
        cases h
        exact writeText_after hwrite

end Tree

namespace Generate

/-! ## Jobs -/

/-- The source has the ending of a template. -/
def Compiles (job : Job) : Prop :=
  (Path.ofString job.source.text).ending = BuildError.ending

/-- The tree after a part of the work on a job: as before, or with one file written. -/
def Touches (job : Job) (t u : Tree) : Prop :=
  u = t ∨ (Compiles job ∧ ∃ place bytes, t.WritableAt (Path.ofString job.target.text) place ∧
    u = Tree.plant (.file bytes) place t)

theorem compiles_of_build {c : Compiler} {job : Job} {w built : World} {name : String}
    (h : (c.build job.source.text).run.run w = (.ok name, built)) : Compiles job :=
  (Compiler.build_eq_ok h).1.ending

theorem compiles_of_parse {c : Compiler} {job : Job} {w after : World} {t : Template}
    (h : (parse c job.source.text).run.run w = (.ok t, after)) : Compiles job := by
  rw [parse_run] at h
  rcases hbuild : (c.build job.source.text).run.run w with ⟨e | name, built⟩
  · rw [hbuild] at h
    cases h
  · exact compiles_of_build hbuild

theorem one_touches (c : Compiler) (s : Settings) (job : Job) (w : World) :
    Touches job w.files ((one c s job).run.run w).2.files := by
  have hkeeps := parse_keeps c job.source.text w
  rw [one_run]
  rcases hparse : (parse c job.source.text).run.run w with ⟨e | t, mid⟩
  · rw [hparse] at hkeeps
    exact .inl hkeeps.1
  · rw [hparse] at hkeeps
    obtain ⟨hfiles, hdisk⟩ := hkeeps
    have hdocument : Touches job w.files ((document s job.target.text t).run.run mid).2.files := by
      rw [document_run]
      cases page s t with
      | error e => exact .inl hfiles
      | ok text =>
          dsimp only at hfiles ⊢
          rw [hfiles]
          rcases hsync : w.files.sync job.target.text text none mid.disk with ⟨r, after⟩
          exact (Tree.sync_after hsync).imp_right fun hwritten => ⟨compiles_of_parse hparse, hwritten⟩
    dsimp only
    rcases hrun : (document s job.target.text t).run.run mid with ⟨e | status, after⟩
    · rw [hrun] at hdocument
      exact hdocument
    · rw [hrun] at hdocument
      exact hdocument

/-! ## Many jobs -/

/-- The tree after jobs that wrote files, whatever they wrote and in whatever order. -/
def Touched (jobs : List Job) (t u : Tree) : Prop :=
  ∃ writes : List (List String × ByteArray), u = t.plantAll writes ∧
    ∀ e ∈ writes, ∃ job ∈ jobs, Compiles job ∧ t.WritableAt (Path.ofString job.target.text) e.1

namespace Touched

variable {jobs more : List Job} {t u v : Tree}

theorem refl (jobs : List Job) (t : Tree) : Touched jobs t t :=
  ⟨[], rfl, by simp⟩

theorem fileSpots {writes : List (List String × ByteArray)}
    (h : ∀ e ∈ writes, ∃ job ∈ jobs, Compiles job ∧ t.WritableAt (Path.ofString job.target.text) e.1) :
    ∀ e ∈ writes, t.FileSpot e.1 := by
  intro e he
  obtain ⟨job, -, -, hplace⟩ := h e he
  exact hplace.fileSpot

theorem sameFolders (h : Touched jobs t u) : Tree.SameFolders u t := by
  obtain ⟨writes, rfl, hwrites⟩ := h
  exact Tree.sameFolders_plantAll (fileSpots hwrites)

theorem mono (h : Touched jobs t u) (hjobs : ∀ job ∈ jobs, job ∈ more) : Touched more t u := by
  obtain ⟨writes, hu, hwrites⟩ := h
  refine ⟨writes, hu, fun e he => ?_⟩
  obtain ⟨job, hjob, hplace⟩ := hwrites e he
  exact ⟨job, hjobs job hjob, hplace⟩

theorem touch (h : Touched jobs t u) {job : Job} (hjob : job ∈ jobs) (htouches : Touches job u v) :
    Touched jobs t v := by
  rcases htouches with rfl | ⟨hcompiles, place, bytes, hplace, rfl⟩
  · exact h
  · have hfolders := h.sameFolders
    obtain ⟨writes, rfl, hwrites⟩ := h
    refine ⟨writes ++ [(place, bytes)], ?_, fun e he => ?_⟩
    · rw [Tree.plantAll_append]
      rfl
    · rcases List.mem_append.mp he with he | he
      · exact hwrites e he
      · rw [List.mem_singleton.mp he]
        exact ⟨job, hjob, hcompiles, hfolders.writableAt hplace⟩

end Touched

theorem all_nil_run (c : Compiler) (s : Settings) (w : World) :
    (all c s []).run.run w = (.ok [], w) := by
  unfold all
  rw [List.mapM_nil]
  rfl

theorem all_cons_run (c : Compiler) (s : Settings) (job : Job) (jobs : List Job) (w : World) :
    (all c s (job :: jobs)).run.run w =
      match (one c s job).run.run w with
      | (.error e, after) => (.error e, after)
      | (.ok synced, mid) =>
        match (all c s jobs).run.run mid with
        | (.error e, after) => (.error e, after)
        | (.ok rest, after) => (.ok (synced :: rest), after) := by
  unfold all
  rw [List.mapM_cons, Run.run_bind]
  rcases (one c s job).run.run w with ⟨e | synced, mid⟩
  · rfl
  · dsimp only
    rw [Run.run_bind]
    rcases (jobs.mapM (one c s)).run.run mid with ⟨e | rest, after⟩ <;> rfl

/-- Jobs that are done one after the other, up to a failure or to the end. -/
theorem all_touched (c : Compiler) (s : Settings) (jobs : List Job) (w : World) :
    Touched jobs w.files ((all c s jobs).run.run w).2.files := by
  have hrun : ∀ done : List Job, ∀ t, Touched (done ++ jobs) t w.files →
      Touched (done ++ jobs) t ((all c s jobs).run.run w).2.files := by
    induction jobs generalizing w with
    | nil =>
        intro done t h
        rwa [all_nil_run]
    | cons job jobs ih =>
        intro done t h
        have hone := h.touch (by simp) (one_touches c s job w)
        rw [all_cons_run]
        rcases hrun : (one c s job).run.run w with ⟨e | synced, mid⟩
        · rw [hrun] at hone
          exact hone
        · rw [hrun] at hone
          have hrest := ih mid (done ++ [job]) t (by simpa using hone)
          rw [List.append_assoc, List.singleton_append] at hrest
          dsimp only
          rcases hall : (all c s jobs).run.run mid with ⟨e | rest, after⟩
          · rw [hall] at hrest
            exact hrest
          · rw [hall] at hrest
            exact hrest
  exact hrun [] w.files (.refl jobs w.files)

/-! ## Steps of the work -/

theorem advance_begun_run (c : Compiler) (s : Settings) (job : Job) (w : World) :
    (advance c s job .begun).run.run w =
      match (c.build job.source.text).run.run w with
      | (.error e, after) => (.error e, after)
      | (.ok product, after) => (.ok (.inl (.built product)), after) := by
  unfold advance
  rw [Run.run_bind]
  rcases (c.build job.source.text).run.run w with ⟨e | product, after⟩ <;> rfl

theorem take_run (c : Compiler) (source product : String) (w : World) :
    (take c source product).run.run w =
      let parsing := Template.parse source (w.files.read source) (c.productPath product)
        (w.readTemporary product)
      (parsing.result,
        World.dropTemporary { w with warnings := w.warnings ++ parsing.warnings }
          (c.productPath product) product) := rfl

theorem advance_built_run (c : Compiler) (s : Settings) (job : Job) (product : String) (w : World) :
    (advance c s job (.built product)).run.run w =
      match (take c job.source.text product).run.run w with
      | (.error e, after) => (.error e, after)
      | (.ok t, after) => (.ok (.inl (.parsed t)), after) := by
  unfold advance
  rw [Run.run_bind]
  rcases (take c job.source.text product).run.run w with ⟨e | t, after⟩ <;> rfl

theorem inspect_run (s : Settings) (target : String) (t : Template) (w : World) :
    (inspect s target t).run.run w =
      match page s t with
      | .error e => (.error e, w)
      | .ok content =>
        let text := Tree.withLineFeeds content
        match w.files.compare target text none w.disk with
        | .error e => (.error e, w)
        | .ok (_, true) => (.ok none, w)
        | .ok (there, false) => (.ok (some (text, there)), w) := by
  unfold inspect
  rw [Run.ofExcept_bind_run]
  cases page s t with
  | error e => rfl
  | ok content =>
      dsimp only
      rw [Run.get_bind_run, Run.ofExcept_bind_run]
      rcases w.files.compare target (Tree.withLineFeeds content) none w.disk with e | ⟨there, same⟩
      · rfl
      · cases same <;> rfl

theorem advance_parsed_run (c : Compiler) (s : Settings) (job : Job) (t : Template) (w : World) :
    (advance c s job (.parsed t)).run.run w =
      match (inspect s job.target.text t).run.run w with
      | (.error e, after) => (.error e, after)
      | (.ok none, after) => (.ok (.inr .unchanged), after)
      | (.ok (some (text, there)), after) => (.ok (.inl (.compared text there)), after) := by
  unfold advance
  rw [Run.run_bind]
  rcases (inspect s job.target.text t).run.run w with ⟨e | _ | ⟨text, there⟩, after⟩ <;> rfl

theorem inspect_keeps (s : Settings) (target : String) (t : Template) (w : World) :
    ((inspect s target t).run.run w).2 = w := by
  rw [inspect_run]
  split
  · rfl
  · dsimp only
    split <;> rfl

theorem advance_compared_run (c : Compiler) (s : Settings) (job : Job) (text : String) (there : Bool)
    (w : World) :
    (advance c s job (.compared text there)).run.run w =
      let (written, files) := w.files.writeText (Path.ofString job.target.text) text w.disk
      (written.map fun _ => .inr (if there then .updated else .created), { w with files }) := by
  unfold advance Generate.write
  rw [Run.run_bind, Run.get_bind_run]
  rcases w.files.writeText (Path.ofString job.target.text) text w.disk with ⟨e | done, files⟩ <;> rfl

theorem advance_touches {c : Compiler} {s : Settings} {job : Job} {work : Work} {w after : World}
    {r : Except Failure (Work ⊕ SyncStatus)} (hwork : work ≠ .begun → Compiles job)
    (h : (advance c s job work).run.run w = (r, after)) : Touches job w.files after.files := by
  cases work with
  | begun =>
      have hkeeps := c.build_keeps job.source.text w
      rw [advance_begun_run] at h
      rcases hbuild : (c.build job.source.text).run.run w with ⟨e | product, built⟩
      · rw [hbuild] at h hkeeps
        cases h
        exact .inl hkeeps.1
      · rw [hbuild] at h hkeeps
        cases h
        exact .inl hkeeps.1
  | built product =>
      have hkeeps : ((take c job.source.text product).run.run w).2.files = w.files :=
        (dropTemporary_keeps _ _ _).1
      rw [advance_built_run] at h
      rcases htake : (take c job.source.text product).run.run w with ⟨e | t, taken⟩
      · rw [htake] at h hkeeps
        cases h
        exact .inl hkeeps
      · rw [htake] at h hkeeps
        cases h
        exact .inl hkeeps
  | parsed t =>
      have hkeeps := inspect_keeps s job.target.text t w
      rw [advance_parsed_run] at h
      split at h <;>
        · rename_i hinspect
          rw [hinspect] at hkeeps
          cases h
          exact .inl (congrArg World.files hkeeps)
  | compared text there =>
      rw [advance_compared_run] at h
      rcases hwrite : w.files.writeText (Path.ofString job.target.text) text w.disk with ⟨done, files⟩
      rw [hwrite] at h
      cases h
      exact (Tree.writeText_after hwrite).imp_right fun hwritten => ⟨hwork (by simp), hwritten⟩

/-- Work goes beyond its beginning only on a source with the ending of a template. -/
theorem compiles_of_advance {c : Compiler} {s : Settings} {job : Job} {w after : World} {next : Work}
    (h : (advance c s job .begun).run.run w = (.ok (.inl next), after)) : Compiles job := by
  rw [advance_begun_run] at h
  rcases hbuild : (c.build job.source.text).run.run w with ⟨e | product, built⟩
  · rw [hbuild] at h
    cases h
  · exact compiles_of_build hbuild

end Generate

end TemplateDocs
