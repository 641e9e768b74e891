import TemplateDocs.Files.Sync
import TemplateDocs.Proofs.Agreement
import TemplateDocs.Proofs.Files.Path
import TemplateDocs.Proofs.Files.Tree
import TemplateDocs.Proofs.Text.Lines
import TemplateDocs.Proofs.Text.Utf8

/-! # Keeping a file in step, once and again -/

namespace TemplateDocs.Tree

/-! ## Writing through a draft -/

/-- A text is written when the draft has a place, the system refuses no step on the way and the text
has bytes. -/
theorem writeText_eq_ok_iff {t written : Tree} {p : Path} {text : String} {disk : Disk} :
    t.writeText p text disk = (.ok (), written) ↔
      p.name ≠ "" ∧ (∃ place, t.filePlace (draft p disk).text = .ok place) ∧
        disk.refuses .openDraft = false ∧ disk.refuses .fillDraft = false ∧
        disk.refuses .replace = false ∧
        ∃ bytes, Text.encode? text = some bytes ∧ t.write p.text bytes = .ok written := by
  unfold writeText
  by_cases hname : p.name = ""
  · simp [hname]
  · simp only [beq_iff_eq, hname, if_false, ne_eq, not_false_eq_true, true_and]
    cases t.filePlace (draft p disk).text with
    | error e => simp
    | ok place =>
        cases hopen : disk.refuses .openDraft with
        | true => simp
        | false =>
            cases Text.encode? text with
            | none => simp
            | some bytes =>
                cases hfill : disk.refuses .fillDraft with
                | true => simp
                | false =>
                    cases hwrite : t.write p.text bytes with
                    | error e => simp [hwrite]
                    | ok after => cases hreplace : disk.refuses .replace <;> simp [hwrite]

/-! ## Comparing -/

/-- A path with a name is looked up. -/
theorem checkFile_of_name {name : String} (h : (Path.ofString name).name ≠ "") (t : Tree) :
    t.checkFile name =
      match t.probe (Path.ofString name).text with
      | .error _ => .error (FileError.stat name).failure
      | .ok (some (.folder _)) => .error (FileError.isFolder name).failure
      | .ok (some (.file _)) => .ok true
      | .ok none => .ok false := by
  have hparts : (Path.ofString name).parts.isEmpty = false := by
    rw [Path.parts_eq_concat h]
    simp
  rw [checkFile, hparts]
  rfl

theorem grant_eq_ok_iff {α : Type} {disk : Disk} {access : Access} {e : FileError}
    {answer : Except Failure α} {a : α} :
    disk.grant access e answer = .ok a ↔ disk.refuses access = false ∧ answer = .ok a := by
  unfold Disk.grant
  cases answer with
  | error e' => simp [bind, Except.bind]
  | ok b =>
      cases disk.refuses access <;>
        simp [bind, Except.bind, pure, Except.pure, throw, throwThe, MonadExceptOf.throw]

theorem compare_unfold (t : Tree) (name text : String) (disk : Disk) :
    t.compare name text none disk = do
      let there ← disk.grant .inspect (.stat name) (t.checkFile name)
      if there then
        let current ← disk.grant .read (.read name) (t.readText name)
        return (true, current == text)
      else return (false, false) := by
  unfold compare
  cases disk.grant .inspect (.stat name) (t.checkFile name) with
  | error e => rfl
  | ok there =>
      cases there with
      | false => rfl
      | true => cases disk.grant .read (.read name) (t.readText name) <;> rfl

/-- A file is there or not, and one that is there is read. -/
theorem compare_eq_ok_iff {t : Tree} {name text : String} {disk : Disk} {there same : Bool} :
    t.compare name text none disk = .ok (there, same) ↔
      disk.refuses .inspect = false ∧ t.checkFile name = .ok there ∧
        if there then disk.refuses .read = false ∧
          ∃ current, t.readText name = .ok current ∧ same = (current == text)
        else same = false := by
  rw [compare_unfold, bind_eq_ok_iff]
  constructor
  · rintro ⟨found, hfound, h⟩
    obtain ⟨hinspect, hcheck⟩ := grant_eq_ok_iff.mp hfound
    cases found with
    | false =>
        cases h
        exact ⟨hinspect, hcheck, rfl⟩
    | true =>
        obtain ⟨current, hcurrent, h⟩ := bind_eq_ok_iff.mp h
        obtain ⟨hread, hcurrent⟩ := grant_eq_ok_iff.mp hcurrent
        cases h
        exact ⟨hinspect, hcheck, hread, current, hcurrent, rfl⟩
  · rintro ⟨hinspect, hcheck, h⟩
    refine ⟨there, grant_eq_ok_iff.mpr ⟨hinspect, hcheck⟩, ?_⟩
    cases there with
    | false =>
        subst h
        rfl
    | true =>
        obtain ⟨hread, current, hcurrent, rfl⟩ := h
        exact bind_eq_ok_iff.mpr ⟨current, grant_eq_ok_iff.mpr ⟨hread, hcurrent⟩, rfl⟩

/-- Systems that do not refuse to compare answer the same. -/
theorem compare_granted {t : Tree} {name text : String} {disk : Disk} {there same : Bool}
    (h : t.compare name text none disk = .ok (there, same)) {disk' : Disk}
    (hinspect : disk'.refuses .inspect = false) (hread : disk'.refuses .read = false) :
    t.compare name text none disk' = .ok (there, same) := by
  obtain ⟨-, hcheck, h⟩ := compare_eq_ok_iff.mp h
  refine compare_eq_ok_iff.mpr ⟨hinspect, hcheck, ?_⟩
  cases there with
  | false => exact h
  | true => exact ⟨hread, h.2⟩

/-- A file that was written compares by its own text, with its line ends replaced once more. -/
theorem compare_of_write {t written : Tree} {name text : String}
    (hname : (Path.ofString name).name ≠ "")
    (h : t.write (Path.ofString name).text (Text.encode text) = .ok written) :
    written.compare name text none = .ok (true, withLineFeeds text == text) := by
  have hfind := find_of_write h
  have hcheck : written.checkFile name = .ok true := by
    rw [checkFile_of_name hname]
    unfold probe
    rw [hfind]
  have hread : written.readText name = .ok (withLineFeeds text) := by
    unfold readText read Text.decodeLossy
    rw [hfind]
    dsimp only
    rw [Text.decode?_encode]
  exact compare_eq_ok_iff.mpr ⟨rfl, hcheck, rfl, withLineFeeds text, hread, rfl⟩

theorem withLineFeeds_withLineFeeds_iff (content : String) :
    withLineFeeds (withLineFeeds content) = withLineFeeds content ↔
      ¬ Text.HasDoubleReturn content.toList := by
  rw [← Text.crlfToLf_crlfToLf_iff]
  unfold withLineFeeds
  rw [String.toList_ofList, String.ofList_inj]

/-! ## Bringing a file in step -/

/-- A file is found in step, or it is written. -/
theorem sync_eq_ok_iff {t after : Tree} {name content : String} {disk : Disk} {status : SyncStatus} :
    t.sync name content none disk = (.ok status, after) ↔
      (∃ there, t.compare name (withLineFeeds content) none disk = .ok (there, true) ∧
        status = .unchanged ∧ after = t) ∨
      ∃ there, t.compare name (withLineFeeds content) none disk = .ok (there, false) ∧
        t.writeText (Path.ofString name) (withLineFeeds content) disk = (.ok (), after) ∧
        status = if there then .updated else .created := by
  unfold sync
  constructor
  · intro h
    rcases hcompare : t.compare name (withLineFeeds content) none disk with e | ⟨there, same⟩
    · simp [hcompare] at h
    · cases same with
      | true =>
          simp only [hcompare] at h
          cases h
          exact .inl ⟨there, rfl, rfl, rfl⟩
      | false =>
          simp only [hcompare] at h
          rcases hwrite : t.writeText (Path.ofString name) (withLineFeeds content) disk with
            ⟨e | done, written⟩
          · simp [hwrite, Except.map] at h
          · simp only [hwrite, Except.map] at h
            cases h
            exact .inr ⟨there, rfl, rfl, rfl⟩
  · rintro (⟨there, hcompare, rfl, rfl⟩ | ⟨there, hcompare, hwrite, rfl⟩)
    · simp only [hcompare]
    · simp only [hcompare, hwrite, Except.map]

/-- What was written once is written again with the same result. -/
theorem writeText_again {t after : Tree} {p : Path} {text : String} {disk : Disk}
    (h : t.writeText p text disk = (.ok (), after)) :
    after.writeText p text disk.granting = (.ok (), after) := by
  obtain ⟨hname, ⟨place, hdraft⟩, -, -, -, bytes, hbytes, hwrite⟩ := writeText_eq_ok_iff.mp h
  obtain ⟨spot, hspot, hafter⟩ := write_eq_ok_iff.mp hwrite
  refine writeText_eq_ok_iff.mpr ⟨hname, ⟨place, ?_⟩, rfl, rfl, rfl, bytes, hbytes, ?_⟩
  · rw [hafter]
    exact (filePlace_fileSpot hspot).filePlace_plant bytes hdraft
  · exact write_of_write hwrite

/-- A success is the same where the system refuses nothing. -/
theorem sync_granted {t after : Tree} {name content : String} {disk : Disk} {status : SyncStatus}
    (h : t.sync name content none disk = (.ok status, after)) :
    t.sync name content none disk.granting = (.ok status, after) := by
  rcases sync_eq_ok_iff.mp h with ⟨there, hcompare, hrest⟩ | ⟨there, hcompare, hwrite, hstatus⟩
  · exact sync_eq_ok_iff.mpr (.inl ⟨there, compare_granted hcompare rfl rfl, hrest⟩)
  · obtain ⟨hname, hdraft, -, -, -, hbytes⟩ := writeText_eq_ok_iff.mp hwrite
    have hgranted : t.writeText (Path.ofString name) (withLineFeeds content) disk.granting =
        (.ok (), after) := writeText_eq_ok_iff.mpr ⟨hname, hdraft, rfl, rfl, rfl, hbytes⟩
    exact sync_eq_ok_iff.mpr (.inr ⟨there, compare_granted hcompare rfl rfl, hgranted, hstatus⟩)

/-- Whatever system a success comes from, it is the same one. -/
theorem sync_ok_unique {t after after' : Tree} {name content : String} {disk disk' : Disk}
    {status status' : SyncStatus} (h : t.sync name content none disk = (.ok status, after))
    (h' : t.sync name content none disk' = (.ok status', after')) :
    status' = status ∧ after' = after := by
  have hcompared {there there' same same' : Bool} {text : String}
      (hcompare : t.compare name text none disk = .ok (there, same))
      (hcompare' : t.compare name text none disk' = .ok (there', same')) :
      there' = there ∧ same' = same := by
    have hgranted : t.compare name text none {} = .ok (there, same) :=
      compare_granted hcompare rfl rfl
    have hgranted' : t.compare name text none {} = .ok (there', same') :=
      compare_granted hcompare' rfl rfl
    simpa using hgranted'.symm.trans hgranted
  rcases sync_eq_ok_iff.mp h with ⟨there, hcompare, rfl, rfl⟩ | ⟨there, hcompare, hwrite, rfl⟩ <;>
    rcases sync_eq_ok_iff.mp h' with ⟨there', hcompare', rfl, rfl⟩ | ⟨there', hcompare', hwrite', rfl⟩
  · exact ⟨rfl, rfl⟩
  · exact absurd (hcompared hcompare hcompare').2 (by decide)
  · exact absurd (hcompared hcompare hcompare').2 (by decide)
  · obtain ⟨-, -, -, -, -, bytes, hbytes, hwritten⟩ := writeText_eq_ok_iff.mp hwrite
    obtain ⟨-, -, -, -, -, bytes', hbytes', hwritten'⟩ := writeText_eq_ok_iff.mp hwrite'
    rw [hbytes] at hbytes'
    cases hbytes'
    rw [hwritten] at hwritten'
    cases hwritten'
    rw [(hcompared hcompare hcompare').1]
    exact ⟨rfl, rfl⟩

/-! ## A file in an empty folder -/

theorem filePlace_empty {name : String} (hproblem : nameProblem? name = none)
    (hsteps : steps name = [name]) (henter : enter? [] name = some [name]) :
    empty.filePlace name = .ok [name] := by
  refine filePlace_eq_ok_iff.mpr ⟨locate_single hproblem hsteps henter [], ?_⟩
  rintro ⟨entries, hentries⟩
  cases hentries

theorem filePlace_readme : empty.filePlace (Path.ofString "README.md").text = .ok ["README.md"] := by
  have hpath : (Path.ofString "README.md").text = "README.md" := by decide +kernel
  rw [hpath]
  exact filePlace_empty (by decide +kernel) (by decide +kernel) (by decide +kernel)

theorem filePlace_draft_readme :
    empty.filePlace (draft (Path.ofString "README.md")).text =
      .ok [(draft (Path.ofString "README.md")).text] :=
  filePlace_empty (by decide +kernel) (by decide +kernel) (by decide +kernel)

theorem compare_readme (text : String) :
    empty.compare "README.md" text none = .ok (false, false) := by
  have hcheck : empty.checkFile "README.md" = .ok false := by
    rw [checkFile_of_name (by decide +kernel)]
    unfold probe find
    rw [(filePlace_eq_ok_iff.mp filePlace_readme).1]
    rfl
  exact compare_eq_ok_iff.mpr ⟨rfl, hcheck, rfl⟩

theorem writeText_readme {text : String} (h : Text.hasHalf text = false) :
    empty.writeText (Path.ofString "README.md") text =
      (.ok (), folder [("README.md", .file (Text.encode text))]) := by
  have hbytes := Text.encode?_of_not_hasHalf h
  refine writeText_eq_ok_iff.mpr
    ⟨by decide +kernel, ⟨_, filePlace_draft_readme⟩, rfl, rfl, rfl, _, hbytes, ?_⟩
  exact write_eq_ok_iff.mpr ⟨_, filePlace_readme, rfl⟩

/-! ## Once and again -/

/-- A text that was written is found in step, unless two carriage returns stood before a line feed. -/
theorem sync_after_write {t after : Tree} {name content : String} {disk : Disk}
    (h : t.writeText (Path.ofString name) (withLineFeeds content) disk = (.ok (), after)) :
    after.sync name content none disk.granting =
      (.ok (if Text.HasDoubleReturn content.toList then .updated else .unchanged), after) := by
  obtain ⟨hname, -, -, -, -, bytes, hbytes, hwrite⟩ := writeText_eq_ok_iff.mp h
  rw [Text.encode?_eq_some hbytes] at hwrite
  have hcompare := compare_of_write hname hwrite
  by_cases hdouble : Text.HasDoubleReturn content.toList
  · have hdiffers : (withLineFeeds (withLineFeeds content) == withLineFeeds content) = false := by
      rw [beq_eq_false_iff_ne, ne_eq, withLineFeeds_withLineFeeds_iff, not_not]
      exact hdouble
    rw [hdiffers] at hcompare
    rw [if_pos hdouble]
    exact sync_eq_ok_iff.mpr (.inr ⟨true, hcompare, writeText_again h, rfl⟩)
  · have hsame : (withLineFeeds (withLineFeeds content) == withLineFeeds content) = true := by
      rw [beq_iff_eq, withLineFeeds_withLineFeeds_iff]
      exact hdouble
    rw [hsame] at hcompare
    rw [if_neg hdouble]
    exact sync_eq_ok_iff.mpr (.inl ⟨true, hcompare, rfl, rfl⟩)

/-- What becomes of a file that was brought in step when it is brought in step again: it is as it
should be, unless it was written and two carriage returns stood before a line feed in the text. -/
def statusAgain (status : SyncStatus) (content : String) : SyncStatus :=
  if status = .unchanged ∨ ¬ Text.HasDoubleReturn content.toList then .unchanged else .updated

/-- A file is brought in step again as `statusAgain` tells, and the tree stays the same. No refusal of
the system lets it end otherwise and still succeed. -/
theorem sync_again {t after : Tree} {name content : String} {disk : Disk} {status : SyncStatus}
    (h : t.sync name content none disk = (.ok status, after)) :
    after.sync name content none disk.granting = (.ok (statusAgain status content), after) ∧
      ∀ disk' status' after', after.sync name content none disk' = (.ok status', after') →
        status' = statusAgain status content ∧ after' = after := by
  have hagain : after.sync name content none disk.granting =
      (.ok (statusAgain status content), after) := by
    unfold statusAgain
    rcases sync_eq_ok_iff.mp h with ⟨-, -, rfl, rfl⟩ | ⟨there, -, hwrite, hstatus⟩
    · rw [if_pos (.inl rfl)]
      exact sync_granted h
    · have hchanged : status ≠ .unchanged := by
        rw [hstatus]
        cases there <;> decide
      rw [sync_after_write hwrite]
      by_cases hdouble : Text.HasDoubleReturn content.toList
      · rw [if_pos hdouble, if_neg (by simp [hchanged, hdouble])]
      · rw [if_neg hdouble, if_pos (.inr hdouble)]
  exact ⟨hagain, fun disk' status' after' h' => sync_ok_unique hagain h'⟩

/-- A file made of one line is found in step. -/
theorem sync_again_line :
    (folder [("README.md", .file (Text.encode "# doc\n"))]).sync "README.md" "# doc\n" none =
      (.ok .unchanged, folder [("README.md", .file (Text.encode "# doc\n"))]) := by
  have hwrite : empty.writeText (Path.ofString "README.md") (withLineFeeds "# doc\n") =
      (.ok (), folder [("README.md", .file (Text.encode "# doc\n"))]) := by
    have htext : withLineFeeds "# doc\n" = "# doc\n" := by decide +kernel
    rw [htext]
    exact writeText_readme (by decide +kernel)
  have hcreated := sync_eq_ok_iff.mpr (.inr ⟨false, compare_readme _, hwrite, rfl⟩)
  have hstatus : statusAgain .created "# doc\n" = .unchanged := if_pos (.inr (by decide +kernel))
  rw [← hstatus]
  exact (sync_again hcreated).1

/-- A file made of a line that ends in two carriage returns and a line feed is written again. -/
theorem sync_again_double_return :
    empty.sync "README.md" "a\r\r\n" none =
        (.ok .created, folder [("README.md", .file (Text.encode "a\r\n"))]) ∧
      (folder [("README.md", .file (Text.encode "a\r\n"))]).sync "README.md" "a\r\r\n" none =
        (.ok .updated, folder [("README.md", .file (Text.encode "a\r\n"))]) := by
  have hwrite : empty.writeText (Path.ofString "README.md") (withLineFeeds "a\r\r\n") =
      (.ok (), folder [("README.md", .file (Text.encode "a\r\n"))]) := by
    have htext : withLineFeeds "a\r\r\n" = "a\r\n" := by decide +kernel
    rw [htext]
    exact writeText_readme (by decide +kernel)
  have hagain := sync_after_write hwrite
  rw [if_pos (by decide +kernel)] at hagain
  exact ⟨sync_eq_ok_iff.mpr (.inr ⟨false, compare_readme _, hwrite, rfl⟩), hagain⟩

end TemplateDocs.Tree
