import TemplateDocs.Proofs.Files.Writes

/-! # What a file in step holds

A file that was brought in step holds the content, line ends aside, unless it was found in step although
its bytes are no text, or the line ends of the content come about again when they are replaced. No other
file is touched.
-/

namespace TemplateDocs.Tree

/-! ## Bytes that hold a content -/

/-- The bytes are those of a text that differs from the content at most in its line ends. -/
def Holds (bytes : ByteArray) (content : String) : Prop :=
  ∃ text, Text.decode? bytes = some text ∧ withLineFeeds text = withLineFeeds content

theorem decodeLossy_of_decode? {bytes : ByteArray} {text : String}
    (h : Text.decode? bytes = some text) : Text.decodeLossy bytes = text := by
  rw [Text.decodeLossy, h]

/-- Bytes that look like the content hold it if they are a text at all. -/
theorem holds_of_looks {bytes : ByteArray} {content : String}
    (h : withLineFeeds (Text.decodeLossy bytes) = withLineFeeds content) :
    Holds bytes content ↔ (Text.decode? bytes).isSome = true := by
  rw [Option.isSome_iff_exists]
  constructor
  · rintro ⟨text, htext, -⟩
    exact ⟨text, htext⟩
  · rintro ⟨text, htext⟩
    exact ⟨text, htext, decodeLossy_of_decode? htext ▸ h⟩

/-- The bytes that are written for a content hold it unless two carriage returns stand before a line
feed in it. -/
theorem holds_encode_iff (content : String) :
    Holds (Text.encode (withLineFeeds content)) content ↔ ¬ Text.HasDoubleReturn content.toList := by
  rw [← withLineFeeds_withLineFeeds_iff]
  constructor
  · rintro ⟨text, htext, hsame⟩
    rw [Text.decode?_encode] at htext
    cases htext
    exact hsame
  · exact fun hsame => ⟨_, Text.decode?_encode _, hsame⟩

/-! ## How a file is brought in step -/

theorem checkFile_of_filePlace {t : Tree} {name : String} {place : List String}
    (hname : (Path.ofString name).name ≠ "")
    (hplace : t.filePlace (Path.ofString name).text = .ok place) :
    t.checkFile name = .ok (t.at? place).isSome := by
  obtain ⟨hlocate, hnot⟩ := filePlace_eq_ok_iff.mp hplace
  rw [checkFile_of_name hname]
  unfold probe find
  rw [hlocate]
  dsimp only
  cases hat : t.at? place with
  | none => rfl
  | some node =>
      cases node with
      | file bytes => rfl
      | folder entries => exact absurd ⟨entries, hat⟩ hnot

theorem readText_eq_ok {t : Tree} {name current : String} (h : t.readText name = .ok current) :
    ∃ place bytes, t.filePlace (Path.ofString name).text = .ok place ∧
      t.at? place = some (.file bytes) ∧ current = withLineFeeds (Text.decodeLossy bytes) := by
  unfold readText at h
  split at h
  case h_1 bytes hread =>
    obtain ⟨place, hplace, hat⟩ := filePlace_of_read hread
    exact ⟨place, bytes, hplace, hat, (Except.ok.inj h).symm⟩
  case h_2 => cases h

theorem readText_of_filePlace {t : Tree} {name : String} {place : List String} {bytes : ByteArray}
    (hplace : t.filePlace (Path.ofString name).text = .ok place)
    (hat : t.at? place = some (.file bytes)) :
    t.readText name = .ok (withLineFeeds (Text.decodeLossy bytes)) := by
  unfold readText read find
  rw [(filePlace_eq_ok_iff.mp hplace).1]
  simp only [hat]

/-- All that can have happened to a file that was brought in step, at the place that its name leads
to. -/
inductive Brought (t : Tree) (content : String) (place : List String) : SyncStatus → Tree → Prop
  | unchanged {bytes : ByteArray} (hat : t.at? place = some (.file bytes))
      (hlooks : withLineFeeds (Text.decodeLossy bytes) = withLineFeeds content) :
      Brought t content place .unchanged t
  | created (hat : t.at? place = none) :
      Brought t content place .created
        (plant (.file (Text.encode (withLineFeeds content))) place t)
  | updated {bytes : ByteArray} (hat : t.at? place = some (.file bytes))
      (hlooks : withLineFeeds (Text.decodeLossy bytes) ≠ withLineFeeds content) :
      Brought t content place .updated
        (plant (.file (Text.encode (withLineFeeds content))) place t)

theorem brought_of_sync {t after : Tree} {name content : String} {disk : Disk} {status : SyncStatus}
    (h : t.sync name content none disk = (.ok status, after)) :
    ∃ place, t.filePlace (Path.ofString name).text = .ok place ∧
      Brought t content place status after := by
  rcases sync_eq_ok_iff.mp h with ⟨there, hcompare, rfl, rfl⟩ | ⟨there, hcompare, hwrite, rfl⟩
  · obtain ⟨-, -, hcurrent⟩ := compare_eq_ok_iff.mp hcompare
    cases there with
    | false => cases hcurrent
    | true =>
        obtain ⟨-, current, hread, hsame⟩ := hcurrent
        obtain ⟨place, bytes, hplace, hat, rfl⟩ := readText_eq_ok hread
        exact ⟨place, hplace, .unchanged hat (by simpa using hsame.symm)⟩
  · obtain ⟨hname, -, -, -, -, bytes, hbytes, hwritten⟩ := writeText_eq_ok_iff.mp hwrite
    obtain ⟨place, hplace, rfl⟩ := write_eq_ok_iff.mp hwritten
    obtain rfl := Text.encode?_eq_some hbytes
    obtain ⟨-, hcheck, hcurrent⟩ := compare_eq_ok_iff.mp hcompare
    rw [checkFile_of_filePlace hname hplace] at hcheck
    refine ⟨place, hplace, ?_⟩
    cases hat : t.at? place with
    | none =>
        rw [hat] at hcheck
        cases hcheck
        exact .created hat
    | some node =>
        rw [hat] at hcheck
        cases hcheck
        cases node with
        | folder entries => exact absurd ⟨entries, hat⟩ (filePlace_fileSpot hplace).notFolder
        | file bytes =>
            obtain ⟨-, current, hread, hdiffers⟩ := hcurrent
            rw [readText_of_filePlace hplace hat] at hread
            cases hread
            exact .updated hat (by simpa using hdiffers.symm)

/-! ## Files in step -/

/-- What bringing a file in step leaves: at the place of the file its bytes, and all else as before. -/
structure InStep (t : Tree) (content : String) (place : List String) (status : SyncStatus)
    (bytes : ByteArray) (after : Tree) : Prop where
  stands : after.at? place = some (.file bytes)
  /-- A file that was found in step holds the content if it is a text at all, and one that was written
  does unless two carriage returns stand before a line feed in the content. -/
  holds : Holds bytes content ↔
    if status = .unchanged then (Text.decode? bytes).isSome = true
    else ¬ Text.HasDoubleReturn content.toList
  created : status = .created ↔ t.at? place = none
  /-- The bytes stay as they were, but for those that are written over themselves. -/
  unchanged : status = .unchanged ↔ t.at? place = some (.file bytes) ∧
    ¬ (Text.HasDoubleReturn content.toList ∧ bytes = Text.encode (withLineFeeds content))
  folders : after.SameFolders t
  others : ∀ other, ¬ t.IsFolderAt other → other ≠ place → after.at? other = t.at? other

theorem Brought.inStep {t after : Tree} {content : String} {place : List String} {status : SyncStatus}
    (hspot : t.FileSpot place) (h : Brought t content place status after) :
    ∃ bytes, InStep t content place status bytes after := by
  have hstands (bytes : ByteArray) : (plant (.file bytes) place t).at? place = some (.file bytes) := by
    have hat := hspot.at?_plant bytes []
    rwa [List.append_nil] at hat
  have hothers (bytes : ByteArray) (other : List String) (hother : ¬ t.IsFolderAt other)
      (hne : other ≠ place) := hspot.at?_plant_of_ne bytes hother hne
  cases h with
  | @unchanged bytes hat hlooks =>
      refine ⟨bytes, hat, by simpa using holds_of_looks hlooks, by simp [hat], ?_, .refl t,
        fun _ _ _ => rfl⟩
      refine iff_of_true rfl ⟨hat, ?_⟩
      rintro ⟨hdouble, rfl⟩
      rw [decodeLossy_of_decode? (Text.decode?_encode _), withLineFeeds_withLineFeeds_iff] at hlooks
      exact hlooks hdouble
  | created hat =>
      refine ⟨_, hstands _, by simpa using holds_encode_iff content, by simp [hat], ?_,
        hspot.sameFolders_plant _, hothers _⟩
      simp [hat]
  | updated hat hlooks =>
      refine ⟨_, hstands _, by simpa using holds_encode_iff content, by simp [hat], ?_,
        hspot.sameFolders_plant _, hothers _⟩
      refine iff_of_false (by simp) ?_
      rintro ⟨hsame, hnot⟩
      rw [hat, Option.some.injEq, Node.file.injEq] at hsame
      rw [hsame, decodeLossy_of_decode? (Text.decode?_encode _), ne_eq,
        withLineFeeds_withLineFeeds_iff, not_not] at hlooks
      exact hnot ⟨hlooks, rfl⟩

/-- A file that was brought in step stands where its name leads, with the bytes and the status that
`InStep` tells, and every other file is as it was. -/
theorem sync_inStep {t after : Tree} {name content : String} {disk : Disk} {status : SyncStatus}
    (h : t.sync name content none disk = (.ok status, after)) :
    ∃ place bytes, t.filePlace (Path.ofString name).text = .ok place ∧
      after.read (Path.ofString name).text = .ok bytes ∧
      InStep t content place status bytes after := by
  obtain ⟨place, hplace, hbrought⟩ := brought_of_sync h
  obtain ⟨bytes, hstep⟩ := hbrought.inStep (filePlace_fileSpot hplace)
  refine ⟨place, bytes, hplace, ?_, hstep⟩
  have hlocate := hstep.folders.symm.locate (filePlace_eq_ok_iff.mp hplace).1
  simp [read, find, hlocate, hstep.stands]

/-- A document that is made in an empty folder. -/
theorem sync_inStep_created :
    ∃ place bytes,
      empty.sync "README.md" "# doc\r\n" none =
        (.ok .created, folder [("README.md", .file (Text.encode "# doc\n"))]) ∧
      Holds bytes "# doc\r\n" ∧
      InStep empty "# doc\r\n" place .created bytes
        (folder [("README.md", .file (Text.encode "# doc\n"))]) := by
  have hwrite : empty.writeText (Path.ofString "README.md") (withLineFeeds "# doc\r\n") =
      (.ok (), folder [("README.md", .file (Text.encode "# doc\n"))]) := by
    have htext : withLineFeeds "# doc\r\n" = "# doc\n" := by decide +kernel
    rw [htext]
    exact writeText_readme (by decide +kernel)
  have hsync : empty.sync "README.md" "# doc\r\n" none =
      (.ok .created, folder [("README.md", .file (Text.encode "# doc\n"))]) :=
    sync_eq_ok_iff.mpr (.inr ⟨false, compare_readme _, hwrite, rfl⟩)
  obtain ⟨place, bytes, -, -, hstep⟩ := sync_inStep hsync
  refine ⟨place, bytes, hsync, hstep.holds.mpr ?_, hstep⟩
  rw [if_neg (by decide)]
  decide +kernel

/-- A file of one byte that is no text is taken for the character that stands for such bytes: it is
found in step and stays, although its bytes do not hold the content. -/
theorem sync_keeps_broken_bytes :
    (folder [("README.md", .file ⟨#[0xFF]⟩)]).sync "README.md" "\uFFFD" none =
        (.ok .unchanged, folder [("README.md", .file ⟨#[0xFF]⟩)]) ∧
      ¬ Holds ⟨#[0xFF]⟩ "\uFFFD" := by
  have hplace : (folder [("README.md", .file ⟨#[0xFF]⟩)]).filePlace (Path.ofString "README.md").text =
      .ok ["README.md"] := by
    decide +kernel
  have hlooks : withLineFeeds (Text.decodeLossy ⟨#[0xFF]⟩) = withLineFeeds "\uFFFD" := by
    decide +kernel
  refine ⟨sync_eq_ok_iff.mpr (.inl ⟨true, ?_, rfl, rfl⟩), ?_⟩
  · exact compare_eq_ok_iff.mpr ⟨rfl, checkFile_of_filePlace (by decide +kernel) hplace, rfl, _,
      readText_of_filePlace hplace rfl, by simp [hlooks]⟩
  · rw [holds_of_looks hlooks]
    decide +kernel

end TemplateDocs.Tree
