import TemplateDocs.Proofs.Files.Draft
import TemplateDocs.Proofs.Text.Unbroken

/-! # Faults on the way to a file

The system is never asked about a name that holds a null character or half of a pair, and a text that
holds half of a pair has no bytes. Everything else that keeps a file from being brought in step is
reported.
-/

namespace TemplateDocs

/-! ## The characters of a path -/

/-- A law of characters that slashes and points obey holds for a path if it holds for its parts. -/
theorem Path.forall_mem_text {P : Char → Prop} (hslash : P '/') (hpoint : P '.') (p : Path) :
    (∀ c ∈ p.text.toList, P c) ↔
      (∀ c ∈ p.root.toList, P c) ∧ ∀ part ∈ p.parts, ∀ c ∈ part.toList, P c := by
  have hbody : (∀ c ∈ (p.root ++ Text.join "/" p.parts).toList, P c) ↔
      (∀ c ∈ p.root.toList, P c) ∧ ∀ part ∈ p.parts, ∀ c ∈ part.toList, P c := by
    rw [String.toList_append, List.forall_mem_append, Text.join, String.toList_intercalate]
    refine and_congr_right fun _ => ⟨fun h part hpart c hc => ?_, fun h c hc => ?_⟩
    · exact h c (Text.subset_intercalate (List.mem_map_of_mem hpart) hc)
    · rcases Text.mem_intercalate hc with hsep | ⟨cs, hcs, hmem⟩
      · rw [List.mem_singleton.mp hsep]
        exact hslash
      · obtain ⟨part, hpart, rfl⟩ := List.mem_map.mp hcs
        exact h part hpart c hmem
  unfold Path.text
  dsimp only
  split
  · rename_i hempty
    rw [beq_iff_eq.mp hempty] at hbody
    exact ⟨fun _ => hbody.mp (by simp), fun _ => by simpa using hpoint⟩
  · exact hbody

/-- A path holds the characters of the text that names it, slashes and points aside. -/
theorem Path.forall_mem_ofString {P : Char → Prop} (hslash : P '/') (hpoint : P '.') (s : String) :
    (∀ c ∈ (ofString s).text.toList, P c) ↔ ∀ c ∈ s.toList, P c := by
  rw [forall_mem_text hslash hpoint, ← Text.forall_mem_splitOn hslash s.toList]
  have hroot : ∀ c ∈ (ofString s).root.toList, P c := by
    intro c hc
    rw [(ofString_proper s).eq_slash_of_mem_root c hc]
    exact hslash
  rw [and_iff_right hroot]
  constructor
  · intro h cs hcs c hc
    by_cases hkept : String.ofList cs = "" ∨ String.ofList cs = "."
    · have hlist : cs = "".toList ∨ cs = ".".toList := by
        rcases hkept with heq | heq
        · exact .inl (by rw [← heq, String.toList_ofList])
        · exact .inr (by rw [← heq, String.toList_ofList])
      rcases hlist with rfl | rfl
      · cases hc
      · rw [List.mem_singleton.mp hc]
        exact hpoint
    · rw [not_or] at hkept
      have hpart : String.ofList cs ∈ (ofString s).parts :=
        List.mem_filter.mpr ⟨List.mem_map_of_mem hcs, by simpa using hkept⟩
      exact h _ hpart c (by rwa [String.toList_ofList])
  · intro h part hpart c hc
    obtain ⟨cs, hcs, rfl⟩ := List.mem_map.mp (List.mem_filter.mp hpart).1
    exact h cs hcs c (by rwa [String.toList_ofList] at hc)

namespace Tree

/-! ## Names that the system is never asked about -/

/-- The fault of a name that the system is never asked about. -/
def nameFault? (name : String) : Option Fault :=
  if !name.toList.all isNameable then some .noBytes
  else if name.toList.contains '\x00' then some .wrongValue
  else none

theorem nameFault?_congr {a b : String}
    (hnameable : (∀ c ∈ a.toList, isNameable c = true) ↔ ∀ c ∈ b.toList, isNameable c = true)
    (hnull : (∀ c ∈ a.toList, c ≠ '\x00') ↔ ∀ c ∈ b.toList, c ≠ '\x00') :
    nameFault? a = nameFault? b := by
  have hmem : ∀ s : String, s.toList.contains '\x00' = true ↔ ¬ ∀ c ∈ s.toList, c ≠ '\x00' := by
    simp
  have hall : a.toList.all isNameable = b.toList.all isNameable := by
    rw [Bool.eq_iff_iff, List.all_eq_true, List.all_eq_true, hnameable]
  have hcontains : a.toList.contains '\x00' = b.toList.contains '\x00' := by
    rw [Bool.eq_iff_iff, hmem, hmem, hnull]
  rw [nameFault?, nameFault?, hall, hcontains]

theorem nameFault?_ofString (s : String) : nameFault? (Path.ofString s).text = nameFault? s :=
  nameFault?_congr (Path.forall_mem_ofString (by decide) (by decide) s)
    (Path.forall_mem_ofString (by decide) (by decide) s)

theorem fault?_nameProblem? (name : String) :
    (nameProblem? name).bind SystemError.fault? = nameFault? name := by
  unfold nameProblem? nameFault?
  split
  · rfl
  · split
    · rfl
    · split
      · rfl
      · split <;> rfl

theorem follow_eq_error {t : Tree} {parts place : List String} {e : SystemError}
    (h : follow t place parts = .error e) : e.fault? = none := by
  induction parts generalizing place with
  | nil => cases h
  | cons part parts ih =>
      by_cases hfolder : t.IsFolderAt place
      · rw [follow_cons_of_folder hfolder] at h
        cases henter : enter? place part with
        | some next => exact ih (by simpa [henter] using h)
        | none =>
            simp only [henter, Except.error.injEq] at h
            rw [← h]
            rfl
      · rw [follow] at h
        cases hat : t.at? place with
        | none =>
            simp only [hat, Except.error.injEq] at h
            rw [← h]
            rfl
        | some node =>
            cases node with
            | file bytes =>
                simp only [hat, Except.error.injEq] at h
                rw [← h]
                rfl
            | folder entries => exact absurd ⟨entries, hat⟩ hfolder

/-- The fault of an error, if it is one, is the fault of the name. -/
theorem locate_eq_error {t : Tree} {name : String} {e : SystemError} (h : t.locate name = .error e) :
    e.fault? = nameFault? name := by
  rw [locate_eq] at h
  rw [← fault?_nameProblem?]
  cases hproblem : nameProblem? name with
  | some problem =>
      rw [hproblem] at h
      cases h
      rfl
  | none =>
      rw [hproblem] at h
      exact follow_eq_error h

theorem nameFault?_of_locate {t : Tree} {name : String} {place : List String}
    (h : t.locate name = .ok place) : nameFault? name = none := by
  rw [← fault?_nameProblem?, (locate_eq_ok_iff.mp h).1]
  rfl

theorem filePlace_eq_error {t : Tree} {name : String} {e : SystemError}
    (h : t.filePlace name = .error e) : e.fault? = nameFault? name := by
  unfold filePlace at h
  cases hlocate : t.locate name with
  | error e' =>
      rw [hlocate] at h
      cases h
      exact locate_eq_error hlocate
  | ok place =>
      simp only [hlocate] at h
      split at h
      · cases h
        exact (nameFault?_of_locate hlocate).symm
      · cases h

theorem read_eq_error {t : Tree} {name : String} {e : SystemError} (h : t.read name = .error e) :
    e.fault? = nameFault? name := by
  unfold read find at h
  cases hlocate : t.locate name with
  | error e' =>
      simp only [hlocate] at h
      cases h
      exact locate_eq_error hlocate
  | ok place =>
      rw [nameFault?_of_locate hlocate]
      cases hat : t.at? place with
      | none =>
          simp only [hlocate, hat] at h
          cases h
          rfl
      | some node =>
          simp only [hlocate, hat] at h
          cases node with
          | file bytes => cases h
          | folder entries =>
              cases h
              rfl

theorem read_of_nameFault {t : Tree} {name : String} {f : Fault} (h : nameFault? name = some f) :
    ∃ e, t.read name = .error e ∧ e.fault? = some f := by
  cases hread : t.read name with
  | error e => exact ⟨e, rfl, (read_eq_error hread).trans h⟩
  | ok bytes =>
      unfold read find at hread
      cases hlocate : t.locate name with
      | error e => simp [hlocate] at hread
      | ok place => simp [nameFault?_of_locate hlocate] at h

/-- A draft can be named as far as its file can. -/
theorem nameFault?_draft {p : Path} (hname : p.name ≠ "") (disk : Disk) :
    nameFault? (draft p disk).text = nameFault? p.text := by
  have hsame : ∀ P : Char → Prop, P '/' → P '.' →
      (∀ c ∈ "0123456789abcdef".toList ++ ".tmp".toList, P c) →
      ((∀ c ∈ (draft p disk).text.toList, P c) ↔ ∀ c ∈ p.text.toList, P c) := by
    intro P hslash hpoint htag
    rw [List.forall_mem_append] at htag
    have hdraft : (∀ c ∈ (draftName (disk.tag p) p.name).toList, P c) ↔ ∀ c ∈ p.name.toList, P c := by
      have hdigits : ∀ c ∈ (disk.tag p).digits.toList, P c :=
        fun c hc => htag.1 c ((disk.tag p).isHex c hc)
      have hdot : ∀ c ∈ ".".toList, P c := by simpa using hpoint
      simp only [draftName, String.toList_append, List.forall_mem_append]
      exact ⟨fun h => h.1.1.1.2, fun h => ⟨⟨⟨⟨hdot, h⟩, hdot⟩, hdigits⟩, htag.2⟩⟩
    rw [Path.forall_mem_text hslash hpoint, Path.forall_mem_text hslash hpoint]
    refine and_congr_right fun _ => ?_
    have hparts : (draft p disk).parts = p.parts.dropLast ++ [draftName (disk.tag p) p.name] := rfl
    rw [hparts, Path.parts_eq_concat hname, List.dropLast_concat, List.forall_mem_append,
      List.forall_mem_append, List.forall_mem_singleton, List.forall_mem_singleton, hdraft]
  have htag : ("0123456789abcdef".toList ++ ".tmp".toList).all
      (fun c => isNameable c && c != '\x00') = true := by
    decide +kernel
  have hchars : ∀ c ∈ "0123456789abcdef".toList ++ ".tmp".toList,
      isNameable c = true ∧ c ≠ '\x00' := by
    intro c hc
    simpa using List.all_eq_true.mp htag c hc
  exact nameFault?_congr
    (hsame (fun c => isNameable c = true) (by decide) (by decide) fun c hc => (hchars c hc).1)
    (hsame (fun c => c ≠ '\x00') (by decide) (by decide) fun c hc => (hchars c hc).2)

/-! ## Comparing and writing -/

theorem failure_ne_fault (e : FileError) (f : Fault) : e.failure ≠ .fault f := by
  rintro ⟨⟩

theorem grant_eq_error {α : Type} {disk : Disk} {access : Access} {e : FileError}
    {answer : Except Failure α} {e' : Failure} (h : disk.grant access e answer = .error e') :
    answer = .error e' ∨ e' = e.failure := by
  unfold Disk.grant at h
  cases answer with
  | error e'' => exact .inl h
  | ok a =>
      cases hrefuses : disk.refuses access with
      | true =>
          simp only [hrefuses] at h
          exact .inr (Except.error.inj h).symm
      | false =>
          simp only [hrefuses] at h
          cases h

theorem checkFile_eq_error {t : Tree} {name : String} {e : Failure}
    (h : t.checkFile name = .error e) : ∃ e' : FileError, e = e'.failure := by
  unfold checkFile at h
  split at h
  · exact ⟨_, (Except.error.inj h).symm⟩
  · split at h
    · exact ⟨_, (Except.error.inj h).symm⟩
    · exact ⟨_, (Except.error.inj h).symm⟩
    · cases h
    · cases h

/-- A file that is there can be read. -/
theorem readText_of_checkFile {t : Tree} {name : String} (h : t.checkFile name = .ok true) :
    ∃ text, t.readText name = .ok text := by
  unfold checkFile probe at h
  unfold readText read
  split at h
  · cases h
  · cases hfind : t.find (Path.ofString name).text with
    | error e => cases e <;> simp [hfind] at h
    | ok node =>
        cases node with
        | folder entries => simp [hfind] at h
        | file bytes => exact ⟨_, rfl⟩

/-- What keeps a file from being compared is reported. -/
theorem compare_eq_error {t : Tree} {name text : String} {disk : Disk} {e : Failure}
    (h : t.compare name text none disk = .error e) : ∃ e' : FileError, e = e'.failure := by
  rw [compare_unfold] at h
  cases hthere : disk.grant .inspect (.stat name) (t.checkFile name) with
  | error e'' =>
      rw [hthere] at h
      cases h
      rcases grant_eq_error hthere with hcheck | hrefused
      · exact checkFile_eq_error hcheck
      · exact ⟨_, hrefused⟩
  | ok there =>
      rw [hthere] at h
      cases there with
      | false => cases h
      | true =>
          obtain ⟨current, hcurrent⟩ := readText_of_checkFile (grant_eq_ok_iff.mp hthere).2
          rw [hcurrent] at h
          cases hread : disk.grant .read (.read name) (.ok current) with
          | error e'' =>
              simp only [hread, bind, Except.bind, if_true, Except.error.injEq] at h
              rcases grant_eq_error hread with hno | hrefused
              · cases hno
              · exact ⟨_, h.symm.trans hrefused⟩
          | ok a => simp [hread, bind, Except.bind, pure, Except.pure] at h

theorem compare_ne_fault (t : Tree) (name text : String) (disk : Disk) (f : Fault) :
    t.compare name text none disk ≠ .error (.fault f) := by
  intro h
  obtain ⟨e, he⟩ := compare_eq_error h
  exact failure_ne_fault e f he.symm

theorem writeText_eq_error {t : Tree} {p : Path} {text : String} {disk : Disk} {e : Failure}
    (h : (t.writeText p text disk).1 = .error e) :
    (∃ e' : FileError, e = e'.failure) ∨ ∃ f, e = .fault f := by
  unfold writeText at h
  split at h
  · exact .inr ⟨_, (Except.error.inj h).symm⟩
  · split at h
    · rename_i system _
      cases hfault : system.fault? with
      | none =>
          simp only [hfault, Option.map_none, Option.getD_none] at h
          exact .inl ⟨_, (Except.error.inj h).symm⟩
      | some f =>
          simp only [hfault, Option.map_some, Option.getD_some] at h
          exact .inr ⟨f, (Except.error.inj h).symm⟩
    · cases hopen : disk.refuses .openDraft with
      | true => exact .inl ⟨_, by simpa [hopen] using h.symm⟩
      | false =>
          cases hbytes : Text.encode? text with
          | none => exact .inr ⟨_, by simpa [hopen, hbytes] using h.symm⟩
          | some bytes =>
              cases hfill : disk.refuses .fillDraft with
              | true => exact .inl ⟨_, by simpa [hopen, hbytes, hfill] using h.symm⟩
              | false =>
                  cases hwrite : t.write p.text bytes with
                  | error system =>
                      exact .inl ⟨_, by simpa [hopen, hbytes, hfill, hwrite] using h.symm⟩
                  | ok written =>
                      cases hreplace : disk.refuses .replace with
                      | true =>
                          refine .inl ⟨FileError.write p.text, ?_⟩
                          simpa [hopen, hbytes, hfill, hwrite, hreplace] using h.symm
                      | false => simp [hopen, hbytes, hfill, hwrite, hreplace] at h

theorem writeText_eq_fault_iff {t : Tree} {p : Path} {text : String} {disk : Disk} {f : Fault}
    (hname : p.name ≠ "") :
    (t.writeText p text disk).1 = .error (.fault f) ↔
      nameFault? p.text = some f ∨
        (f = .noBytes ∧ Text.hasHalf text = true ∧ DraftStays t p text disk) := by
  unfold writeText
  rw [if_neg (by simpa using hname)]
  cases hplace : t.filePlace (draft p disk).text with
  | error e =>
      have hfault := filePlace_eq_error hplace
      rw [nameFault?_draft hname] at hfault
      have hnot : ¬ DraftStays t p text disk := by
        intro hstays
        obtain ⟨place, hplaced⟩ := hstays.placed
        rw [hplace] at hplaced
        cases hplaced
      rw [← hfault]
      cases hsystem : e.fault? with
      | none => simpa [hnot, hsystem] using failure_ne_fault (FileError.write p.text) f
      | some f' => simp [hnot, hsystem]
  | ok place =>
      have hfault : nameFault? p.text = none := by
        rw [← nameFault?_draft hname]
        exact nameFault?_of_locate (filePlace_eq_ok_iff.mp hplace).1
      have hstays : DraftStays t p text disk ↔ disk.refuses .openDraft = false ∧
          (Text.hasHalf text = true ∨ disk.refuses .removeDraft = true) :=
        ⟨fun h => ⟨h.opened, h.stays⟩, fun h => ⟨hname, ⟨place, hplace⟩, h.1, h.2⟩⟩
      rw [hstays, hfault]
      cases hopen : disk.refuses .openDraft with
      | true => simpa using failure_ne_fault (FileError.write p.text) f
      | false =>
          cases hbytes : Text.encode? text with
          | none =>
              have hhalf := Text.encode?_eq_none_iff.mp hbytes
              simp only [hhalf, Bool.false_eq_true, if_false, Except.error.injEq, Failure.fault.injEq,
                reduceCtorEq, false_or, true_or, and_true]
              exact eq_comm
          | some bytes =>
              have hhalf : Text.hasHalf text = false := by
                rw [← Bool.not_eq_true, ← Text.encode?_eq_none_iff, hbytes]
                simp
              have hnot := failure_ne_fault (FileError.write p.text) f
              cases hfill : disk.refuses .fillDraft with
              | true => simp [hhalf, hnot]
              | false =>
                  cases hwrite : t.write p.text bytes with
                  | error e => simp [hhalf, hnot, hwrite]
                  | ok written => cases disk.refuses .replace <;> simp [hhalf, hnot, hwrite]

/-! ## Bringing a file in step -/

theorem name_ne_of_checkFile {t : Tree} {name : String} {there : Bool}
    (h : t.checkFile name = .ok there) : (Path.ofString name).name ≠ "" := by
  unfold checkFile at h
  split at h
  · cases h
  · rename_i hparts
    rcases List.eq_nil_or_concat (Path.ofString name).parts with hnil | ⟨init, last, hlast⟩
    · simp [hnil] at hparts
    · have hpart := (Path.ofString_proper name).parts last (by simp [hlast])
      simpa [Path.name, hlast] using hpart.1

/-- A file whose name the system is never asked about counts as missing. -/
theorem checkFile_of_nameFault {t : Tree} {name : String} {f : Fault}
    (h : nameFault? (Path.ofString name).text = some f) : t.checkFile name = .ok false := by
  have hparts : (Path.ofString name).parts.isEmpty = false := by
    rw [Bool.eq_false_iff]
    intro hempty
    have hall : ∀ P : Char → Prop, P '/' → P '.' → ∀ c ∈ (Path.ofString name).text.toList, P c := by
      intro P hslash hpoint
      rw [Path.forall_mem_text hslash hpoint, List.isEmpty_iff.mp hempty]
      refine ⟨fun c hc => ?_, by simp⟩
      rw [(Path.ofString_proper name).eq_slash_of_mem_root c hc]
      exact hslash
    have hnone : nameFault? (Path.ofString name).text = nameFault? "" :=
      nameFault?_congr (iff_of_true (hall _ (by decide) (by decide)) (by simp))
        (iff_of_true (hall _ (by decide) (by decide)) (by simp))
    rw [hnone] at h
    cases h
  have hfind : ∃ e, t.find (Path.ofString name).text = .error e ∧ e.fault? = some f := by
    unfold find
    cases hlocate : t.locate (Path.ofString name).text with
    | error e => exact ⟨e, rfl, (locate_eq_error hlocate).trans h⟩
    | ok place => simp [nameFault?_of_locate hlocate] at h
  obtain ⟨e, hfind, hfault⟩ := hfind
  rw [checkFile, hparts]
  unfold probe
  rw [hfind]
  cases e <;> first | rfl | cases hfault

theorem compare_of_nameFault {t : Tree} {name text : String} {disk : Disk} {f : Fault}
    (hinspect : disk.refuses .inspect = false)
    (h : nameFault? (Path.ofString name).text = some f) :
    t.compare name text none disk = .ok (false, false) :=
  compare_eq_ok_iff.mpr ⟨hinspect, checkFile_of_nameFault h, rfl⟩

/-- A fault comes from writing. -/
theorem sync_eq_fault {t : Tree} {name content : String} {disk : Disk} {f : Fault} :
    (t.sync name content none disk).1 = .error (.fault f) ↔
      (∃ there, t.compare name (withLineFeeds content) none disk = .ok (there, false)) ∧
        (t.writeText (Path.ofString name) (withLineFeeds content) disk).1 = .error (.fault f) := by
  unfold sync
  rcases hcompare : t.compare name (withLineFeeds content) none disk with e | ⟨there, same⟩
  · have hne := compare_ne_fault t name (withLineFeeds content) disk f
    rw [hcompare] at hne
    simp only [hcompare]
    simpa using fun h => hne (congrArg Except.error h)
  · cases same with
    | true => simp [hcompare]
    | false =>
        simp only [hcompare]
        cases (t.writeText (Path.ofString name) (withLineFeeds content) disk).1 with
        | error e => simp [Except.map]
        | ok done => simp [Except.map]

/-- Whatever keeps a file from being brought in step is reported or a fault. -/
theorem reported_or_fault_of_sync {t after : Tree} {name content : String} {disk : Disk}
    {e : Failure} (h : t.sync name content none disk = (.error e, after)) :
    (∃ e' : FileError, e = e'.failure) ∨ ∃ f, e = .fault f := by
  unfold sync at h
  rcases hcompare : t.compare name (withLineFeeds content) none disk with e' | ⟨there, same⟩
  · simp only [hcompare] at h
    cases h
    exact .inl (compare_eq_error hcompare)
  · cases same with
    | true =>
        simp only [hcompare] at h
        cases h
    | false =>
        simp only [hcompare] at h
        rcases hwrite : t.writeText (Path.ofString name) (withLineFeeds content) disk with
          ⟨e' | done, written⟩
        · simp only [hwrite, Except.map] at h
          cases h
          exact writeText_eq_error (congrArg Prod.fst hwrite)
        · simp only [hwrite, Except.map] at h
          cases h

/-- Bringing a file in step ends in a fault exactly when the system is never asked about its name, or
when a text without bytes was to be written into a draft. -/
theorem sync_eq_fault_iff {t : Tree} {name content : String} {disk : Disk} {f : Fault} :
    (t.sync name content none disk).1 = .error (.fault f) ↔
      (disk.refuses .inspect = false ∧ nameFault? name = some f) ∨
        (f = .noBytes ∧ Text.hasHalf (withLineFeeds content) = true ∧
          LeavesDraft t name content disk) := by
  rw [sync_eq_fault, ← nameFault?_ofString]
  constructor
  · rintro ⟨⟨there, hcompare⟩, hwrite⟩
    obtain ⟨hinspect, hcheck, -⟩ := compare_eq_ok_iff.mp hcompare
    rcases (writeText_eq_fault_iff (name_ne_of_checkFile hcheck)).mp hwrite with
      hname | ⟨hfault, hhalf, hstays⟩
    · exact .inl ⟨hinspect, hname⟩
    · exact .inr ⟨hfault, hhalf, ⟨there, hcompare⟩, hstays⟩
  · rintro (⟨hinspect, hname⟩ | ⟨hfault, hhalf, hcompare, hstays⟩)
    · have hpath := name_ne_of_checkFile (checkFile_of_nameFault (t := t) hname)
      exact ⟨⟨false, compare_of_nameFault hinspect hname⟩,
        (writeText_eq_fault_iff hpath).mpr (.inl hname)⟩
    · exact ⟨hcompare, (writeText_eq_fault_iff hstays.named).mpr (.inr ⟨hfault, hhalf, hstays⟩)⟩

end Tree

end TemplateDocs
