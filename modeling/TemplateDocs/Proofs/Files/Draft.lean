import TemplateDocs.Proofs.Files.Path
import TemplateDocs.Proofs.Files.Sync

/-! # What a failure leaves of the files

Bringing a file in step fails before a draft is opened, or afterwards. A draft that was opened is
removed when the system refuses a later step, but not when the text turns out to have no bytes, and
not when the system refuses the removal too. Nothing else is ever changed.
-/

namespace TemplateDocs.Tree

/-! ## Drafts that stay -/

/-- A draft is opened, and if the file is not written, the draft stays. -/
structure DraftStays (t : Tree) (p : Path) (text : String) (disk : Disk) : Prop where
  named : p.name ≠ ""
  placed : ∃ place, t.filePlace (draft p disk).text = .ok place
  opened : disk.refuses .openDraft = false
  stays : Text.hasHalf text = true ∨ disk.refuses .removeDraft = true

/-- The tree after a failure: as before, or with the draft where one stays. -/
def Left (t : Tree) (p : Path) (text : String) (disk : Disk) (after : Tree) : Prop :=
  (after = t ∧ ¬ DraftStays t p text disk) ∨
    (DraftStays t p text disk ∧ ∃ place bytes, t.filePlace (draft p disk).text = .ok place ∧
      after = plant (.file bytes) place t)

/-- Whichever step is refused after the draft was opened, the draft goes the same way. -/
theorem left_of_refused {t : Tree} {p : Path} {text : String} {disk : Disk} {place : List String}
    (hname : p.name ≠ "") (hplace : t.filePlace (draft p disk).text = .ok place)
    (hopen : disk.refuses .openDraft = false) (hhalf : Text.hasHalf text = false)
    (bytes : ByteArray) :
    Left t p text disk (if disk.refuses .removeDraft then plant (.file bytes) place t else t) := by
  cases hremove : disk.refuses .removeDraft with
  | true => exact .inr ⟨⟨hname, ⟨place, hplace⟩, hopen, .inr hremove⟩, place, bytes, hplace, rfl⟩
  | false =>
      refine .inl ⟨rfl, fun hleft => ?_⟩
      rcases hleft.stays with hstays | hstays
      · rw [hhalf] at hstays
        cases hstays
      · rw [hremove] at hstays
        cases hstays

/-- A failed writing leaves all as it was, but for a draft that stays. -/
theorem left_of_writeText {t after : Tree} {p : Path} {text : String} {disk : Disk} {e : Failure}
    (h : t.writeText p text disk = (.error e, after)) : Left t p text disk after := by
  unfold writeText at h
  by_cases hname : p.name = ""
  · rw [if_pos (by simp [hname])] at h
    cases h
    exact .inl ⟨rfl, fun hstays => hstays.named hname⟩
  rw [if_neg (by simp [hname])] at h
  cases hplace : t.filePlace (draft p disk).text with
  | error e' =>
      rw [hplace] at h
      cases h
      refine .inl ⟨rfl, fun hstays => ?_⟩
      obtain ⟨place, hplaced⟩ := hstays.placed
      rw [hplace] at hplaced
      cases hplaced
  | ok place =>
      rw [hplace] at h
      cases hopen : disk.refuses .openDraft with
      | true =>
          simp only [hopen, if_true] at h
          cases h
          refine .inl ⟨rfl, fun hstays => ?_⟩
          have hopened := hstays.opened
          rw [hopen] at hopened
          cases hopened
      | false =>
          simp only [hopen, Bool.false_eq_true, if_false] at h
          cases hbytes : Text.encode? text with
          | none =>
              rw [hbytes] at h
              cases h
              have hhalf := Text.encode?_eq_none_iff.mp hbytes
              exact .inr ⟨⟨hname, ⟨place, hplace⟩, hopen, .inl hhalf⟩, place, _, hplace, rfl⟩
          | some bytes =>
              have hhalf : Text.hasHalf text = false := by
                rw [← Bool.not_eq_true, ← Text.encode?_eq_none_iff, hbytes]
                simp
              rw [hbytes] at h
              dsimp only at h
              split at h
              · cases h
                exact left_of_refused hname hplace hopen hhalf _
              · split at h
                · cases h
                  exact left_of_refused hname hplace hopen hhalf _
                · split at h
                  · cases h
                    exact left_of_refused hname hplace hopen hhalf _
                  · cases h

/-! ## The file itself -/

/-- The name of the draft of a file. -/
def draftName (tag : DraftTag) (name : String) : String :=
  "." ++ name ++ "." ++ tag.digits ++ ".tmp"

theorem length_draftName (tag : DraftTag) (name : String) :
    (draftName tag name).length = name.length + 38 := by
  have hpoint : ".".length = 1 := by decide +kernel
  have hending : ".tmp".length = 4 := by decide +kernel
  simp only [draftName, String.length_append, tag.length_digits, hpoint, hending]
  omega

theorem draftName_ne {tag : DraftTag} {name other : String} (h : other.length < name.length + 38) :
    draftName tag name ≠ other := by
  rintro rfl
  rw [length_draftName] at h
  omega

theorem DraftTag.not_mem {tag : DraftTag} {c : Char} (h : c ∉ "0123456789abcdef".toList) :
    c ∉ tag.digits.toList :=
  fun hc => h (tag.isHex c hc)

theorem isPart_draftName (tag : DraftTag) {name : String} (h : Path.IsPart name) :
    Path.IsPart (draftName tag name) := by
  refine ⟨draftName_ne (by simp), ?_⟩
  have htag : '/' ∉ tag.digits.toList := DraftTag.not_mem (by decide +kernel)
  simp [draftName, h.2, htag]

theorem enter?_draftName {tag : DraftTag} {name : String} {place next : List String}
    (h : enter? place (draftName tag name) = some next) : next = place ++ [draftName tag name] := by
  have hpoint : draftName tag name ≠ "." := draftName_ne (by
    have hlength : ".".length = 1 := by decide +kernel
    omega)
  have hpoints : draftName tag name ≠ ".." := draftName_ne (by
    have hlength : "..".length = 2 := by decide +kernel
    omega)
  unfold enter? at h
  rw [if_neg (by simpa using hpoint), if_neg (by simpa using hpoints)] at h
  split at h
  · cases h
  · cases h
    rfl

theorem draft_proper {p : Path} (hp : p.Proper) (hname : p.name ≠ "") (disk : Disk) :
    (draft p disk).Proper := by
  have hpart : Path.IsPart p.name := hp.parts _ (by rw [Path.parts_eq_concat hname]; simp)
  refine ⟨hp.root, fun part hmem => ?_⟩
  rcases List.mem_append.mp hmem with hmem | hmem
  · exact hp.parts part (List.mem_of_mem_dropLast hmem)
  · rw [List.mem_singleton.mp hmem]
    exact isPart_draftName _ hpart

/-- A draft and its file stand in the same folder. -/
theorem draft_beside {t : Tree} {p : Path} {disk : Disk} {place : List String} (hp : p.Proper)
    (hname : p.name ≠ "") (h : t.filePlace (draft p disk).text = .ok place) :
    ∃ around folders, t.IsFolderAt around ∧ place = around ++ [draftName (disk.tag p) p.name] ∧
      follow t (t.start p.text) folders = .ok around ∧ steps p.text = folders ++ [p.name] := by
  obtain ⟨hlocate, -⟩ := filePlace_eq_ok_iff.mp h
  obtain ⟨-, hfollow⟩ := locate_eq_ok_iff.mp hlocate
  have hdraft := draft_proper hp hname disk
  have hstart : t.start (draft p disk).text = t.start p.text := by
    rw [Path.start_text hdraft, Path.start_text hp]
    rfl
  have hsteps : steps p.text = p.parts.dropLast ++ [p.name] := by
    rw [Path.steps_text hp (by rw [Path.parts_eq_concat hname]; simp)]
    exact Path.parts_eq_concat hname
  have hdraftSteps : steps (draft p disk).text =
      p.parts.dropLast ++ [draftName (disk.tag p) p.name] :=
    Path.steps_text hdraft (by simp [draft, Path.withName])
  rw [hdraftSteps, hstart] at hfollow
  obtain ⟨around, haround, hfolder, henter⟩ := follow_concat_eq_ok hfollow
  exact ⟨around, p.parts.dropLast, hfolder, enter?_draftName henter, haround, hsteps⟩

/-- Bringing a file in step comes to a draft that stays unless the file is written. -/
def LeavesDraft (t : Tree) (name content : String) (disk : Disk) : Prop :=
  (∃ there, t.compare name (withLineFeeds content) none disk = .ok (there, false)) ∧
    DraftStays t (Path.ofString name) (withLineFeeds content) disk

end TemplateDocs.Tree
