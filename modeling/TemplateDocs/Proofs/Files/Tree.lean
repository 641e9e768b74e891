import TemplateDocs.Proofs.Files.Node
import TemplateDocs.Proofs.Files.Path

/-! # Laws of trees

Writing a file changes nothing but that file: every folder stays where it was, and every name that
could be looked up before leads to the same place.
-/

namespace TemplateDocs.Tree

/-! ## Places -/

/-- A folder stands at the place. -/
def IsFolderAt (t : Tree) (place : List String) : Prop :=
  ∃ entries, t.at? place = some (.folder entries)

/-- A place where a file stands or could stand: the folder around it is there. -/
structure FileSpot (t : Tree) (place : List String) : Prop where
  notFolder : ¬ t.IsFolderAt place
  parent : t.IsFolderAt place.dropLast

theorem at?_append (t : Tree) (p q : List String) :
    t.at? (p ++ q) = (t.at? p).bind fun node => node.at? q :=
  t.top.at?_append p q

theorem IsFolderAt.of_append {t : Tree} {p q : List String} (h : t.IsFolderAt (p ++ q)) :
    t.IsFolderAt p :=
  Node.IsFolderAt.of_append h

theorem IsFolderAt.dropLast {t : Tree} {place : List String} (h : t.IsFolderAt place) :
    t.IsFolderAt place.dropLast :=
  Node.IsFolderAt.dropLast h

/-! ## Planting -/

@[simp]
theorem here_plant (node : Node) (place : List String) (t : Tree) : (plant node place t).here = t.here :=
  rfl

theorem plant_plant (node : Node) (place : List String) (t : Tree) :
    plant node place (plant node place t) = plant node place t := by
  simp only [plant, Node.plant_plant]

/-! ## Planting a file -/

/-- A spot for a file is a name in a folder. -/
theorem FileSpot.exists_eq {t : Tree} {place : List String} (h : t.FileSpot place) :
    ∃ parent name, place = parent ++ [name] ∧ t.IsFolderAt parent := by
  rcases List.eq_nil_or_concat place with rfl | ⟨parent, name, rfl⟩
  · exact absurd h.parent h.notFolder
  · have hparent := h.parent
    rw [List.concat_eq_append, List.dropLast_concat] at hparent
    exact ⟨parent, name, List.concat_eq_append, hparent⟩

theorem FileSpot.at?_plant {t : Tree} {place : List String} (h : t.FileSpot place)
    (bytes : ByteArray) (rest : List String) :
    (plant (.file bytes) place t).at? (place ++ rest) = (Node.file bytes).at? rest := by
  obtain ⟨parent, name, rfl, hparent⟩ := h.exists_eq
  exact Node.at?_plant_child hparent name (.file bytes) rest

theorem FileSpot.at?_plant_elsewhere {t : Tree} {spot place : List String} (h : t.FileSpot spot)
    (bytes : ByteArray) (hplace : ¬ spot <+: place) :
    (plant (.file bytes) spot t).at? place = t.at? place ∨
      ((plant (.file bytes) spot t).IsFolderAt place ∧ t.IsFolderAt place) := by
  obtain ⟨parent, name, rfl, hparent⟩ := h.exists_eq
  exact Node.at?_plant_elsewhere hparent name (.file bytes) hplace

/-- A file that is written makes no folder and takes none away. -/
theorem FileSpot.isFolderAt_plant {t : Tree} {spot : List String} (h : t.FileSpot spot)
    (bytes : ByteArray) (place : List String) :
    (plant (.file bytes) spot t).IsFolderAt place ↔ t.IsFolderAt place := by
  by_cases hplace : spot <+: place
  · obtain ⟨rest, rfl⟩ := hplace
    constructor
    · rintro ⟨entries, hentries⟩
      rw [h.at?_plant, Node.at?_file] at hentries
      split at hentries <;> cases hentries
    · exact fun hfolder => absurd hfolder.of_append h.notFolder
  · rcases h.at?_plant_elsewhere bytes hplace with heq | hboth
    · rw [IsFolderAt, heq, IsFolderAt]
    · exact ⟨fun _ => hboth.2, fun _ => hboth.1⟩

/-! ## Names -/

/-- Where a part leads from a folder. -/
def enter? (place : List String) (part : String) : Option (List String) :=
  if part == "." then some place
  else if part == ".." then some place.dropLast
  else if part.utf8ByteSize > partLimit then none
  else some (place ++ [part])

theorem follow_cons_of_folder {t : Tree} {place : List String} (h : t.IsFolderAt place)
    (part : String) (parts : List String) :
    follow t place (part :: parts) =
      match enter? place part with
      | some next => follow t next parts
      | none => .error .nameTooLong := by
  obtain ⟨entries, h⟩ := h
  rw [follow, h]
  unfold enter?
  dsimp only
  split
  · rfl
  · split
    · rfl
    · split <;> rfl

theorem follow_cons_eq_ok_iff {t : Tree} {place parts result : List String} {part : String} :
    follow t place (part :: parts) = .ok result ↔
      t.IsFolderAt place ∧ ∃ next, enter? place part = some next ∧ follow t next parts = .ok result := by
  by_cases hfolder : t.IsFolderAt place
  · rw [follow_cons_of_folder hfolder]
    cases enter? place part with
    | none => simp
    | some next => simp [hfolder]
  · rw [follow]
    cases hat : t.at? place with
    | none => simp [hfolder]
    | some node =>
        cases node with
        | file bytes => simp [hfolder]
        | folder entries => exact absurd ⟨entries, hat⟩ hfolder

theorem follow_append {t : Tree} {parts place mid : List String}
    (h : follow t place parts = .ok mid) (more : List String) :
    follow t place (parts ++ more) = follow t mid more := by
  induction parts generalizing place with
  | nil =>
      cases h
      rfl
  | cons part parts ih =>
      obtain ⟨hfolder, next, hnext, hrest⟩ := follow_cons_eq_ok_iff.mp h
      rw [List.cons_append, follow_cons_of_folder hfolder, hnext]
      exact ih hrest

theorem enter?_cases {place next : List String} {part : String} (h : enter? place part = some next) :
    next = place ∨ next = place.dropLast ∨ next = place ++ [part] := by
  unfold enter? at h
  split at h
  · exact .inl (Option.some.inj h).symm
  · split at h
    · exact .inr (.inl (Option.some.inj h).symm)
    · split at h
      · cases h
      · exact .inr (.inr (Option.some.inj h).symm)

theorem enter?_parent {t : Tree} {place next : List String} {part : String}
    (h : enter? place part = some next) (hfolder : t.IsFolderAt place) :
    t.IsFolderAt next.dropLast := by
  rcases enter?_cases h with rfl | rfl | rfl
  · exact hfolder.dropLast
  · exact hfolder.dropLast.dropLast
  · rwa [List.dropLast_concat]

theorem follow_concat_eq_ok {t : Tree} {parts place result : List String} {part : String}
    (h : follow t place (parts ++ [part]) = .ok result) :
    ∃ mid, follow t place parts = .ok mid ∧ t.IsFolderAt mid ∧ enter? mid part = some result := by
  induction parts generalizing place with
  | nil =>
      obtain ⟨hfolder, next, hnext, hrest⟩ := follow_cons_eq_ok_iff.mp h
      cases hrest
      exact ⟨place, rfl, hfolder, hnext⟩
  | cons first parts ih =>
      obtain ⟨hfolder, next, hnext, hrest⟩ := follow_cons_eq_ok_iff.mp h
      obtain ⟨mid, hmid, hlast⟩ := ih hrest
      exact ⟨mid, follow_cons_eq_ok_iff.mpr ⟨hfolder, next, hnext, hmid⟩, hlast⟩

/-- A name leads to the same place wherever the same folders stand. -/
theorem follow_of_folders {t u : Tree} (h : ∀ place, t.IsFolderAt place → u.IsFolderAt place)
    {parts place result : List String} (hfollow : follow t place parts = .ok result) :
    follow u place parts = .ok result := by
  induction parts generalizing place with
  | nil => exact hfollow
  | cons part parts ih =>
      obtain ⟨hfolder, next, hnext, hrest⟩ := follow_cons_eq_ok_iff.mp hfollow
      exact follow_cons_eq_ok_iff.mpr ⟨h place hfolder, next, hnext, ih hrest⟩

/-- The folder around the place that parts lead to is there. -/
theorem follow_parent {t : Tree} {parts place result : List String} (hne : parts ≠ [])
    (hfollow : follow t place parts = .ok result) : t.IsFolderAt result.dropLast := by
  obtain ⟨init, last, rfl⟩ := (List.eq_nil_or_concat' parts).resolve_left hne
  obtain ⟨mid, -, hfolder, henter⟩ := follow_concat_eq_ok hfollow
  exact enter?_parent henter hfolder

/-- What is wrong with a name, whatever the tree. -/
def nameProblem? (name : String) : Option SystemError :=
  if !name.toList.all isNameable then some .noBytes
  else if name.toList.contains '\x00' then some .invalid
  else if name == "" then some .notFound
  else if nameLimit ≤ name.utf8ByteSize then some .nameTooLong
  else none

theorem ne_empty_of_nameProblem? {name : String} (h : nameProblem? name = none) : name ≠ "" := by
  rintro rfl
  cases h

theorem locate_eq (t : Tree) (name : String) :
    t.locate name =
      match nameProblem? name with
      | some e => .error e
      | none => follow t (t.start name) (steps name) := by
  unfold locate nameProblem?
  split
  · rfl
  · split
    · rfl
    · split
      · rfl
      · split <;> rfl

theorem locate_eq_ok_iff {t : Tree} {name : String} {place : List String} :
    t.locate name = .ok place ↔
      nameProblem? name = none ∧ follow t (t.start name) (steps name) = .ok place := by
  rw [locate_eq]
  cases nameProblem? name <;> simp

/-- A name of a single part leads into the folder on top. -/
theorem locate_single {name : String} (hproblem : nameProblem? name = none)
    (hsteps : steps name = [name]) (henter : enter? [] name = some [name])
    (entries : List (String × Node)) : (folder entries).locate name = .ok [name] := by
  refine locate_eq_ok_iff.mpr ⟨hproblem, ?_⟩
  have hstart : (folder entries).start name = [] := by
    unfold start
    split <;> rfl
  rw [hsteps, hstart]
  exact follow_cons_eq_ok_iff.mpr ⟨⟨entries, rfl⟩, [name], henter, rfl⟩

theorem filePlace_eq_ok_iff {t : Tree} {name : String} {place : List String} :
    t.filePlace name = .ok place ↔ t.locate name = .ok place ∧ ¬ t.IsFolderAt place := by
  unfold filePlace IsFolderAt
  cases t.locate name with
  | error e => simp
  | ok found =>
      simp only
      cases hat : t.at? found with
      | none =>
          simp only [Except.ok.injEq]
          refine ⟨fun h => ⟨h, ?_⟩, fun h => h.1⟩
          rintro ⟨entries, hentries⟩
          rw [← h, hat] at hentries
          cases hentries
      | some node =>
          cases node with
          | file bytes =>
              simp only [Except.ok.injEq]
              refine ⟨fun h => ⟨h, ?_⟩, fun h => h.1⟩
              rintro ⟨entries, hentries⟩
              rw [← h, hat] at hentries
              cases hentries
          | folder entries =>
              simp only [Except.ok.injEq, reduceCtorEq, false_iff, not_and, not_not]
              exact fun h => ⟨entries, h ▸ hat⟩

theorem filePlace_fileSpot {t : Tree} {name : String} {place : List String}
    (h : t.filePlace name = .ok place) : t.FileSpot place := by
  obtain ⟨hlocate, hnot⟩ := filePlace_eq_ok_iff.mp h
  obtain ⟨hproblem, hfollow⟩ := locate_eq_ok_iff.mp hlocate
  exact ⟨hnot, follow_parent (steps_ne_nil (ne_empty_of_nameProblem? hproblem)) hfollow⟩

theorem FileSpot.locate_plant {t : Tree} {spot place : List String} {name : String}
    (h : t.FileSpot spot) (bytes : ByteArray) (hlocate : t.locate name = .ok place) :
    (plant (.file bytes) spot t).locate name = .ok place := by
  obtain ⟨hproblem, hfollow⟩ := locate_eq_ok_iff.mp hlocate
  refine locate_eq_ok_iff.mpr ⟨hproblem, follow_of_folders ?_ hfollow⟩
  exact fun p hp => (h.isFolderAt_plant bytes p).mpr hp

/-- A file that is written leaves every other file where it can be written. -/
theorem FileSpot.filePlace_plant {t : Tree} {spot place : List String} {name : String}
    (h : t.FileSpot spot) (bytes : ByteArray) (hplace : t.filePlace name = .ok place) :
    (plant (.file bytes) spot t).filePlace name = .ok place := by
  obtain ⟨hlocate, hnot⟩ := filePlace_eq_ok_iff.mp hplace
  refine filePlace_eq_ok_iff.mpr ⟨h.locate_plant bytes hlocate, ?_⟩
  rwa [h.isFolderAt_plant bytes place]

/-! ## Reading and writing -/

theorem filePlace_of_read {t : Tree} {name : String} {bytes : ByteArray}
    (h : t.read name = .ok bytes) :
    ∃ place, t.filePlace name = .ok place ∧ t.at? place = some (.file bytes) := by
  unfold read find at h
  cases hlocate : t.locate name with
  | error e => simp [hlocate] at h
  | ok place =>
      simp only [hlocate] at h
      cases hat : t.at? place with
      | none => simp [hat] at h
      | some node =>
          cases node with
          | folder entries => simp [hat] at h
          | file bytes' =>
              simp only [hat, Except.ok.injEq] at h
              exact ⟨place, by simp [filePlace, hlocate, hat], by rw [hat, h]⟩

theorem write_eq_ok_iff {t written : Tree} {name : String} {bytes : ByteArray} :
    t.write name bytes = .ok written ↔
      ∃ place, t.filePlace name = .ok place ∧ written = plant (.file bytes) place t := by
  unfold write
  cases t.filePlace name with
  | error e => simp [Except.map]
  | ok place => simp [Except.map, eq_comm]

/-- A file that was written is found with its bytes. -/
theorem find_of_write {t written : Tree} {name : String} {bytes : ByteArray}
    (h : t.write name bytes = .ok written) : written.find name = .ok (.file bytes) := by
  obtain ⟨place, hplace, rfl⟩ := write_eq_ok_iff.mp h
  have hspot := filePlace_fileSpot hplace
  have hlocate := hspot.locate_plant bytes (filePlace_eq_ok_iff.mp hplace).1
  have hat := hspot.at?_plant bytes []
  rw [List.append_nil] at hat
  simp only [find, hlocate, hat]
  rfl

/-- Writing the same bytes again changes nothing. -/
theorem write_of_write {t written : Tree} {name : String} {bytes : ByteArray}
    (h : t.write name bytes = .ok written) : written.write name bytes = .ok written := by
  obtain ⟨place, hplace, rfl⟩ := write_eq_ok_iff.mp h
  have hspot := filePlace_fileSpot hplace
  refine write_eq_ok_iff.mpr ⟨place, hspot.filePlace_plant bytes hplace, ?_⟩
  rw [plant_plant]

end TemplateDocs.Tree
