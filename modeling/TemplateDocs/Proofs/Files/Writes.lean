import TemplateDocs.Proofs.Files.Draft

/-! # Several files written into one tree

Writing files makes no folder and takes none away, so that every name leads where it led before. Files
in different folders can be written in any order.
-/

namespace TemplateDocs

namespace Tree

/-! ## The same folders -/

/-- Both trees have the same folders, and the same working directory. -/
structure SameFolders (t u : Tree) : Prop where
  here : t.here = u.here
  folders : ∀ place, t.IsFolderAt place ↔ u.IsFolderAt place

namespace SameFolders

variable {t u v : Tree}

theorem refl (t : Tree) : SameFolders t t :=
  ⟨rfl, fun _ => Iff.rfl⟩

theorem symm (h : SameFolders t u) : SameFolders u t :=
  ⟨h.here.symm, fun place => (h.folders place).symm⟩

theorem trans (h : SameFolders t u) (h' : SameFolders u v) : SameFolders t v :=
  ⟨h.here.trans h'.here, fun place => (h.folders place).trans (h'.folders place)⟩

theorem start (h : SameFolders t u) (name : String) : t.start name = u.start name := by
  unfold Tree.start
  rw [h.here]

theorem fileSpot (h : SameFolders t u) {place : List String} (hspot : t.FileSpot place) :
    u.FileSpot place :=
  ⟨fun hfolder => hspot.notFolder ((h.folders place).mpr hfolder), (h.folders _).mp hspot.parent⟩

theorem locate (h : SameFolders t u) {name : String} {place : List String}
    (hlocate : t.locate name = .ok place) : u.locate name = .ok place := by
  obtain ⟨hproblem, hfollow⟩ := locate_eq_ok_iff.mp hlocate
  rw [h.start] at hfollow
  exact locate_eq_ok_iff.mpr ⟨hproblem, follow_of_folders (fun p => (h.folders p).mp) hfollow⟩

theorem filePlace (h : SameFolders t u) {name : String} {place : List String}
    (hplace : t.filePlace name = .ok place) : u.filePlace name = .ok place := by
  obtain ⟨hlocate, hnot⟩ := filePlace_eq_ok_iff.mp hplace
  refine filePlace_eq_ok_iff.mpr ⟨h.locate hlocate, fun hfolder => hnot ?_⟩
  exact (h.folders place).mpr hfolder

/-- A name leads to the same if the same stands at its place. -/
theorem find (h : SameFolders t u) {name : String} {place : List String}
    (hlocate : t.locate name = .ok place) (hat : u.at? place = t.at? place) :
    u.find name = t.find name := by
  unfold Tree.find
  rw [hlocate, h.locate hlocate]
  simp only [hat]

end SameFolders

theorem FileSpot.sameFolders_plant {t : Tree} {spot : List String} (h : t.FileSpot spot)
    (bytes : ByteArray) : SameFolders (plant (.file bytes) spot t) t :=
  ⟨rfl, h.isFolderAt_plant bytes⟩

/-- Whatever is no folder and stands elsewhere stays as it is. -/
theorem FileSpot.at?_plant_of_ne {t : Tree} {spot place : List String} (h : t.FileSpot spot)
    (bytes : ByteArray) (hplace : ¬ t.IsFolderAt place) (hne : place ≠ spot) :
    (plant (.file bytes) spot t).at? place = t.at? place := by
  by_cases hprefix : spot <+: place
  · obtain ⟨rest, rfl⟩ := hprefix
    have hrest : rest ≠ [] := by
      rintro rfl
      simp at hne
    rw [h.at?_plant, Node.at?_file, if_neg hrest, at?_append]
    cases hat : t.at? spot with
    | none => rfl
    | some node =>
        cases node with
        | folder entries => exact absurd ⟨entries, hat⟩ h.notFolder
        | file bytes' => rw [Option.bind_some, Node.at?_file, if_neg hrest]
  · rcases h.at?_plant_elsewhere bytes hprefix with heq | hboth
    · exact heq
    · exact absurd hboth.2 hplace

/-! ## Documents in trees of the same folders -/

theorem compare_congr {t u : Tree} {name : String}
    (h : u.find (Path.ofString name).text = t.find (Path.ofString name).text) (text : String)
    (disk : Disk) : u.compare name text none disk = t.compare name text none disk := by
  have hcheck : u.checkFile name = t.checkFile name := by
    unfold checkFile probe
    rw [h]
  have hread : u.readText name = t.readText name := by
    unfold readText read
    rw [h]
  rw [compare_unfold, compare_unfold, hcheck, hread]

/-- A file that holds a text has a place. -/
theorem filePlace_of_compare {t : Tree} {name text : String} {disk : Disk} {there : Bool}
    (h : t.compare name text none disk = .ok (there, true)) :
    ∃ place, t.filePlace (Path.ofString name).text = .ok place := by
  obtain ⟨-, -, hcurrent⟩ := compare_eq_ok_iff.mp h
  cases there with
  | false => cases hcurrent
  | true =>
      obtain ⟨-, current, hread, -⟩ := hcurrent
      unfold readText at hread
      cases hbytes : t.read (Path.ofString name).text with
      | error e => simp [hbytes] at hread
      | ok bytes =>
          obtain ⟨place, hplace, -⟩ := filePlace_of_read hbytes
          exact ⟨place, hplace⟩

/-- A text that can be written to a file goes to the place of the file, in every tree of the same
folders. -/
theorem SameFolders.writeText {t u written : Tree} (h : SameFolders t u) {p : Path} {text : String}
    {disk : Disk} {place : List String} (hplace : t.filePlace p.text = .ok place)
    (hwrite : t.writeText p text disk = (.ok (), written)) :
    u.writeText p text disk = (.ok (), plant (.file (Text.encode text)) place u) := by
  obtain ⟨hname, ⟨spot, hspot⟩, hopen, hfill, hreplace, bytes, hbytes, -⟩ :=
    writeText_eq_ok_iff.mp hwrite
  refine writeText_eq_ok_iff.mpr ⟨hname, ⟨spot, h.filePlace hspot⟩, hopen, hfill, hreplace, bytes,
    hbytes, write_eq_ok_iff.mpr ⟨place, h.filePlace hplace, ?_⟩⟩
  rw [Text.encode?_eq_some hbytes]

/-! ## Many files -/

/-- The tree with files written at places, one after the other. -/
def plantAll (writes : List (List String × ByteArray)) (t : Tree) : Tree :=
  writes.foldl (fun t e => plant (.file e.2) e.1 t) t

variable {t : Tree} {writes : List (List String × ByteArray)}

theorem plantAll_cons (e : List String × ByteArray) (writes : List (List String × ByteArray))
    (t : Tree) : plantAll (e :: writes) t = plantAll writes (plant (.file e.2) e.1 t) := rfl

theorem plantAll_append (writes more : List (List String × ByteArray)) (t : Tree) :
    plantAll (writes ++ more) t = plantAll more (plantAll writes t) :=
  List.foldl_append

theorem fileSpots_plant {e : List String × ByteArray} (h : ∀ e' ∈ e :: writes, t.FileSpot e'.1) :
    ∀ e' ∈ writes, (plant (.file e.2) e.1 t).FileSpot e'.1 := by
  intro e' he'
  have hspot := h e List.mem_cons_self
  exact (hspot.sameFolders_plant e.2).symm.fileSpot (h e' (List.mem_cons_of_mem e he'))

theorem sameFolders_plantAll (h : ∀ e ∈ writes, t.FileSpot e.1) :
    SameFolders (plantAll writes t) t := by
  induction writes generalizing t with
  | nil => exact .refl t
  | cons e writes ih =>
      have hspot := h e List.mem_cons_self
      exact (ih (fileSpots_plant h)).trans (hspot.sameFolders_plant e.2)

theorem at?_plantAll (h : ∀ e ∈ writes, t.FileSpot e.1) {place : List String}
    (hplace : ¬ t.IsFolderAt place) (hne : ∀ e ∈ writes, place ≠ e.1) :
    (plantAll writes t).at? place = t.at? place := by
  induction writes generalizing t with
  | nil => rfl
  | cons e writes ih =>
      have hspot := h e List.mem_cons_self
      have hfolder : ¬ (plant (.file e.2) e.1 t).IsFolderAt place := by
        rwa [hspot.isFolderAt_plant]
      rw [plantAll_cons, ih (fileSpots_plant h) hfolder fun e' he' => hne e' (List.mem_cons_of_mem e he')]
      exact hspot.at?_plant_of_ne e.2 hplace (hne e List.mem_cons_self)

/-- A name leads to the same unless it leads to a file that was written. -/
theorem find_plantAll (h : ∀ e ∈ writes, t.FileSpot e.1) {name : String} {place : List String}
    (hplace : t.filePlace name = .ok place) (hne : ∀ e ∈ writes, e.1 ≠ place) :
    (plantAll writes t).find name = t.find name := by
  obtain ⟨hlocate, hfolder⟩ := filePlace_eq_ok_iff.mp hplace
  refine (sameFolders_plantAll h).symm.find hlocate (at?_plantAll h hfolder ?_)
  exact fun e he hsame => hne e he hsame.symm

theorem FileSpot.plant_comm {spot other : List String} (hspot : t.FileSpot spot)
    (hother : t.FileSpot other) (hne : spot.dropLast ≠ other.dropLast) (bytes bytes' : ByteArray) :
    plant (.file bytes) spot (plant (.file bytes') other t) =
      plant (.file bytes') other (plant (.file bytes) spot t) := by
  obtain ⟨f, n, rfl, hf⟩ := hspot.exists_eq
  obtain ⟨g, m, rfl, hg⟩ := hother.exists_eq
  rw [List.dropLast_concat, List.dropLast_concat] at hne
  simp only [plant, Node.plant_comm hf hg hne hspot.notFolder hother.notFolder]

/-- Files of different folders can be written in any order. -/
theorem plantAll_perm {writes more : List (List String × ByteArray)} (hperm : writes.Perm more)
    {t : Tree} (h : ∀ e ∈ writes, t.FileSpot e.1)
    (hne : writes.Pairwise fun e e' => e.1.dropLast ≠ e'.1.dropLast) :
    plantAll writes t = plantAll more t := by
  induction hperm generalizing t with
  | nil => rfl
  | cons e hperm ih =>
      rw [plantAll_cons, plantAll_cons]
      exact ih (fileSpots_plant h) (List.pairwise_cons.mp hne).2
  | swap e e' writes =>
      have he := h e (List.mem_cons_of_mem _ List.mem_cons_self)
      have he' := h e' List.mem_cons_self
      have hdiffer := (List.pairwise_cons.mp hne).1 e List.mem_cons_self
      rw [plantAll_cons, plantAll_cons, plantAll_cons, plantAll_cons,
        he.plant_comm he' (Ne.symm hdiffer)]
  | trans hfirst hsecond ih ih' =>
      have hmid := fun e he => h e (hfirst.mem_iff.mpr he)
      exact (ih h hne).trans (ih' hmid (hfirst.pairwise hne fun hab => Ne.symm hab))

end Tree

end TemplateDocs
