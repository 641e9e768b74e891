import Mathlib.Algebra.Ring.Nat
import TemplateDocs.Files.Walk
import TemplateDocs.Proofs.Files.Writes

/-! # What a walk finds

The walk of a proper tree finds every file of a name once. It can be taken folder by folder, also while
other files are being written.
-/

namespace TemplateDocs

open List

/-! ## Proper folders -/

namespace Node

/-- Files and folders as a system holds them: entries have names, and in no folder does a name stand
twice. -/
structure Proper (t : Node) : Prop where
  names : ∀ place entries, t.at? place = some (folder entries) → ∀ e ∈ entries, Path.IsName e.1
  once : ∀ place entries, t.at? place = some (folder entries) → (entries.map Prod.fst).Nodup

theorem Proper.at? {t node : Node} (h : t.Proper) {place : List String} (hat : t.at? place = some node) :
    node.Proper := by
  have hdown : ∀ more, t.at? (place ++ more) = node.at? more := by
    intro more
    rw [at?_append, hat, Option.bind_some]
  exact ⟨fun more entries hmore => h.names _ entries ((hdown more).trans hmore),
    fun more entries hmore => h.once _ entries ((hdown more).trans hmore)⟩

section Folder

variable {entries : List (String × Node)}

theorem at?_single (name : String) (entries : List (String × Node)) :
    (folder entries).at? [name] = entryOf? name entries := by
  rw [at?]
  cases entryOf? name entries <;> rfl

theorem at?_concat {t : Node} {place : List String} (h : t.at? place = some (folder entries))
    (name : String) : t.at? (place ++ [name]) = entryOf? name entries := by
  rw [at?_append, h, Option.bind_some, at?_single]

/-- What has a name stands in a folder. -/
theorem isFolderAt_of_concat {t node : Node} {place : List String} {name : String}
    (h : t.at? (place ++ [name]) = some node) : t.IsFolderAt place := by
  rw [at?_append] at h
  obtain ⟨around, haround, hnode⟩ := Option.bind_eq_some_iff.mp h
  cases around with
  | file bytes => cases hnode
  | folder entries => exact ⟨entries, haround⟩

theorem Proper.folderOnce (h : (folder entries).Proper) : (entries.map Prod.fst).Nodup :=
  h.once [] entries rfl

theorem Proper.child (h : (folder entries).Proper) {name : String} {child : Node}
    (hchild : entryOf? name entries = some child) : child.Proper :=
  h.at? ((at?_single name entries).trans hchild)

theorem proper_folder (hnames : ∀ e ∈ entries, Path.IsName e.1) (honce : (entries.map Prod.fst).Nodup)
    (hchildren : ∀ e ∈ entries, e.2.Proper) : (folder entries).Proper := by
  have hchild : ∀ {name child}, entryOf? name entries = some child → child.Proper := by
    intro name child h
    exact hchildren (name, child) ((entryOf?_eq_some_iff honce name child).mp h)
  refine ⟨fun place => ?_, fun place => ?_⟩ <;> intro inner hinner
  · cases place with
    | nil =>
        cases hinner
        exact hnames
    | cons name place =>
        rw [at?] at hinner
        obtain ⟨child, hname, hat⟩ := Option.bind_eq_some_iff.mp hinner
        exact (hchild hname).names place inner hat
  · cases place with
    | nil =>
        cases hinner
        exact honce
    | cons name place =>
        rw [at?] at hinner
        obtain ⟨child, hname, hat⟩ := Option.bind_eq_some_iff.mp hinner
        exact (hchild hname).once place inner hat

theorem proper_file (bytes : ByteArray) : (file bytes).Proper := by
  refine ⟨?_, ?_⟩ <;>
    · intro place entries h
      rw [at?_file] at h
      split at h <;> cases h

theorem Proper.mem_iff (h : (folder entries).Proper) {name : String} {child : Node} :
    entryOf? name entries = some child ↔ (name, child) ∈ entries :=
  entryOf?_eq_some_iff h.folderOnce name child

theorem sizeOf_lt_of_mem {e : String × Node} (h : e ∈ entries) :
    sizeOf e.2 < sizeOf (folder entries) := by
  have hpair := List.sizeOf_lt_of_mem h
  obtain ⟨name, child⟩ := e
  simp only [folder.sizeOf_spec, Prod.mk.sizeOf_spec] at hpair ⊢
  omega

end Folder

/-- Induction over the folders of a proper node. -/
theorem Proper.induction {P : Node → Prop} (hfile : ∀ bytes, P (file bytes))
    (hfolder : ∀ entries, (folder entries).Proper →
      (∀ name child, entryOf? name entries = some child → P child) → P (folder entries))
    {t : Node} (h : t.Proper) : P t := by
  induction hsize : sizeOf t using Nat.strong_induction_on generalizing t with
  | h size ih =>
      cases t with
      | file bytes => exact hfile bytes
      | folder entries =>
          refine hfolder entries h fun name child hchild => ?_
          have hlt := sizeOf_lt_of_mem (h.mem_iff.mp hchild)
          exact ih (sizeOf child) (hsize ▸ hlt) (h.child hchild) rfl

/-! ## Places below a folder -/

theorem Proper.isName {t node : Node} (h : t.Proper) {place : List String}
    (hat : t.at? place = some node) : ∀ part ∈ place, Path.IsName part := by
  induction place generalizing t with
  | nil => simp
  | cons first place ih =>
      cases t with
      | file bytes => cases hat
      | folder entries =>
          rw [Node.at?] at hat
          obtain ⟨child, hchild, hat⟩ := Option.bind_eq_some_iff.mp hat
          intro part hpart
          rcases List.mem_cons.mp hpart with rfl | hpart
          · exact h.names [] entries rfl _ (h.mem_iff.mp hchild)
          · exact ih (h.child hchild) hat part hpart

/-! ## One folder of a walk -/

section Folder

variable {entries : List (String × Node)}

theorem filesNamedIn_eq (name : String) (path : Path) (entries : List (String × Node)) :
    filesNamedIn name path entries =
      entries.map fun e => (e.1, filesNamed name (path.child e.1) e.2) := by
  induction entries with
  | nil => simp [filesNamedIn]
  | cons e entries ih =>
      obtain ⟨folderName, child⟩ := e
      simp [filesNamedIn, ih]

theorem sortByName_filter {α : Type} (name : α → String) (p : α → Bool) {items : List α}
    (h : (items.map name).Nodup) :
    (sortByName name items).filter p = sortByName name (items.filter p) := by
  have hperm : (sortByName name items).filter p ~ items.filter p :=
    (sortByName_perm name items).filter p
  have hnodup : (((sortByName name items).filter p).map name).Nodup := by
    have hsorted := ((sortByName_perm name items).map name).nodup_iff.mpr h
    exact hsorted.sublist (List.filter_sublist.map name)
  rw [← sortByName_eq_of_perm name hperm hnodup]
  exact (List.mergeSort_of_pairwise ((sortByName_sorted name items).filter p)).symm

/-- Nothing is found below a file. -/
theorem flatMap_filesNamed (name : String) (path : Path) {items : List (String × Node)}
    (h : ∀ e ∈ items, entryOf? e.1 entries = some e.2) :
    items.flatMap (fun e => filesNamed name (path.child e.1) e.2) =
      ((items.filter fun e => !e.2.isFile).map Prod.fst).flatMap fun inner =>
        filesNamed name (path.child inner) ((entryOf? inner entries).getD empty) := by
  induction items with
  | nil => rfl
  | cons e items ih =>
      obtain ⟨inner, child⟩ := e
      have hchild := h (inner, child) List.mem_cons_self
      rw [List.flatMap_cons, ih fun e he => h e (List.mem_cons_of_mem _ he)]
      cases child with
      | file bytes => simp [filesNamed, isFile]
      | folder more => simp [isFile, hchild]

/-- The walk of a folder: the file in it, and the walks of the folders in it in the order of their
names. -/
theorem filesNamed_folder (h : (folder entries).Proper) (name : String) (path : Path) :
    filesNamed name path (folder entries) =
      (if (entryOf? name entries).any isFile then [path.child name] else []) ++
        (folderNames entries).flatMap fun inner =>
          filesNamed name (path.child inner) ((entryOf? inner entries).getD empty) := by
  have honce := h.folderOnce
  have hnames : folderNames entries =
      ((sortByName Prod.fst entries).filter fun e => !e.2.isFile).map Prod.fst := by
    rw [sortByName_filter Prod.fst _ honce, folderNames, map_sortByName Prod.fst id Prod.fst fun _ => rfl]
  have hsorted : sortByName Prod.fst (filesNamedIn name path entries) =
      (sortByName Prod.fst entries).map fun e => (e.1, filesNamed name (path.child e.1) e.2) := by
    rw [filesNamedIn_eq, map_sortByName Prod.fst Prod.fst]
    exact fun _ => rfl
  have hmem : ∀ e ∈ sortByName Prod.fst entries, entryOf? e.1 entries = some e.2 := fun e he =>
    h.mem_iff.mpr ((sortByName_perm Prod.fst entries).mem_iff.mp he)
  rw [filesNamed, hsorted, hnames]
  congr 1
  rw [List.flatMap_map]
  exact flatMap_filesNamed name path hmem

theorem folderNames_perm (entries : List (String × Node)) :
    folderNames entries ~ (entries.filter fun e => !e.2.isFile).map Prod.fst :=
  sortByName_perm id _

theorem Proper.mem_folderNames (h : (folder entries).Proper) {inner : String} :
    inner ∈ folderNames entries ↔ ∃ more, entryOf? inner entries = some (folder more) := by
  rw [(folderNames_perm entries).mem_iff, List.mem_map]
  constructor
  · rintro ⟨⟨key, child⟩, he, rfl⟩
    obtain ⟨hmem, hfolder⟩ := List.mem_filter.mp he
    cases child with
    | file bytes => simp [isFile] at hfolder
    | folder more => exact ⟨more, h.mem_iff.mpr hmem⟩
  · rintro ⟨more, hmore⟩
    exact ⟨(inner, folder more), List.mem_filter.mpr ⟨h.mem_iff.mp hmore, rfl⟩, rfl⟩

theorem Proper.folderNames_nodup (h : (folder entries).Proper) : (folderNames entries).Nodup := by
  rw [(folderNames_perm entries).nodup_iff]
  exact h.folderOnce.sublist (List.filter_sublist.map Prod.fst)

end Folder

/-! ## All that is found -/

theorem any_isFile_iff {node : Option Node} :
    node.any isFile = true ↔ ∃ bytes, node = some (file bytes) := by
  cases node with
  | none => simp
  | some node => cases node <;> simp [isFile]

/-- A walk finds exactly the files of the name. -/
theorem Proper.mem_filesNamed {t : Node} (h : t.Proper) {name : String} {path source : Path} :
    source ∈ filesNamed name path t ↔
      ∃ place bytes, source = path.below (place ++ [name]) ∧
        t.at? (place ++ [name]) = some (file bytes) := by
  refine Proper.induction (P := fun t => ∀ path, source ∈ filesNamed name path t ↔
    ∃ place bytes, source = path.below (place ++ [name]) ∧
      t.at? (place ++ [name]) = some (file bytes)) ?_ ?_ h path
  · intro bytes path
    simp [filesNamed, at?_file]
  · intro entries h ih path
    rw [filesNamed_folder h, List.mem_append, List.mem_flatMap]
    constructor
    · rintro (hhere | ⟨inner, hinner, hsource⟩)
      · split at hhere
        · rename_i hfile
          obtain ⟨bytes, hbytes⟩ := any_isFile_iff.mp hfile
          refine ⟨[], bytes, List.mem_singleton.mp hhere, ?_⟩
          rw [List.nil_append, at?_single, hbytes]
        · cases hhere
      · obtain ⟨more, hmore⟩ := h.mem_folderNames.mp hinner
        rw [hmore, Option.getD_some, ih inner _ hmore] at hsource
        obtain ⟨place, bytes, rfl, hat⟩ := hsource
        refine ⟨inner :: place, bytes, by simp [Path.below, Path.child], ?_⟩
        rw [List.cons_append, Node.at?, hmore, Option.bind_some, hat]
    · rintro ⟨place, bytes, rfl, hat⟩
      cases place with
      | nil =>
          rw [List.nil_append, at?_single] at hat
          exact .inl (by simp [hat, isFile, Path.below, Path.child])
      | cons inner place =>
          rw [List.cons_append, Node.at?] at hat
          obtain ⟨child, hchild, hat⟩ := Option.bind_eq_some_iff.mp hat
          cases child with
          | file bytes' => simp [at?_file] at hat
          | folder more =>
              refine .inr ⟨inner, h.mem_folderNames.mpr ⟨more, hchild⟩, ?_⟩
              rw [hchild, Option.getD_some, ih inner _ hchild]
              exact ⟨place, bytes, by simp [Path.below, Path.child], hat⟩

/-- No file is found twice. -/
theorem Proper.filesNamed_nodup {t : Node} (h : t.Proper) (name : String) (path : Path) :
    (filesNamed name path t).Nodup := by
  refine Proper.induction (P := fun t => ∀ path, (filesNamed name path t).Nodup) ?_ ?_ h path
  · intro bytes path
    simp [filesNamed]
  · intro entries h ih path
    have hparts : ∀ inner ∈ folderNames entries, ∀ source ∈
        filesNamed name (path.child inner) ((entryOf? inner entries).getD empty),
        ∃ place, source = path.below (inner :: place ++ [name]) := by
      intro inner hinner source hsource
      obtain ⟨more, hmore⟩ := h.mem_folderNames.mp hinner
      rw [hmore, Option.getD_some, (h.child hmore).mem_filesNamed] at hsource
      obtain ⟨place, bytes, rfl, -⟩ := hsource
      exact ⟨place, by simp [Path.below, Path.child]⟩
    rw [filesNamed_folder h, List.nodup_append']
    refine ⟨by split <;> simp, ?_, ?_⟩
    · rw [List.nodup_flatMap]
      refine ⟨fun inner hinner => ?_, ?_⟩
      · obtain ⟨more, hmore⟩ := h.mem_folderNames.mp hinner
        rw [hmore]
        exact ih inner _ hmore _
      · refine h.folderNames_nodup.imp_of_mem fun {inner other} hinner hother hne => ?_
        intro source hsource hsource'
        obtain ⟨place, rfl⟩ := hparts inner hinner source hsource
        obtain ⟨place', hsame⟩ := hparts other hother _ hsource'
        simp [Path.below] at hsame
        exact hne hsame.1
    · intro source hhere hsource
      obtain ⟨inner, hinner, hsource⟩ := List.mem_flatMap.mp hsource
      obtain ⟨place, rfl⟩ := hparts inner hinner source hsource
      split at hhere
      · have hsame := List.mem_singleton.mp hhere
        simp [Path.below, Path.child] at hsame
      · cases hhere

/-! ## Folders while files are written -/

section Visits

variable {entries : List (String × Node)}

/-- An entry that stays a folder, or stays none, leaves the folders as they are. -/
theorem folderNames_setEntry {name : String} {child : Node}
    (h : (entryOf? name entries).all isFile = child.isFile) :
    folderNames (setEntry name child entries) = folderNames entries := by
  unfold folderNames
  congr 1
  induction entries with
  | nil =>
      have hfile : child.isFile = true := by simpa [entryOf?] using h.symm
      simp [setEntry, hfile]
  | cons e entries ih =>
      obtain ⟨key, value⟩ := e
      by_cases hkey : key = name
      · subst hkey
        have hvalue : value.isFile = child.isFile := by simpa [entryOf?] using h
        simp [setEntry, List.filter_cons, hvalue]
        split <;> simp
      · have hne : (name == key) = false := beq_false_of_ne (Ne.symm hkey)
        have hrest : (entryOf? name entries).all isFile = child.isFile := by
          simpa [entryOf?, List.lookup_cons, hne] using h
        simp only [setEntry, beq_iff_eq, hkey, if_false, List.filter_cons]
        split <;> simp [ih hrest]

theorem all_isFile_of_not_folder {name : String} (h : ¬ (folder entries).IsFolderAt [name]) :
    (entryOf? name entries).all isFile = true := by
  cases hentry : entryOf? name entries with
  | none => rfl
  | some node =>
      cases node with
      | file bytes => rfl
      | folder more => exact absurd ⟨more, (at?_single name entries).trans hentry⟩ h

theorem isFile_of_isFolderAt {t : Node} {place : List String} (h : t.IsFolderAt place) :
    t.isFile = false := by
  obtain ⟨more, hmore⟩ : t.IsFolderAt [] := IsFolderAt.of_append (p := []) h
  cases hmore
  rfl

/-- A file that is written leaves the folders of every folder as they are. -/
theorem folderNames_plant {t : Node} {parent : List String} (h : t.IsFolderAt parent) {name : String}
    (hname : ¬ t.IsFolderAt (parent ++ [name])) (bytes : ByteArray) {place : List String}
    (hplace : t.at? place = some (folder entries)) :
    ∃ entries', (plant (file bytes) (parent ++ [name]) t).at? place = some (folder entries') ∧
      folderNames entries' = folderNames entries := by
  induction parent generalizing t place entries with
  | nil =>
      obtain ⟨top, htop⟩ := h
      cases htop
      cases place with
      | nil =>
          cases hplace
          exact ⟨_, rfl, folderNames_setEntry (all_isFile_of_not_folder hname)⟩
      | cons first place =>
          refine ⟨entries, ?_, rfl⟩
          have hne : first ≠ name := by
            rintro rfl
            exact hname (IsFolderAt.of_append (p := [first]) ⟨entries, hplace⟩)
          rw [← hplace]
          simp [plant, at?, entryOf?_setEntry_of_ne hne]
  | cons first parent ih =>
      obtain ⟨top, htop⟩ : t.IsFolderAt [] := IsFolderAt.of_append (p := []) h
      cases htop
      obtain ⟨child, hchild, hparent⟩ := entryOf?_of_isFolderAt h
      have hnot : ¬ child.IsFolderAt (parent ++ [name]) := by
        rintro ⟨more, hmore⟩
        exact hname ⟨more, by simpa [at?, hchild] using hmore⟩
      rw [List.cons_append, plant_cons hchild]
      cases place with
      | nil =>
          cases hplace
          refine ⟨_, rfl, folderNames_setEntry ?_⟩
          obtain ⟨more, hmore⟩ : child.IsFolderAt [] := IsFolderAt.of_append (p := []) hparent
          obtain ⟨after, hafter, -⟩ := ih hparent hnot hmore
          have hfolder : (plant (file bytes) (parent ++ [name]) child).IsFolderAt [] := ⟨after, hafter⟩
          rw [hchild, Option.all_some, isFile_of_isFolderAt hparent, isFile_of_isFolderAt hfolder]
      | cons second place =>
          by_cases hsame : second = first
          · subst hsame
            have hdown : child.at? place = some (folder entries) := by
              simpa [at?, hchild] using hplace
            obtain ⟨entries', hat, hnames⟩ := ih hparent hnot hdown
            exact ⟨entries', by simpa [at?, entryOf?_setEntry_self] using hat, hnames⟩
          · refine ⟨entries, ?_, rfl⟩
            rw [← hplace]
            simp [at?, entryOf?_setEntry_of_ne hsame]

/-! ## How many folders there are to walk -/

mutual

/-- How many folders a walk visits. -/
def folderCount : Node → Nat
  | file _ => 0
  | folder entries => folderCountIn entries + 1

/-- How many folders a walk visits in and below the entries of a folder. -/
def folderCountIn : List (String × Node) → Nat
  | [] => 0
  | (_, child) :: entries => folderCount child + folderCountIn entries

end

theorem folderCountIn_eq (entries : List (String × Node)) :
    folderCountIn entries = ((entries.filter fun e => !e.2.isFile).map fun e => folderCount e.2).sum := by
  induction entries with
  | nil => rfl
  | cons e entries ih =>
      obtain ⟨key, child⟩ := e
      rw [folderCountIn, ih]
      cases child with
      | file bytes => simp [isFile, folderCount]
      | folder inner => simp [isFile]

/-- A walk visits a folder, and then the folders in it. -/
theorem Proper.folderCount_eq (h : (folder entries).Proper) :
    folderCount (folder entries) =
      ((folderNames entries).map fun inner => folderCount ((entryOf? inner entries).getD empty)).sum +
        1 := by
  have hperm := (folderNames_perm entries).map fun inner =>
    folderCount ((entryOf? inner entries).getD empty)
  have hsame : ((entries.filter fun e => !e.2.isFile).map Prod.fst).map
      (fun inner => folderCount ((entryOf? inner entries).getD empty)) =
      (entries.filter fun e => !e.2.isFile).map fun e => folderCount e.2 := by
    rw [List.map_map]
    refine List.map_congr_left fun e he => ?_
    simp [h.mem_iff.mpr (List.mem_of_mem_filter he)]
  rw [hperm.sum_nat, hsame, folderCount, folderCountIn_eq]

end Visits

end Node

namespace Tree

open Node (folderNames)

variable {entries : List (String × Node)}

theorem at?_concat {t : Tree} {place : List String} (h : t.at? place = some (.folder entries))
    (name : String) : t.at? (place ++ [name]) = entryOf? name entries :=
  Node.at?_concat h name

/-! ## Names of what is further down -/

/-- Names lead down from a place. -/
theorem follow_names {t : Tree} {place parts result : List String}
    (hparts : ∀ part ∈ parts, Path.IsName part) (h : follow t place parts = .ok result) :
    result = place ++ parts := by
  induction parts generalizing place with
  | nil =>
      cases h
      simp
  | cons part parts ih =>
      obtain ⟨-, next, hnext, hrest⟩ := follow_cons_eq_ok_iff.mp h
      have hpart := hparts part List.mem_cons_self
      have hdown : next = place ++ [part] := by
        unfold enter? at hnext
        rw [if_neg (by simpa using hpart.notHere), if_neg (by simpa using hpart.notAround)] at hnext
        split at hnext
        · cases hnext
        · exact (Option.some.inj hnext).symm
      rw [ih (fun p hp => hparts p (List.mem_cons_of_mem part hp)) hrest, hdown]
      simp

theorem follow_parts {t : Tree} {p : Path} {place : List String} (hp : p.Proper)
    (h : t.locate p.text = .ok place) : follow t (t.start p.text) p.parts = .ok place := by
  obtain ⟨-, hfollow⟩ := locate_eq_ok_iff.mp h
  by_cases hparts : p.parts = []
  · have hsteps : steps p.text = ["."] := Path.steps_text_of_root hp hparts
    rw [hsteps] at hfollow
    obtain ⟨-, next, hnext, hrest⟩ := follow_cons_eq_ok_iff.mp hfollow
    cases hnext
    rw [hparts]
    exact hrest
  · rwa [Path.steps_text hp hparts] at hfollow

/-- A path that leads to a file, or to where one could be, has the name of that file. -/
theorem name_of_filePlace {t : Tree} {p : Path} {place : List String} {name : String} (hp : p.Proper)
    (h : t.filePlace p.text = .ok place) (hlast : place.getLast? = some name) : p.name = name := by
  obtain ⟨hlocate, hfile⟩ := filePlace_eq_ok_iff.mp h
  rcases List.eq_nil_or_concat' p.parts with hparts | ⟨front, last, hparts⟩
  · -- a path without parts is looked up as a folder
    obtain ⟨-, hfollow⟩ := locate_eq_ok_iff.mp hlocate
    rw [Path.steps_text_of_root hp hparts] at hfollow
    obtain ⟨hfolder, next, hnext, hrest⟩ := follow_cons_eq_ok_iff.mp hfollow
    cases hnext
    cases hrest
    exact absurd hfolder hfile
  · have hfollow := follow_parts hp hlocate
    rw [hparts] at hfollow
    obtain ⟨mid, -, hmid, henter⟩ := follow_concat_eq_ok hfollow
    rcases enter?_cases henter with rfl | rfl | rfl
    · exact absurd hmid hfile
    · exact absurd hmid.dropLast hfile
    · simpa [Path.name, hparts] using hlast

/-- A path further down leads to the place further down. -/
theorem locate_below {t : Tree} {p : Path} {above place names : List String} (hp : p.Clean)
    (hnames : ∀ part ∈ names, Path.IsName part) (habove : t.locate p.text = .ok above)
    (h : t.locate (p.below names).text = .ok place) : place = above ++ names := by
  have hbelow := (hp.below_names hnames).toProper
  have hstart : t.start (p.below names).text = t.start p.text := by
    rw [Path.start_text hbelow, Path.start_text hp.toProper]
    rfl
  have hparts : (p.below names).parts = p.parts ++ names := rfl
  have hfollow := follow_parts hbelow h
  rw [hparts, hstart, follow_append (follow_parts hp.toProper habove)] at hfollow
  exact follow_names hnames hfollow

/-! ## Visits while files are written -/

theorem FileSpot.folderNames_plant {t : Tree} {spot place : List String} (h : t.FileSpot spot)
    (bytes : ByteArray) (hplace : t.at? place = some (.folder entries)) :
    ∃ entries', (plant (.file bytes) spot t).at? place = some (.folder entries') ∧
      folderNames entries' = folderNames entries := by
  obtain ⟨parent, name, rfl, hparent⟩ := h.exists_eq
  exact Node.folderNames_plant hparent h.notFolder bytes hplace

theorem folderNames_plantAll {t : Tree} {writes : List (List String × ByteArray)}
    (h : ∀ e ∈ writes, t.FileSpot e.1) {place : List String}
    (hplace : t.at? place = some (.folder entries)) :
    ∃ entries', (plantAll writes t).at? place = some (.folder entries') ∧
      folderNames entries' = folderNames entries := by
  induction writes generalizing t entries with
  | nil => exact ⟨entries, hplace, rfl⟩
  | cons e writes ih =>
      obtain ⟨mid, hmid, hnames⟩ := (h e List.mem_cons_self).folderNames_plant e.2 hplace
      obtain ⟨last, hlast, hnames'⟩ := ih (fileSpots_plant h) hmid
      exact ⟨last, hlast, hnames'.trans hnames⟩

theorem visit_of_folder {t : Tree} {top name : String} {above place : List String}
    (htop : t.locate top = .ok above) (hplace : t.at? (above ++ place) = some (.folder entries)) :
    t.visit top name place = .ok ((entryOf? name entries).any Node.isFile, folderNames entries) := by
  rw [at?_append] at hplace
  obtain ⟨node, hnode, hat⟩ := Option.bind_eq_some_iff.mp hplace
  simp only [visit, find, htop, hnode, hat]

/-- Files of other names do not change what a visit finds. -/
theorem visit_plantAll {t : Tree} {writes : List (List String × ByteArray)} {top name : String}
    {above place : List String} (hwrites : ∀ e ∈ writes, t.FileSpot e.1)
    (hname : ∀ e ∈ writes, e.1.getLast? ≠ some name) (htop : t.locate top = .ok above)
    (hplace : t.at? (above ++ place) = some (.folder entries)) :
    (plantAll writes t).visit top name place =
      .ok ((entryOf? name entries).any Node.isFile, folderNames entries) := by
  have hfolders := sameFolders_plantAll hwrites
  obtain ⟨after, hafter, hnames⟩ := folderNames_plantAll hwrites hplace
  rw [visit_of_folder (hfolders.symm.locate htop) hafter, hnames]
  have hhere : (entryOf? name after).any Node.isFile = (entryOf? name entries).any Node.isFile := by
    have hentry : entryOf? name after = (plantAll writes t).at? (above ++ place ++ [name]) :=
      (at?_concat hafter name).symm
    have hentry' : entryOf? name entries = t.at? (above ++ place ++ [name]) :=
      (at?_concat hplace name).symm
    rw [hentry, hentry']
    by_cases hfolder : t.IsFolderAt (above ++ place ++ [name])
    · obtain ⟨more, hmore⟩ := hfolder
      obtain ⟨more', hmore'⟩ := (hfolders.folders _).mpr ⟨more, hmore⟩
      rw [hmore, hmore']
      rfl
    · rw [at?_plantAll hwrites hfolder]
      rintro e he hsame
      exact hname e he (by rw [← hsame]; simp)
  rw [hhere]

end Tree

end TemplateDocs
