import Mathlib.Data.List.Lex
import TemplateDocs.Proofs.Files.Walk

/-! # The order of a walk

A walk lists the files of a name in the order of the folders that hold them. Folders are compared part
by part, so a folder stands before what is below it, and `a/z` before `a-b`.
-/

namespace TemplateDocs

open List

namespace Node

/-- A folder of a tree holds a file of a name. -/
def HoldsFile (t : Node) (name : String) (place : List String) : Prop :=
  ∃ bytes, t.at? (place ++ [name]) = some (file bytes)

/-- The path of a file in a folder at a place below another path. -/
def sourceAt (path : Path) (name : String) (place : List String) : Path :=
  (path.below place).child name

@[simp] theorem parts_parent_sourceAt (path : Path) (name : String) (place : List String) :
    (sourceAt path name place).parent.parts = path.parts ++ place := by
  simp [sourceAt, Path.parent, Path.child, Path.below]

theorem sourceAt_inj {path : Path} {name : String} {place other : List String}
    (h : sourceAt path name place = sourceAt path name other) : place = other := by
  have hparts := congrArg (fun source => source.parent.parts) h
  simpa using hparts

/-- The path of the folder that a file was found in comes before that of another. -/
def FoundBefore (source other : Path) : Prop :=
  List.Lex Text.Before source.parent.parts other.parent.parts

theorem foundBefore_sourceAt {path : Path} {name : String} {place other : List String}
    (h : List.Lex Text.Before place other) :
    FoundBefore (sourceAt path name place) (sourceAt path name other) := by
  unfold FoundBefore
  rw [parts_parent_sourceAt, parts_parent_sourceAt]
  exact List.Lex.append_left Text.Before h path.parts

section Folder

variable {entries : List (String × Node)}

/-- The folders in a folder are taken one before the other. -/
theorem Proper.folderNames_before (h : (folder entries).Proper) :
    (folderNames entries).Pairwise Text.Before := by
  have hsorted : (folderNames entries).Pairwise fun a b => Text.inOrder a b = true :=
    sortByName_sorted id _
  exact hsorted.imp₂ (fun a b hab hne => Text.before_of_inOrder hab hne) h.folderNames_nodup

/-- What is found in and below a folder inside of another has that folder's name first. -/
theorem Proper.exists_sourceAt_cons (h : (folder entries).Proper) {name inner : String} {path : Path}
    (hinner : inner ∈ folderNames entries) {source : Path}
    (hsource : source ∈
      filesNamed name (path.child inner) ((entryOf? inner entries).getD empty)) :
    ∃ place, source = sourceAt path name (inner :: place) := by
  obtain ⟨more, hmore⟩ := h.mem_folderNames.mp hinner
  rw [hmore, Option.getD_some, (h.child hmore).mem_filesNamed] at hsource
  obtain ⟨place, bytes, rfl, -⟩ := hsource
  exact ⟨place, by simp [sourceAt, Path.below, Path.child]⟩

end Folder

/-- A walk finds one file before the other. The induction is over the folders: the file in a folder
comes before all below it, and what is below one folder inside before what is below the next. -/
theorem Proper.filesNamed_ordered {t : Node} (h : t.Proper) (name : String) (path : Path) :
    (filesNamed name path t).Pairwise FoundBefore := by
  refine Proper.induction (P := fun t => ∀ path, (filesNamed name path t).Pairwise FoundBefore)
    ?_ ?_ h path
  · intro bytes path
    simp [filesNamed]
  · intro entries h ih path
    rw [filesNamed_folder h, List.pairwise_append]
    refine ⟨by split <;> simp, List.pairwise_flatMap.mpr ⟨?_, ?_⟩, ?_⟩
    · intro inner hinner
      obtain ⟨more, hmore⟩ := h.mem_folderNames.mp hinner
      rw [hmore, Option.getD_some]
      exact ih inner (folder more) hmore (path.child inner)
    · refine h.folderNames_before.imp_of_mem fun {inner next} hinner hnext hbefore => ?_
      intro source hsource other hother
      obtain ⟨place, rfl⟩ := h.exists_sourceAt_cons hinner hsource
      obtain ⟨place', rfl⟩ := h.exists_sourceAt_cons hnext hother
      exact foundBefore_sourceAt (.rel hbefore)
    · intro source hhere other hother
      obtain ⟨inner, hinner, hother⟩ := List.mem_flatMap.mp hother
      obtain ⟨place, rfl⟩ := h.exists_sourceAt_cons hinner hother
      have hsource : source = sourceAt path name [] := by
        split at hhere
        · simpa [sourceAt, Path.below] using hhere
        · cases hhere
      rw [hsource]
      exact foundBefore_sourceAt .nil

theorem Proper.mem_filesNamed_iff {t : Node} (h : t.Proper) {name : String} {path source : Path} :
    source ∈ filesNamed name path t ↔
      ∃ place, t.HoldsFile name place ∧ source = sourceAt path name place := by
  have hpath : ∀ place, path.below (place ++ [name]) = sourceAt path name place := by
    intro place
    simp [sourceAt, Path.below, Path.child]
  rw [h.mem_filesNamed]
  constructor
  · rintro ⟨place, bytes, rfl, hat⟩
    exact ⟨place, ⟨bytes, hat⟩, hpath place⟩
  · rintro ⟨place, ⟨bytes, hat⟩, rfl⟩
    exact ⟨place, bytes, (hpath place).symm, hat⟩

/-- Folders in which names with a hyphen, deeper folders and a folder with the name of the file stand
side by side. -/
def mixedFolders : List (String × Node) :=
  [("main.bicep", folder [("main.bicep", file .empty)]), ("a-b", folder [("main.bicep", file .empty)]),
   ("a", folder [("z", folder [("main.bicep", file .empty)]), ("main.bicep", file .empty)])]

theorem mixedFolders_proper : (folder mixedFolders).Proper := by
  have hleaf : (folder [("main.bicep", file .empty)]).Proper := by
    refine proper_folder ?_ (by simp) ?_ <;> simp only [List.mem_singleton, forall_eq]
    · decide +kernel
    · exact proper_file _
  have hdeep : (folder [("z", folder [("main.bicep", file .empty)]),
      ("main.bicep", file .empty)]).Proper := by
    refine proper_folder ?_ (by decide) ?_ <;>
      simp only [List.mem_cons, List.not_mem_nil, or_false, forall_eq_or_imp, forall_eq]
    · decide +kernel
    · exact ⟨hleaf, proper_file _⟩
  refine proper_folder ?_ (by decide) ?_ <;>
    simp only [mixedFolders, List.mem_cons, List.not_mem_nil, or_false, forall_eq_or_imp, forall_eq]
  · decide +kernel
  · exact ⟨hleaf, hleaf, hdeep⟩

end Node

namespace Tree

open Node (filesNamed sourceAt FoundBefore mixedFolders)

/-- The walk of a folder lists the files of a name, of whatever depth, each once and in the order of
the folders that hold them. A folder of that name is not listed, but what is in and below it is. -/
theorem walk_lists_in_order {t : Tree} {top : String} {entries : List (String × Node)}
    (hfind : t.find top = .ok (.folder entries)) (h : (Node.folder entries).Proper) (name : String) :
    ∃ sources, t.walk top name = .ok sources ∧
      (∀ source, source ∈ sources ↔ ∃ place, (Node.folder entries).HoldsFile name place ∧
        source = sourceAt (Path.ofString top) name place) ∧
      sources.Nodup ∧ sources.Pairwise FoundBefore ∧
      ∀ place more, (Node.folder entries).at? (place ++ [name]) = some (.folder more) →
        sourceAt (Path.ofString top) name place ∉ sources ∧
        ∀ below, (Node.folder more).HoldsFile name below →
          sourceAt (Path.ofString top) name (place ++ name :: below) ∈ sources := by
  have hmem : ∀ source, source ∈ filesNamed name (Path.ofString top) (Node.folder entries) ↔ _ :=
    fun source => h.mem_filesNamed_iff
  refine ⟨_, by simp only [walk, hfind], hmem, h.filesNamed_nodup name _, h.filesNamed_ordered name _, ?_⟩
  intro place more hmore
  refine ⟨fun hlisted => ?_, fun below hbelow => ?_⟩
  · obtain ⟨other, ⟨bytes, hfile⟩, hsame⟩ := (hmem _).mp hlisted
    rw [← Node.sourceAt_inj hsame, hmore] at hfile
    cases hfile
  · obtain ⟨bytes, hfile⟩ := hbelow
    refine (hmem _).mpr ⟨_, ⟨bytes, ?_⟩, rfl⟩
    have hdown : place ++ name :: below ++ [name] = (place ++ [name]) ++ (below ++ [name]) := by simp
    rw [hdown, Node.at?_append, hmore, Option.bind_some, hfile]

/-- The file in `a/z` comes before the one in `a-b`, and the folder with the name of the file is walked
but not listed. -/
theorem walk_lists_in_order_mixed :
    ∃ sources, (Tree.folder mixedFolders).walk "." "main.bicep" = .ok sources ∧
      ⟨"", ["a", "z", "main.bicep"]⟩ ∈ sources ∧ ⟨"", ["a-b", "main.bicep"]⟩ ∈ sources ∧
      ⟨"", ["main.bicep", "main.bicep"]⟩ ∈ sources ∧ ⟨"", ["main.bicep"]⟩ ∉ sources ∧
      sources.Nodup ∧ sources.Pairwise FoundBefore ∧
      ¬ FoundBefore ⟨"", ["a-b", "main.bicep"]⟩ ⟨"", ["a", "z", "main.bicep"]⟩ := by
  have hlocate : (Tree.folder mixedFolders).locate "." = .ok [] := by decide +kernel
  have hfind : (Tree.folder mixedFolders).find "." = .ok (Node.folder mixedFolders) := by
    simp only [find, hlocate]
    rfl
  obtain ⟨sources, hwalk, hmem, honce, hordered, hfolders⟩ :=
    walk_lists_in_order hfind Node.mixedFolders_proper "main.bicep"
  refine ⟨sources, hwalk, (hmem _).mpr ⟨["a", "z"], ⟨.empty, rfl⟩, rfl⟩,
    (hmem _).mpr ⟨["a-b"], ⟨.empty, rfl⟩, rfl⟩, (hfolders [] _ rfl).2 [] ⟨.empty, rfl⟩,
    (hfolders [] _ rfl).1, honce, hordered, ?_⟩
  have hunits : Text.units "a" = [97] ∧ Text.units "a-b" = [97, 45, 98] := by decide +kernel
  simp [FoundBefore, Path.parent, Text.Before, hunits, List.cons_lex_cons_iff]

end Tree

end TemplateDocs
