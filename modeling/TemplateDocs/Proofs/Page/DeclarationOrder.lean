import Mathlib.Data.List.Perm.Basic
import TemplateDocs.Page.Document
import TemplateDocs.Proofs.Entries
import TemplateDocs.Proofs.Source.Concatenation
import TemplateDocs.Template.Parse

/-! # The order of declarations in a source

A source may list its declarations in any order, as long as each keeps its decorators and no name is
declared twice: the template and its page stay the same.
-/

namespace TemplateDocs

open List

/-! ## Descriptions by name -/

theorem describedAs?_eq_entryOf? (name : String) (found : List Variable) :
    describedAs? name found =
      entryOf? name (found.reverse.map fun v => (v.name, v.description)) := by
  unfold describedAs? entryOf?
  induction found.reverse with
  | nil => rfl
  | cons v rest ih =>
      by_cases h : v.name = name
      · simp [h]
      · have hb : (name == v.name) = false := beq_eq_false_iff_ne.mpr (Ne.symm h)
        simpa [h, List.lookup_cons, hb] using ih

/-- Where no name is found twice, the order in which variables are found does not matter to their
descriptions. -/
theorem describedAs?_eq_of_perm {found found' : List Variable} (h : found ~ found')
    (hn : (found.map Variable.name).Nodup) (name : String) :
    describedAs? name found = describedAs? name found' := by
  have hrev : found.reverse ~ found'.reverse :=
    ((List.reverse_perm found).trans h).trans (List.reverse_perm found').symm
  rw [describedAs?_eq_entryOf?, describedAs?_eq_entryOf?]
  refine entryOf?_eq_of_perm (hrev.map _) ?_ name
  rw [List.map_map]
  exact ((List.reverse_perm found).map Variable.name).nodup_iff.mpr hn

/-! ## Templates -/

/-- No two modules, no two resources and no two variables have the same name. -/
structure Findings.DistinctNames (found : Findings) : Prop where
  modules : (found.modules.map Module.name).Nodup
  resources : (found.resources.map Resource.name).Nodup
  vars : (found.vars.map Variable.name).Nodup

/-- The same declarations in some order. -/
structure Findings.Permuted (found found' : Findings) : Prop where
  modules : found.modules ~ found'.modules
  resources : found.resources ~ found'.resources
  vars : found.vars ~ found'.vars

theorem merge_sorted_eq {found found' : Findings} (h : found.Permuted found')
    (hn : found.DistinctNames) (t : Template) : t.merge found.sorted = t.merge found'.sorted := by
  have hmodules : found.sorted.modules = found'.sorted.modules :=
    sortByName_eq_of_perm Module.name h.modules hn.modules
  have hresources : found.sorted.resources = found'.sorted.resources :=
    sortByName_eq_of_perm Resource.name h.resources hn.resources
  have hdescribe : describe found.vars = describe found'.vars := by
    funext v
    unfold describe
    rw [describedAs?_eq_of_perm h.vars hn.vars]
  have hvars : sortByName Variable.name
        (if t.vars.isEmpty then found.vars else t.vars.map (describe found.vars)) =
      sortByName Variable.name
        (if t.vars.isEmpty then found'.vars else t.vars.map (describe found'.vars)) := by
    split
    · exact sortByName_eq_of_perm Variable.name h.vars hn.vars
    · rw [hdescribe]
  have hsame (f : Findings) : f.sorted.vars = f.vars := rfl
  simp only [Template.merge, Template.sort, hmodules, hresources, hsame, hvars]

namespace Source

theorem declared_permuted {blocks blocks' : List (List String)} (h : blocks ~ blocks') (c : Bool) :
    (declared c blocks).Permuted (declared c blocks') where
  modules := (h.map _).flatMap_right _
  resources := (h.map _).flatMap_right _
  vars := (h.map _).flatMap_right _

/-- Blocks of lines that can be scanned on their own and declare no name twice may stand in any order:
each order can be scanned, and merged with any compiled document it gives the same template, or the
same failure, and the same page. -/
theorem page_eq_of_perm_blocks {c : Bool} {blocks blocks' : List (List String)}
    (hperm : blocks ~ blocks') (hblocks : ∀ b ∈ blocks, SelfContained c b)
    (hnames : (declared c blocks).DistinctNames) :
    ∃ found found', scanLines c blocks.flatten = .ok found ∧
      scanLines c blocks'.flatten = .ok found' ∧
      (∀ t : Template, t.merge found = t.merge found') ∧
      ∀ name doc, Template.ofDocument name found doc = Template.ofDocument name found' doc ∧
        ∀ requests withExtras,
          ((Template.ofDocument name found doc).result >>= fun t =>
            Page.documentOf (some t) requests withExtras) =
          ((Template.ofDocument name found' doc).result >>= fun t =>
            Page.documentOf (some t) requests withExtras) := by
  have hblocks' : ∀ b ∈ blocks', SelfContained c b := fun b hb => hblocks b (hperm.mem_iff.mpr hb)
  have hscan {bs : List (List String)} (hbs : ∀ b ∈ bs, SelfContained c b) :
      scanLines c bs.flatten = .ok (declared c bs).sorted := by
    rw [scanLines_eq_ok_iff, found_flatten hbs]
    exact ⟨(selfContained_iff.mp (SelfContained.flatten hbs)).1, rfl⟩
  have hmerge := merge_sorted_eq (declared_permuted hperm c) hnames
  have hdocument (name : String) (doc : Json) :
      Template.ofDocument name (declared c blocks).sorted doc =
        Template.ofDocument name (declared c blocks').sorted doc := by
    simp only [Template.ofDocument, hmerge]
  refine ⟨_, _, hscan hblocks, hscan hblocks', hmerge, fun name doc => ⟨hdocument name doc, ?_⟩⟩
  intro requests withExtras
  rw [hdocument]

/-- A described module and a variable, in either order. -/
theorem page_eq_of_swapped_blocks :
    ∃ found found',
      scanLines true
        [["@description('Second')", "module b './b.bicep' = \x7b"], ["var a = 1"]].flatten = .ok found ∧
      scanLines true
        [["var a = 1"], ["@description('Second')", "module b './b.bicep' = \x7b"]].flatten = .ok found' ∧
      Template.ofDocument "main.bicep" found (.object []) =
        Template.ofDocument "main.bicep" found' (.object []) := by
  obtain ⟨found, found', h, h', -, hdocument⟩ := page_eq_of_perm_blocks (c := true)
    (.swap ["var a = 1"] ["@description('Second')", "module b './b.bicep' = \x7b"] [])
    (by decide +kernel) ⟨by decide +kernel, by decide +kernel, by decide +kernel⟩
  exact ⟨found, found', h, h', (hdocument "main.bicep" (.object [])).1⟩

end Source

end TemplateDocs
