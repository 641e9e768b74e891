import TemplateDocs.Proofs.Template.Arrangement

/-! # What merging keeps

The compiled template decides which variables there are and the source describes them. Everything else
of the compiled template is only sorted, and what was merged once is merged for good.
-/

namespace TemplateDocs

open List

/-! ## Descriptions -/

/-- The last variable of a name has the description. -/
def LastDescribed (found : List Variable) (name description : String) : Prop :=
  ∃ before v after, found = before ++ v :: after ∧ v.name = name ∧ v.description = description ∧
    ∀ u ∈ after, u.name ≠ name

/-- The variable as the source describes it: under the same name and with the same value, with the
description of the last variable found under that name, or with its own if there is none. -/
structure Described (found : List Variable) (v described : Variable) : Prop where
  name : described.name = v.name
  value : described.value = v.value
  last : ∀ description, LastDescribed found v.name description → described.description = description
  own : (∀ u ∈ found, u.name ≠ v.name) → described.description = v.description

theorem describedAs?_eq_some_iff {name description : String} {found : List Variable} :
    describedAs? name found = some description ↔ LastDescribed found name description := by
  unfold describedAs? LastDescribed
  simp only [Option.map_eq_some_iff, List.find?_eq_some_iff_append, beq_iff_eq, Bool.not_eq_true',
    beq_eq_false_iff_ne]
  constructor
  · rintro ⟨v, ⟨hname, after, before, hfound, hafter⟩, hdescription⟩
    refine ⟨before.reverse, v, after.reverse, ?_, hname, hdescription, ?_⟩
    · rw [← List.reverse_reverse found, hfound]
      simp
    · exact fun u hu => hafter u (List.mem_reverse.mp hu)
  · rintro ⟨before, v, after, rfl, hname, hdescription, hafter⟩
    refine ⟨v, ⟨hname, after.reverse, before.reverse, by simp, ?_⟩, hdescription⟩
    exact fun u hu => hafter u (List.mem_reverse.mp hu)

theorem describedAs?_eq_none_iff {name : String} {found : List Variable} :
    describedAs? name found = none ↔ ∀ u ∈ found, u.name ≠ name := by
  simp [describedAs?]

theorem described_describe (found : List Variable) (v : Variable) :
    Described found v (describe found v) where
  name := rfl
  value := rfl
  last description h := by
    rw [describe, describedAs?_eq_some_iff.mpr h]
    rfl
  own h := by
    rw [describe, describedAs?_eq_none_iff.mpr h]
    rfl

theorem describe_describe (found : List Variable) (v : Variable) :
    describe found (describe found v) = describe found v := by
  simp only [describe]
  cases describedAs? v.name found <;> rfl

/-- Where no name is found twice, what was found is described as it is. -/
theorem describe_of_mem {found : List Variable} {v : Variable} (hv : v ∈ found)
    (hn : (found.map Variable.name).Nodup) : describe found v = v := by
  obtain ⟨before, after, rfl⟩ := List.append_of_mem hv
  have hlast : LastDescribed (before ++ v :: after) v.name v.description := by
    refine ⟨before, v, after, rfl, rfl, rfl, fun u hu hname => ?_⟩
    rw [List.map_append, List.map_cons, List.nodup_append] at hn
    exact (List.nodup_cons.mp hn.2.1).1 (hname ▸ List.mem_map_of_mem hu)
  rw [describe, describedAs?_eq_some_iff.mpr hlast]
  rfl

/-! ## Sorting again -/

theorem sortByName_sortByName {α : Type} (name : α → String) (items : List α) :
    sortByName name (sortByName name items) = sortByName name items :=
  List.mergeSort_of_pairwise (sortByName_sorted name items)

theorem sortProperties_sortProperties (d : DataType) :
    Template.sortProperties (Template.sortProperties d) = Template.sortProperties d := by
  simp only [Template.sortProperties, sortByName_sortByName]

theorem Template.sort_sort (t : Template) : t.sort.sort = t.sort := by
  have hdataTypes :
      (sortByName (fun d : DataType => d.name) t.sort.dataTypes).map Template.sortProperties =
        t.sort.dataTypes := by
    have hsort := map_sortByName (fun d : DataType => d.name) (fun d : DataType => d.name)
      Template.sortProperties (fun _ => rfl) t.dataTypes
    change (sortByName _ ((sortByName _ t.dataTypes).map _)).map _ = (sortByName _ t.dataTypes).map _
    rw [hsort, sortByName_sortByName, ← hsort, List.map_map]
    exact List.map_congr_left fun d _ => sortProperties_sortProperties d
  rw [Template.sort, hdataTypes]
  simp only [Template.sort, sortByName_sortByName]

/-! ## Templates -/

/-- The data type with its properties arranged by name, and all else as it was. -/
structure SameDataType (d arranged : DataType) : Prop where
  entity : arranged.toEntity = d.toEntity
  properties : Arranged (fun p : Entity => p.name) d.properties arranged.properties

/-- A compiled template merged with what was found in its source. -/
structure Template.Merged (t : Template) (found : Findings) (merged : Template) : Prop where
  fileName : merged.fileName = t.fileName
  metadata : merged.metadata = t.metadata
  modules : merged.modules = found.modules
  resources : merged.resources = found.resources
  parameters : Arranged (fun p : Parameter => p.name) t.parameters merged.parameters
  dataTypes : ∃ types, Forall₂ SameDataType t.dataTypes types ∧
    Arranged (fun d : DataType => d.name) types merged.dataTypes
  functions : Arranged UserFunction.name t.functions merged.functions
  outputs : Arranged (fun o : Entity => o.name) t.outputs merged.outputs
  /-- Each compiled variable stays, described by the source, and there are no others. -/
  compiledVars : t.vars ≠ [] → ∃ vars, Forall₂ (Described found.vars) t.vars vars ∧
    Arranged Variable.name vars merged.vars
  /-- Without compiled variables there are those of the source. -/
  foundVars : t.vars = [] → Arranged Variable.name found.vars merged.vars

theorem merged_merge (t : Template) (found : Findings) : t.Merged found (t.merge found) where
  fileName := rfl
  metadata := rfl
  modules := rfl
  resources := rfl
  parameters := arranged_sortByName _ t.parameters
  dataTypes := by
    refine ⟨t.dataTypes.map Template.sortProperties, ?_, ?_⟩
    · rw [List.forall₂_map_right_iff, List.forall₂_same]
      exact fun d _ => ⟨rfl, arranged_sortByName _ d.properties⟩
    · change Arranged _ _ ((sortByName _ t.dataTypes).map Template.sortProperties)
      rw [map_sortByName (fun d : DataType => d.name) (fun d : DataType => d.name)
        Template.sortProperties fun _ => rfl]
      exact arranged_sortByName _ _
  functions := arranged_sortByName _ t.functions
  outputs := arranged_sortByName _ t.outputs
  compiledVars h := by
    have hvars : (t.merge found).vars =
        sortByName Variable.name (t.vars.map (describe found.vars)) := by
      simp [Template.merge, Template.sort, h]
    refine ⟨t.vars.map (describe found.vars), ?_, hvars ▸ arranged_sortByName _ _⟩
    rw [List.forall₂_map_right_iff, List.forall₂_same]
    exact fun v _ => described_describe found.vars v
  foundVars h := by
    have hvars : (t.merge found).vars = sortByName Variable.name found.vars := by
      simp [Template.merge, Template.sort, h]
    exact hvars ▸ arranged_sortByName _ _

/-- The source has nothing to add to the variables of a merged template. -/
theorem describe_of_mem_merge {t : Template} {found : Findings} {v : Variable}
    (hn : (found.vars.map Variable.name).Nodup) (hv : v ∈ (t.merge found).vars) :
    describe found.vars v = v := by
  have hmem := (sortByName_perm Variable.name _).mem_iff.mp hv
  dsimp only at hmem
  split at hmem
  · exact describe_of_mem hmem hn
  · obtain ⟨u, -, rfl⟩ := List.mem_map.mp hmem
    exact describe_describe found.vars u

/-- Merging leaves no variable only where there is none to begin with. -/
theorem found_vars_of_merge_vars {t : Template} {found : Findings} (h : (t.merge found).vars = []) :
    found.vars = [] := by
  have hmerged := merged_merge t found
  by_cases hvars : t.vars = []
  · exact (h ▸ (hmerged.foundVars hvars).perm).nil_eq.symm
  · obtain ⟨vars, hdescribed, harranged⟩ := hmerged.compiledVars hvars
    have hnone : vars = [] := (h ▸ harranged.perm).nil_eq.symm
    rw [hnone, List.forall₂_nil_right_iff] at hdescribed
    exact absurd hdescribed hvars

theorem merge_merge {t : Template} {found : Findings}
    (hn : (found.vars.map Variable.name).Nodup) : (t.merge found).merge found = t.merge found := by
  have hvars : (if (t.merge found).vars.isEmpty then found.vars
      else (t.merge found).vars.map (describe found.vars)) = (t.merge found).vars := by
    by_cases hempty : (t.merge found).vars = []
    · rw [hempty, found_vars_of_merge_vars hempty]
      rfl
    · rw [if_neg (by simpa using hempty)]
      have hsame := List.map_congr_left fun v hv => describe_of_mem_merge (t := t) hn hv
      exact hsame.trans (List.map_id' _)
  calc (t.merge found).merge found
      = Template.sort { t.merge found with
          vars := if (t.merge found).vars.isEmpty then found.vars
            else (t.merge found).vars.map (describe found.vars) } := rfl
    _ = (t.merge found).sort := by rw [hvars]
    _ = t.merge found := Template.sort_sort _

/-- Merging keeps the compiled template but for the descriptions of its variables, takes modules and
resources from the source, and changes nothing the second time where no variable is found twice. -/
theorem merge_keeps_compiled (t : Template) (found : Findings) :
    t.Merged found (t.merge found) ∧
      ((found.vars.map Variable.name).Nodup → (t.merge found).merge found = t.merge found) :=
  ⟨merged_merge t found, merge_merge⟩

/-- Variables that are taken over from the source stay as they are found. -/
theorem merge_keeps_compiled_taken :
    ∃ found : Findings, (found.vars.map Variable.name).Nodup ∧
      ((Template.merge {} found).vars.map fun v => (v.name, v.description)) =
        [("a", ""), ("b", "Second")] ∧
      (Template.merge {} found).merge found = Template.merge {} found := by
  have hsorted : sortByName Variable.name [{ name := "b", description := "Second" }, { name := "a" }] =
      [{ name := "a" }, { name := "b", description := "Second" }] :=
    (sortByName_eq_of_perm Variable.name (.swap _ _ _) (by decide)).trans
      (List.mergeSort_of_pairwise (by decide))
  refine ⟨{ vars := [{ name := "b", description := "Second" }, { name := "a" }] }, by decide, ?_, ?_⟩
  · exact congrArg (List.map fun v => (v.name, v.description)) hsorted
  · exact (merge_keeps_compiled {} _).2 (by decide)

end TemplateDocs
