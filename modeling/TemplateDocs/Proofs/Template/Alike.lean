import TemplateDocs.Proofs.Value.Literal
import TemplateDocs.Template.Merge

/-! # Templates that no page can tell apart

Templates are alike when they differ at most in what no page shows: the values of variables, the
parameters of functions, and the order of keys inside default and allowed values.
-/

namespace TemplateDocs

open List

/-! ## Parts -/

structure Constraints.Alike (c d : Constraints) : Prop where
  allowedValues : Option.Rel (Forall₂ Value.Alike) c.allowedValues d.allowedValues
  minLength : c.minLength = d.minLength
  maxLength : c.maxLength = d.maxLength
  minValue : c.minValue = d.minValue
  maxValue : c.maxValue = d.maxValue

structure Definition.Alike (a b : Definition) : Prop where
  type : a.type = b.type
  items : a.items = b.items
  nullable : a.nullable = b.nullable
  constraints : a.constraints.Alike b.constraints
  metadata : a.metadata = b.metadata

structure Entity.Alike (a b : Entity) : Prop where
  definition : a.toDefinition.Alike b.toDefinition
  name : a.name = b.name

structure Parameter.Alike (a b : Parameter) : Prop where
  entity : a.toEntity.Alike b.toEntity
  default : a.default.Alike b.default

structure DataType.Alike (a b : DataType) : Prop where
  entity : a.toEntity.Alike b.toEntity
  properties : Forall₂ Entity.Alike a.properties b.properties

structure UserFunction.Alike (a b : UserFunction) : Prop where
  name : a.name = b.name
  output : a.output.Alike b.output
  metadata : a.metadata = b.metadata

structure Variable.Alike (a b : Variable) : Prop where
  name : a.name = b.name
  description : a.description = b.description

/-- Data types whose properties are alike name by name. -/
structure DataType.Corresponding (a b : DataType) : Prop where
  entity : a.toEntity.Alike b.toEntity
  properties : CorrespondByName Entity.Alike (fun p => p.name) (fun p => p.name)
    a.properties b.properties

/-! ## Templates -/

structure Template.Alike (t u : Template) : Prop where
  title : t.title = u.title
  modules : t.modules = u.modules
  resources : t.resources = u.resources
  parameters : Forall₂ Parameter.Alike t.parameters u.parameters
  dataTypes : Forall₂ DataType.Alike t.dataTypes u.dataTypes
  functions : Forall₂ UserFunction.Alike t.functions u.functions
  vars : Forall₂ Variable.Alike t.vars u.vars
  outputs : Forall₂ Entity.Alike t.outputs u.outputs
  metadata : t.metadata = u.metadata

/-- Templates whose parts are alike name by name, in whatever order they stand. -/
structure Template.Corresponding (t u : Template) : Prop where
  fileName : t.fileName = u.fileName
  modules : t.modules = u.modules
  resources : t.resources = u.resources
  parameters : CorrespondByName Parameter.Alike (fun p => p.name) (fun p => p.name)
    t.parameters u.parameters
  dataTypes : CorrespondByName DataType.Corresponding (fun d => d.name) (fun d => d.name)
    t.dataTypes u.dataTypes
  functions : CorrespondByName UserFunction.Alike UserFunction.name UserFunction.name
    t.functions u.functions
  vars : CorrespondByName Variable.Alike Variable.name Variable.name t.vars u.vars
  outputs : CorrespondByName Entity.Alike (fun o => o.name) (fun o => o.name) t.outputs u.outputs
  metadata : t.metadata = u.metadata

/-! ## Sorting and merging -/

theorem DataType.Corresponding.name_eq {a b : DataType} (h : a.Corresponding b) : a.name = b.name :=
  h.entity.name

theorem DataType.Corresponding.sortProperties {a b : DataType} (h : a.Corresponding b) :
    (Template.sortProperties a).Alike (Template.sortProperties b) :=
  ⟨h.entity, h.properties.sortByName fun _ _ hp => hp.name⟩

theorem DataType.Corresponding.sortProperties_corresponding {a b : DataType}
    (h : a.Corresponding b) :
    (Template.sortProperties a).Corresponding (Template.sortProperties b) :=
  ⟨h.entity, h.properties.sortByName_correspond⟩

theorem Template.title_eq {t u : Template} (hf : t.fileName = u.fileName)
    (hm : t.metadata = u.metadata) : t.title = u.title := by
  simp only [Template.title, hf, hm]

/-- Sorting makes templates alike whose parts are alike name by name. -/
theorem Template.Corresponding.sort_alike {t u : Template} (h : t.Corresponding u) :
    t.sort.Alike u.sort where
  title := Template.title_eq h.fileName h.metadata
  modules := h.modules
  resources := h.resources
  parameters := h.parameters.sortByName fun _ _ hp => hp.entity.name
  dataTypes := by
    have hsorted := h.dataTypes.sortByName fun _ _ hd => hd.name_eq
    simp only [Template.sort, List.forall₂_map_left_iff, List.forall₂_map_right_iff]
    exact hsorted.imp fun _ _ hd => hd.sortProperties
  functions := h.functions.sortByName fun _ _ hf => hf.name
  vars := h.vars.sortByName fun _ _ hv => hv.name
  outputs := h.outputs.sortByName fun _ _ ho => ho.name
  metadata := h.metadata

theorem Template.Corresponding.sort {t u : Template} (h : t.Corresponding u) :
    t.sort.Corresponding u.sort where
  fileName := h.fileName
  modules := h.modules
  resources := h.resources
  parameters := h.parameters.sortByName_correspond
  dataTypes := h.dataTypes.sortByName_correspond.map (fun _ => rfl) (fun _ => rfl)
    fun _ _ hd => hd.sortProperties_corresponding
  functions := h.functions.sortByName_correspond
  vars := h.vars.sortByName_correspond
  outputs := h.outputs.sortByName_correspond
  metadata := h.metadata

theorem describe_alike (found : List Variable) {v w : Variable} (h : v.Alike w) :
    (describe found v).Alike (describe found w) where
  name := h.name
  description := by simp only [describe, h.name, h.description]

/-- What the source adds keeps templates alike. -/
theorem Template.Corresponding.merge_alike {t u : Template} (h : t.Corresponding u)
    (found : Findings) : (t.merge found).Alike (u.merge found) := by
  have hvars : CorrespondByName Variable.Alike Variable.name Variable.name
      (if t.vars.isEmpty then found.vars else t.vars.map (describe found.vars))
      (if u.vars.isEmpty then found.vars else u.vars.map (describe found.vars)) := by
    rw [h.vars.isEmpty_eq fun _ _ hv => hv.name]
    split
    · exact .refl (fun v => ⟨rfl, rfl⟩) Variable.name found.vars
    · exact h.vars.map (fun _ => rfl) (fun _ => rfl) fun _ _ => describe_alike found.vars
  have hmerged : Template.Corresponding
      { t with
        modules := found.modules
        resources := found.resources
        vars := if t.vars.isEmpty then found.vars else t.vars.map (describe found.vars) }
      { u with
        modules := found.modules
        resources := found.resources
        vars := if u.vars.isEmpty then found.vars else u.vars.map (describe found.vars) } :=
    { h with modules := rfl, resources := rfl, vars := hvars }
  exact hmerged.sort_alike

end TemplateDocs
