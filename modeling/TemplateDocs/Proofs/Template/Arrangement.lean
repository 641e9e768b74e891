import TemplateDocs.Proofs.Json.Reader
import TemplateDocs.Proofs.Source.Concatenation
import TemplateDocs.Proofs.Template.Decode
import TemplateDocs.Proofs.Template.Parse
import TemplateDocs.Proofs.Text.Utf8

/-! # What a parsed template lists

Every list of a parsed template stands in the order of names, and it holds what the compiled document
and the source declare: nothing is left out, nothing is added, and things of one name keep the order
in which they were found.
-/

namespace TemplateDocs

open List

/-! ## Lists in the order of names -/

section Arranged

variable {α : Type} {name : α → String} {found items : List α}

/-- The items are those that were found, each as often, in the order of their names; items of one name
keep the order in which they were found. -/
structure Arranged (name : α → String) (found items : List α) : Prop where
  sorted : items.Pairwise fun a b => Text.inOrder (name a) (name b)
  perm : items ~ found
  stable : ∀ k, (items.filter fun x => decide (name x = k)) = found.filter fun x => decide (name x = k)

theorem arranged_sortByName (name : α → String) (found : List α) :
    Arranged name found (sortByName name found) :=
  ⟨sortByName_sorted name found, sortByName_perm name found, sortByName_stable name found⟩

theorem Arranged.sorted_again (h : Arranged name found items) :
    Arranged name found (sortByName name items) where
  sorted := sortByName_sorted name items
  perm := (sortByName_perm name items).trans h.perm
  stable k := (sortByName_stable name items k).trans (h.stable k)

/-- From each entry one item was made, as `Made` says, and the items are arranged by their names, which
are the keys of the entries. -/
structure MadeFrom (Made : String × Json → α → Prop) (name : α → String)
    (entries : List (String × Json)) (items : List α) : Prop where
  names : items.map name ~ entries.map Prod.fst
  arranged : ∃ found, Forall₂ Made entries found ∧ Arranged name found items

/-- The same where no key stands twice. -/
structure MadeOnceFrom (Made : String × Json → α → Prop) (name : α → String)
    (entries : List (String × Json)) (items : List α) : Prop extends
    MadeFrom Made name entries items where
  once : (items.map name).Nodup

variable {Made : String × Json → α → Prop} {entries : List (String × Json)}

theorem MadeFrom.of_arranged (hname : ∀ e x, Made e x → name x = e.1) (h : Forall₂ Made entries found)
    (harranged : Arranged name found items) : MadeFrom Made name entries items where
  names := by
    have hkeys : found.map name = entries.map Prod.fst := by
      clear harranged
      induction h with
      | nil => rfl
      | cons hex _ ih => rw [List.map_cons, List.map_cons, hname _ _ hex, ih]
    exact hkeys ▸ harranged.perm.map name
  arranged := ⟨found, h, harranged⟩

/-- Decoding sorts a section and merging sorts it again. -/
theorem MadeFrom.of_sorted_twice (hname : ∀ e x, Made e x → name x = e.1)
    (h : Forall₂ Made entries found) :
    MadeFrom Made name entries (sortByName name (sortByName name found)) :=
  .of_arranged hname h (arranged_sortByName name found).sorted_again

theorem MadeFrom.exists_made (h : MadeFrom Made name entries items) {x : α} (hx : x ∈ items) :
    ∃ e ∈ entries, Made e x := by
  obtain ⟨found, hmade, harranged⟩ := h.arranged
  exact exists_of_mem_forall₂ hmade (harranged.perm.mem_iff.mp hx)

theorem MadeFrom.of_nodup (h : MadeFrom Made name entries items)
    (hn : (entries.map Prod.fst).Nodup) : MadeOnceFrom Made name entries items :=
  ⟨h, h.names.nodup_iff.mpr hn⟩

end Arranged

/-! ## What documents declare -/

namespace Json

/-- The members of all namespaces of functions, one namespace after the other. -/
def functionMembers (doc : Json) : List (String × Json) :=
  (doc.itemsAt "functions").flatMap fun v => v.entriesAt "members"

/-- The variable that a loop makes. -/
def loopVariable (loop : Json) : Variable :=
  { name := (loop.get "name").text?.getD "", value := Value.ofJson (loop.get "input") }

/-- The variables that an entry stands for: those of the loops in a list named `copy`, none for a name
with a dollar sign in front, and else one. -/
def variablesAt (name : String) (value : Json) : List Variable :=
  match value, name with
  | .array loops, "copy" => loops.map loopVariable
  | value, name =>
    if name.toList.head? = some '$' then [] else [{ name, value := Value.ofJson value }]

/-- The variables of a document in its order. -/
def declaredVariables (doc : Json) : List Variable :=
  (doc.entriesAt "variables").flatMap fun e => variablesAt e.1 e.2

end Json

/-! ## What decoding makes of them -/

namespace Decode

theorem entriesUnder_eq_ok {doc under : Entries} {key : String}
    (h : entriesUnder doc key = .ok under) : under = (Json.object doc).entriesAt key := by
  unfold entriesUnder at h
  unfold Json.entriesAt
  change under = (field doc key).entries?.getD []
  cases hfield : field doc key with
  | null =>
      rw [hfield] at h
      cases h
      rfl
  | object entries =>
      rw [hfield] at h
      cases h
      rfl
  | _ =>
      rw [hfield] at h
      cases h

theorem object_eq_ok {path : String} {v : Json} {entries : Entries}
    (h : object path v = .ok entries) : v = .object entries := by
  cases v with
  | object es =>
      cases h
      rfl
  | _ => cases h

theorem object_eq_error {path : String} {v : Json} {e : DecodeError} (h : object path v = .error e) :
    ∃ problem, e = .malformed path problem := by
  cases v with
  | object es => cases h
  | _ =>
      cases h
      exact ⟨_, rfl⟩

/-- A property is what decoding makes of the value under its name. -/
def MadeProperty (owner : String) (e : String × Json) (p : Entity) : Prop :=
  entity ("definitions." ++ owner ++ ".properties." ++ e.1) e.1 e.2 = .ok p

/-- A data type is what decoding makes of the value under its name, its properties in their order. -/
structure MadeDataType (e : String × Json) (d : DataType) : Prop where
  name : d.name = e.1
  definition : definition ("definitions." ++ e.1) e.2 = .ok d.toDefinition
  properties : MadeOnceFrom (MadeProperty e.1) (fun p => p.name) (e.2.entriesAt "properties")
    d.properties

/-- A parameter of a function is what decoding makes of an item of the list. -/
structure MadeArgument (v : Json) (a : Argument) : Prop where
  label : a.label = (v.get? "name").getD (.text "")
  default : a.default = Value.ofJson (v.get "defaultValue")
  definition : ∃ path, Decode.definition path v = .ok a.toDefinition

/-- A function is what decoding makes of the value under its name, its parameters in the order of the
list. -/
structure MadeFunction (e : String × Json) (f : UserFunction) : Prop where
  decoded : ∃ path, function path e.1 e.2 = .ok f
  arguments : Forall₂ MadeArgument (e.2.itemsAt "parameters") f.arguments

/-! ### Data types -/

theorem dataType_eq_ok {name : String} {v : Json} {d : DataType} (h : dataType name v = .ok d) :
    definition ("definitions." ++ name) v = .ok d.toDefinition ∧
      Forall₂ (MadeProperty name) (v.entriesAt "properties") d.properties := by
  obtain ⟨entries, hentries, h⟩ := bind_eq_ok_iff.mp h
  obtain ⟨own, hown, h⟩ := bind_eq_ok_iff.mp h
  obtain ⟨under, hunder, h⟩ := bind_eq_ok_iff.mp h
  obtain ⟨properties, hproperties, h⟩ := bind_eq_ok_iff.mp h
  cases h
  obtain rfl := object_eq_ok hentries
  refine ⟨bind_eq_ok_iff.mpr ⟨entries, rfl, hown⟩, ?_⟩
  rw [← entriesUnder_eq_ok hunder]
  exact (mapM_eq_ok_iff _ _ _).mp hproperties

/-! ### Variables -/

theorem isInjected_iff (name : String) :
    (isReserved name || isInjected name) = true ↔ name.toList.head? = some '$' := by
  unfold isReserved isInjected
  cases name.toList with
  | nil => simp [Text.dropStart?]
  | cons c cs =>
      by_cases hc : c = '$'
      · subst hc
        simp [Text.dropStart?]
      · simp [Text.dropStart?, hc, Ne.symm hc]

theorem copies_eq_ok {index : Nat} {loops : List Json} {vs : List Variable}
    (h : copies index loops = .ok vs) : vs = loops.map Json.loopVariable := by
  induction loops generalizing index vs with
  | nil =>
      cases h
      rfl
  | cons v rest ih =>
      obtain ⟨entries, hentries, hloop⟩ := bind_eq_ok_iff.mp h
      obtain rfl := object_eq_ok hentries
      split at hloop
      case h_1 name hname =>
        obtain ⟨others, hothers, hvs⟩ := bind_eq_ok_iff.mp hloop
        cases hvs
        rw [ih hothers, List.map_cons, Json.loopVariable]
        change _ = Variable.mk ((field entries "name").text?.getD "") _ _ :: _
        rw [hname]
        rfl
      case h_2 => cases hloop

theorem variablesOfEntry_eq_ok {name : String} {v : Json} {vs : List Variable}
    (h : variablesOfEntry name v = .ok vs) : vs = Json.variablesAt name v := by
  -- Outside of a list of loops the name alone decides.
  have hplain : (if isReserved name || isInjected name then .ok []
      else .ok [{ name, value := Value.ofJson v }] : Except DecodeError (List Variable)) = .ok vs →
      vs = if name.toList.head? = some '$' then [] else [{ name, value := Value.ofJson v }] := by
    intro hvs
    simp only [isInjected_iff] at hvs
    split at hvs
    case isTrue hinjected =>
      rw [if_pos hinjected]
      exact (Except.ok.inj hvs).symm
    case isFalse hdeclared =>
      rw [if_neg hdeclared]
      exact (Except.ok.inj hvs).symm
  unfold variablesOfEntry copyList? at h
  unfold Json.variablesAt
  split
  case h_1 loops => exact copies_eq_ok h
  case h_2 hcopy =>
    apply hplain
    by_cases hname : name = "copy"
    · subst hname
      cases v with
      | array loops => exact absurd rfl (hcopy loops rfl)
      | _ => exact h
    · rw [if_neg (by simpa using hname)] at h
      exact h

theorem variables_eq_ok {entries : Entries} {vs : List Variable}
    (h : (entries.mapM fun e => variablesOfEntry e.1 e.2).map List.flatten = .ok vs) :
    vs = entries.flatMap fun e => Json.variablesAt e.1 e.2 := by
  cases hmade : entries.mapM fun e => variablesOfEntry e.1 e.2 with
  | error e =>
      rw [hmade] at h
      cases h
  | ok made =>
      rw [hmade] at h
      cases h
      rw [List.flatMap_def]
      congr 1
      have hparts := (mapM_eq_ok_iff _ _ _).mp hmade
      clear hmade
      induction hparts with
      | nil => rfl
      | cons hentry _ ih => rw [List.map_cons, variablesOfEntry_eq_ok hentry, ih]

theorem variableSection_eq_ok {entries : Entries} {vs : List Variable}
    (h : (variableSection (field entries "variables")).2 = .ok vs) :
    vs = (Json.object entries).declaredVariables := by
  unfold Json.declaredVariables Json.entriesAt
  change vs = ((field entries "variables").entries?.getD []).flatMap _
  rw [variableSection_result] at h
  cases hfield : field entries "variables" with
  | null =>
      rw [hfield] at h
      cases h
      rfl
  | object under =>
      rw [hfield] at h
      exact variables_eq_ok h
  | _ =>
      rw [hfield] at h
      cases h

/-! ### Functions -/

theorem arguments_eq_ok {path : String} {index : Nat} {values : List Json} {args : List Argument}
    (h : arguments path index values = .ok args) : Forall₂ MadeArgument values args := by
  induction values generalizing index args with
  | nil =>
      cases h
      exact .nil
  | cons v values ih =>
      obtain ⟨entries, hentries, h⟩ := bind_eq_ok_iff.mp h
      obtain ⟨known, -, h⟩ := bind_eq_ok_iff.mp h
      obtain ⟨own, hown, h⟩ := bind_eq_ok_iff.mp h
      obtain ⟨others, hothers, h⟩ := bind_eq_ok_iff.mp h
      cases h
      obtain rfl := object_eq_ok hentries
      exact .cons ⟨rfl, rfl, _, hown⟩ (ih hothers)

theorem function_eq_ok {path name : String} {v : Json} {f : UserFunction}
    (h : function path name v = .ok f) : MadeFunction (name, v) f := by
  refine ⟨⟨path, h⟩, ?_⟩
  obtain ⟨entries, hentries, h⟩ := bind_eq_ok_iff.mp h
  obtain ⟨values, hvalues, h⟩ := bind_eq_ok_iff.mp h
  obtain ⟨arguments, harguments, h⟩ := bind_eq_ok_iff.mp h
  obtain ⟨output, -, h⟩ := bind_eq_ok_iff.mp h
  obtain ⟨metadata, -, h⟩ := bind_eq_ok_iff.mp h
  cases h
  obtain rfl := object_eq_ok hentries
  obtain rfl := argumentList_eq_ok hvalues
  exact arguments_eq_ok harguments

theorem member_eq_ok {index : Nat} {entries : Entries} {e : String × Json} {f : UserFunction}
    (h : member index entries e.1 e.2 = .ok f) : MadeFunction e f := by
  obtain ⟨label, -, h⟩ := bind_eq_ok_iff.mp h
  exact function_eq_ok h

theorem namespaces_eq_ok {index : Nat} {values : List Json} {fs : List UserFunction}
    (h : namespaces index values = .ok fs) :
    Forall₂ MadeFunction (values.flatMap fun v => v.entriesAt "members") fs := by
  induction values generalizing index fs with
  | nil =>
      cases h
      exact .nil
  | cons v values ih =>
      rw [namespaces_cons] at h
      obtain ⟨own, hown, h⟩ := bind_eq_ok_iff.mp h
      obtain ⟨others, hothers, h⟩ := bind_eq_ok_iff.mp h
      cases h
      obtain ⟨entries, hentries, hunder⟩ := bind_eq_ok_iff.mp hown
      obtain ⟨under, hunder, hmembers⟩ := bind_eq_ok_iff.mp hunder
      obtain rfl := object_eq_ok hentries
      rw [List.flatMap_cons, ← entriesUnder_eq_ok hunder]
      have hfirst := (mapM_eq_ok_iff _ _ _).mp hmembers
      exact List.rel_append (hfirst.imp fun _ _ hf => member_eq_ok hf) (ih hothers)

theorem functions_eq_ok {entries : Entries} {fs : List UserFunction}
    (h : functions (field entries "functions") = .ok fs) :
    Forall₂ MadeFunction (Json.object entries).functionMembers fs := by
  unfold Json.functionMembers Json.itemsAt
  change Forall₂ MadeFunction (((field entries "functions").items?.getD []).flatMap _) fs
  cases hfield : field entries "functions" with
  | null =>
      rw [hfield] at h
      cases h
      exact .nil
  | array values =>
      rw [hfield] at h
      exact namespaces_eq_ok h
  | _ =>
      rw [hfield] at h
      cases h

/-! ### The document -/

theorem addEach_eq_ok {α : Type} {entries : Entries} {key : String}
    {decode : String → Json → Except DecodeError α} {add : Template → List α → Template}
    {t u : Template} (h : (addEach entries key decode add t).result = .ok u) :
    ∃ items, Forall₂ (fun e x => decode e.1 e.2 = .ok x) ((Json.object entries).entriesAt key) items ∧
      u = add t items := by
  rw [addEach_result] at h
  obtain ⟨under, hunder, h⟩ := bind_eq_ok_iff.mp h
  obtain ⟨items, hitems, h⟩ := bind_eq_ok_iff.mp h
  cases h
  exact ⟨items, entriesUnder_eq_ok hunder ▸ (mapM_eq_ok_iff _ _ _).mp hitems, rfl⟩

theorem setMetadata_eq_ok {entries : Entries} {t u : Template}
    (h : (setMetadata entries t).result = .ok u) : ∃ found, u = { t with metadata := found } := by
  rw [setMetadata_result] at h
  split at h
  case h_1 =>
    cases h
    exact ⟨t.metadata, rfl⟩
  case h_2 value _ =>
    obtain ⟨found, -, h⟩ := bind_eq_ok_iff.mp h
    cases h
    exact ⟨found, rfl⟩

/-- A decoded template is what its sections declare, sorted. -/
theorem decode_eq_ok {name : String} {doc : Json} {u : Template}
    (h : (Template.decode { fileName := name } doc).result = .ok u) :
    ∃ parameters dataTypes outputs functions metadata,
      Forall₂ (fun e p => parameter e.1 e.2 = .ok p) (doc.entriesAt "parameters") parameters ∧
      Forall₂ (fun e d => dataType e.1 e.2 = .ok d) (doc.entriesAt "definitions") dataTypes ∧
      Forall₂ (fun e o => output e.1 e.2 = .ok o) (doc.entriesAt "outputs") outputs ∧
      Forall₂ MadeFunction doc.functionMembers functions ∧
      u = Template.sort
        { fileName := name, parameters, dataTypes, outputs, functions, metadata
          vars := doc.declaredVariables } := by
  rw [decode_result] at h
  obtain ⟨entries, hentries, h⟩ := bind_eq_ok_iff.mp h
  obtain ⟨t₁, h₁, h⟩ := bind_eq_ok_iff.mp h
  obtain ⟨t₂, h₂, h⟩ := bind_eq_ok_iff.mp h
  obtain ⟨t₃, h₃, h⟩ := bind_eq_ok_iff.mp h
  obtain ⟨t₄, h₄, h⟩ := bind_eq_ok_iff.mp h
  obtain ⟨t₅, h₅, h⟩ := bind_eq_ok_iff.mp h
  obtain ⟨t₆, h₆, h⟩ := bind_eq_ok_iff.mp h
  obtain rfl := object_eq_ok hentries
  obtain ⟨parameters, hparameters, rfl⟩ := addEach_eq_ok h₁
  obtain ⟨dataTypes, hdataTypes, rfl⟩ := addEach_eq_ok h₂
  obtain ⟨vars, hvars, hadd⟩ := bind_eq_ok_iff.mp ((addVariables_result entries _).symm.trans h₃)
  cases hadd
  obtain rfl := variableSection_eq_ok hvars
  obtain ⟨outputs, houtputs, rfl⟩ := addEach_eq_ok h₄
  obtain ⟨functions, hfunctions, hadd⟩ :=
    bind_eq_ok_iff.mp ((addFunctions_result entries _).symm.trans h₅)
  cases hadd
  obtain ⟨metadata, rfl⟩ := setMetadata_eq_ok h₆
  cases h
  exact ⟨parameters, dataTypes, outputs, functions, metadata, hparameters, hdataTypes, houtputs,
    functions_eq_ok hfunctions, rfl⟩

/-- Sorting the properties, as often as it is done, makes of a decoded data type the one described. -/
theorem madeDataType_sorted {e : String × Json} {d : DataType} (h : dataType e.1 e.2 = .ok d)
    (hkeys : e.2.KeysOnce) :
    MadeDataType e (Template.sortProperties (Template.sortProperties d)) where
  name := (dataType_name h : d.name = e.1)
  definition := (dataType_eq_ok h).1
  properties := by
    have hname (f : String × Json) (p : Entity) (hp : MadeProperty e.1 f p) : p.name = f.1 :=
      entity_name hp
    exact (MadeFrom.of_sorted_twice hname (dataType_eq_ok h).2).of_nodup
      (hkeys.entriesAt "properties").nodup

end Decode

/-! ## Templates -/

open Decode

/-- The template lists what a compiled document and the findings of a scan declare, each list in the
order of names. -/
structure Template.Lists (t : Template) (doc : Json) (found : Findings) : Prop where
  modules : Arranged Module.name found.modules t.modules
  resources : Arranged Resource.name found.resources t.resources
  parameters : MadeOnceFrom (fun e p => parameter e.1 e.2 = .ok p) (fun p => p.name)
    (doc.entriesAt "parameters") t.parameters
  dataTypes : MadeOnceFrom MadeDataType (fun d => d.name) (doc.entriesAt "definitions") t.dataTypes
  outputs : MadeOnceFrom (fun e o => output e.1 e.2 = .ok o) (fun o => o.name)
    (doc.entriesAt "outputs") t.outputs
  functions : MadeFrom MadeFunction UserFunction.name doc.functionMembers t.functions
  vars : Arranged Variable.name
    (if doc.declaredVariables.isEmpty then found.vars
      else doc.declaredVariables.map (describe found.vars)) t.vars

theorem sorted_dataTypes_eq (items : List DataType) :
    (sortByName (fun d : DataType => d.name)
      ((sortByName (fun d : DataType => d.name) items).map Template.sortProperties)).map
        Template.sortProperties =
      sortByName (fun d : DataType => d.name) (sortByName (fun d : DataType => d.name)
        (items.map fun d => Template.sortProperties (Template.sortProperties d))) := by
  have hsort := map_sortByName (fun d : DataType => d.name) (fun d : DataType => d.name)
    Template.sortProperties fun _ => rfl
  simp only [hsort, List.map_map]
  rfl

theorem arranged_vars (declared found : List Variable) :
    Arranged Variable.name (if declared.isEmpty then found else declared.map (describe found))
      (sortByName Variable.name
        (if (sortByName Variable.name declared).isEmpty then found
          else (sortByName Variable.name declared).map (describe found))) := by
  have hempty : (sortByName Variable.name declared).isEmpty = declared.isEmpty :=
    (sortByName_perm Variable.name declared).isEmpty_eq
  rw [hempty, map_sortByName Variable.name Variable.name (describe found) fun _ => rfl]
  split
  · exact arranged_sortByName Variable.name found
  · exact (arranged_sortByName Variable.name _).sorted_again

theorem merge_lists {sourceName : String} {doc : Json} {u : Template} (found : Findings)
    (hkeys : doc.KeysOnce) (h : (Template.decode { fileName := sourceName } doc).result = .ok u) :
    (u.merge found.sorted).Lists doc found := by
  obtain ⟨parameters, dataTypes, outputs, functions, metadata, hparameters, hdataTypes, houtputs,
    hfunctions, rfl⟩ := decode_eq_ok h
  have hdefinitions : Forall₂ MadeDataType (doc.entriesAt "definitions")
      (dataTypes.map fun d => Template.sortProperties (Template.sortProperties d)) := by
    rw [List.forall₂_map_right_iff]
    have hboth := (List.forall₂_and_left _ _).mpr
      ⟨(hkeys.entriesAt "definitions").entries, hdataTypes⟩
    exact hboth.imp fun e d hd => madeDataType_sorted hd.2 hd.1
  exact
    { modules := arranged_sortByName Module.name found.modules
      resources := arranged_sortByName Resource.name found.resources
      parameters := (MadeFrom.of_sorted_twice (fun _ _ hp => parameter_name hp) hparameters).of_nodup
        (hkeys.entriesAt "parameters").nodup
      dataTypes := by
        have hmade := MadeFrom.of_sorted_twice (fun _ _ hd => hd.name) hdefinitions
        rw [← sorted_dataTypes_eq] at hmade
        exact hmade.of_nodup (hkeys.entriesAt "definitions").nodup
      outputs := (MadeFrom.of_sorted_twice (fun _ _ ho => output_name ho) houtputs).of_nodup
        (hkeys.entriesAt "outputs").nodup
      functions := .of_sorted_twice (fun _ _ hf => function_name hf.decoded.choose_spec) hfunctions
      vars := arranged_vars doc.declaredVariables found.vars }

theorem HoldsDocument.keysOnce {contents : Contents} {doc : Json} (h : HoldsDocument contents doc) :
    doc.KeysOnce := by
  obtain ⟨bytes, -, text, -, hread⟩ := h
  exact Json.read_keysOnce hread

theorem HoldsDocument.inLimits {contents : Contents} {doc : Json} (h : HoldsDocument contents doc) :
    doc.InLimits := by
  obtain ⟨bytes, -, text, -, hread⟩ := h
  exact Json.read_inLimits hread

/-- A parsed template lists what its source and its compiled document declare. -/
theorem parse_lists {sourceName compiledName : String} {source compiled : Contents} {t : Template}
    (h : (Template.parse sourceName source compiledName compiled).result = .ok t) :
    ∃ text doc, HoldsText source text ∧ HoldsDocument compiled doc ∧
      t.Lists doc (Source.Scan.run true (Text.fileLines text)).found := by
  obtain ⟨text, found, doc, u, htext, hscan, hdoc, hdecode, rfl⟩ := parse_eq_ok h
  obtain ⟨-, rfl⟩ := Source.scanLines_eq_ok_iff.mp hscan
  exact ⟨text, doc, htext, hdoc, merge_lists _ hdoc.keysOnce hdecode⟩

/-- Two modules against the order of their names, and two functions of one name. -/
theorem parse_lists_namesakes :
    ∃ t text doc,
      (Template.parse "main.bicep" (.ok (Text.encode
        "module b './b.bicep' = \x7b\nmodule a './a.bicep' = \x7b\n")) "main.json" (.ok (Text.encode
        "\x7b\"functions\": [\x7b\"members\": \x7b\"f\": \x7b\x7d\x7d\x7d, \x7b\"members\": \x7b\"f\": \x7b\"output\": \x7b\x7d\x7d\x7d\x7d]\x7d"))).result
        = .ok t ∧
      t.Lists doc (Source.Scan.run true (Text.fileLines text)).found := by
  obtain ⟨t, ht⟩ := exists_eq_ok (x := (Template.parse "main.bicep" (.ok (Text.encode
    "module b './b.bicep' = \x7b\nmodule a './a.bicep' = \x7b\n")) "main.json" (.ok (Text.encode
    "\x7b\"functions\": [\x7b\"members\": \x7b\"f\": \x7b\x7d\x7d\x7d, \x7b\"members\": \x7b\"f\": \x7b\"output\": \x7b\x7d\x7d\x7d\x7d]\x7d"))).result)
    (by decide +kernel)
  obtain ⟨text, doc, -, -, hlists⟩ := parse_lists ht
  exact ⟨t, text, doc, ht, hlists⟩

end TemplateDocs
