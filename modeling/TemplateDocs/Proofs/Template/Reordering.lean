import TemplateDocs.Proofs.Template.Alike
import TemplateDocs.Proofs.Template.Decode

/-! # Decoding reordered documents

Decoding two documents that differ in the order of keys fails for both or gives templates that are
alike. Which field an error names, and hence which error comes first, may depend on the order, so the
paths in the lemmas below are not assumed to be the same.
-/

namespace TemplateDocs.Decode

open List

/-- Documents that differ in the order of keys, none of which stands twice. -/
structure Twin (a b : Json) : Prop where
  reordered : a.Reordered b
  keysOnce : a.KeysOnce

/-- Entries of objects that differ in the order of keys, none of which stands twice. -/
structure Twins (es fs : Entries) : Prop where
  reordered : Json.EntriesReordered es fs
  keysOnce : Json.KeysOnce (.object es)

/-! ## Fields -/

theorem Twins.entryOf? {es fs : Entries} (h : Twins es fs) (key : String) :
    Option.Rel Twin (entryOf? key es) (TemplateDocs.entryOf? key fs) := by
  have hrel := h.reordered.entryOf? h.keysOnce.nodup key
  have hmem := entryOf?_eq_some_iff h.keysOnce.nodup key
  generalize TemplateDocs.entryOf? key es = x at hrel hmem
  generalize TemplateDocs.entryOf? key fs = y at hrel
  cases hrel with
  | none => exact .none
  | some hab => exact .some ⟨hab, h.keysOnce.entries _ ((hmem _).mp rfl)⟩

theorem Twins.field {es fs : Entries} (h : Twins es fs) (key : String) :
    Twin (field es key) (Decode.field fs key) := by
  have hrel := h.entryOf? key
  unfold Decode.field
  generalize TemplateDocs.entryOf? key es = x at hrel
  generalize TemplateDocs.entryOf? key fs = y at hrel
  cases hrel with
  | none => exact ⟨.same _, .null⟩
  | some hab => exact hab

theorem Twin.object {a b : Json} (h : Twin a b) (p q : String) :
    Agree Twins (object p a) (Decode.object q b) := by
  obtain ⟨hab, hk⟩ := h
  cases hab with
  | same =>
      cases a with
      | object es => exact .done ⟨.refl es, hk⟩
      | _ => exact .failed _ _
  | array => exact .failed _ _
  | object hkeys hvalues hperm =>
      exact .done ⟨⟨_, Json.forall₂_entryReordered hkeys hvalues, hperm⟩, hk⟩

theorem Twin.items {xs ys : List Json} (h : Twin (.array xs) (.array ys)) : Forall₂ Twin xs ys := by
  have hkeys := h.keysOnce.items
  have hxs := h.reordered.items
  clear h
  induction hxs with
  | nil => exact .nil
  | @cons x y xs ys hxy _ ih =>
      exact .cons ⟨hxy, hkeys x List.mem_cons_self⟩
        (ih fun z hz => hkeys z (List.mem_cons_of_mem x hz))

theorem Twins.entriesUnder {es fs : Entries} (h : Twins es fs) (key : String) :
    Agree Twins (entriesUnder es key) (Decode.entriesUnder fs key) := by
  have hfield := h.field key
  unfold Decode.entriesUnder
  generalize Decode.field es key = a at hfield
  generalize Decode.field fs key = b at hfield
  have hobject := hfield.object key key
  have hkind := hfield.reordered.kindName_eq
  cases a with
  | null =>
      cases b with
      | null => exact .done ⟨.refl [], .object (by simp) (by simp)⟩
      | _ => simp [Json.kindName] at hkind
  | _ =>
      cases b with
      | null => simp [Json.kindName] at hkind
      | _ => exact hobject

/-! ## Definitions -/

theorem Twins.type {es fs : Entries} (h : Twins es fs) (p q : String) :
    Agree Eq (type es p) (Decode.type fs q) := by
  have href := (h.field "$ref").reordered
  have htype := (h.field "type").reordered
  unfold Decode.type
  generalize Decode.field es "$ref" = a at href
  generalize Decode.field fs "$ref" = a' at href
  generalize Decode.field es "type" = b at htype
  generalize Decode.field fs "type" = b' at htype
  -- Only a text is looked into, and a text has no keys to reorder.
  cases href with
  | same =>
      cases htype with
      | same =>
          split
          · exact .done rfl
          · exact .done rfl
          · exact .done rfl
          · exact .failed _ _
      | _ =>
          cases a with
          | text s => exact .done rfl
          | _ => exact .failed _ _
  | _ =>
      cases htype with
      | same =>
          cases b with
          | text s => exact .done rfl
          | _ => exact .failed _ _
      | _ => exact .failed _ _

theorem Twins.items {es fs : Entries} (h : Twins es fs) (p q : String) :
    Agree Eq (items es p) (Decode.items fs q) := by
  have hfield := h.field "items"
  unfold Decode.items
  generalize Decode.field es "items" = a at hfield
  generalize Decode.field fs "items" = b at hfield
  have hinner : Agree Eq
      (do
        let inner ← object (p ++ ".items") a
        return some (← Decode.type inner (p ++ ".items")) : Except DecodeError (Option TypeRef))
      (do
        let inner ← object (q ++ ".items") b
        return some (← Decode.type inner (q ++ ".items"))) := by
    refine (hfield.object _ _).bind fun es fs hes => ?_
    refine (hes.type _ _).bind fun t u htu => ?_
    exact .done (congrArg some htu)
  obtain ⟨hab, -⟩ := hfield
  cases hab with
  | same =>
      cases a with
      | null => exact .done rfl
      | bool => exact .done rfl
      | _ => exact hinner
  | _ => exact hinner

theorem Twins.allowedValues {es fs : Entries} (h : Twins es fs) (p q : String) :
    Agree (Option.Rel (Forall₂ Value.Alike)) (allowedValues es p) (Decode.allowedValues fs q) := by
  obtain ⟨hab, hk⟩ := h.field "allowedValues"
  unfold Decode.allowedValues
  generalize Decode.field es "allowedValues" = a at hab hk
  generalize Decode.field fs "allowedValues" = b at hab
  cases a with
  | null =>
      cases hab
      exact .done .none
  | array xs =>
      cases b with
      | array ys => exact .done (.some (Value.alike_ofItems hab.items hk.items))
      | _ => cases hab
  | _ => cases hab <;> exact .failed _ _

theorem Twins.bound {es fs : Entries} (h : Twins es fs) (p q key : String) :
    Agree Eq (bound es p key) (Decode.bound fs q key) := by
  have hab := (h.field key).reordered
  unfold Decode.bound
  generalize Decode.field es key = a at hab
  generalize Decode.field fs key = b at hab
  cases hab with
  | same =>
      cases a with
      | null => exact .done rfl
      | int n => exact .done rfl
      | _ => exact .failed _ _
  | _ => exact .failed _ _

theorem Twins.constraints {es fs : Entries} (h : Twins es fs) (p q : String) :
    Agree Constraints.Alike (constraints es p) (Decode.constraints fs q) := by
  unfold Decode.constraints
  refine (h.allowedValues p q).bind fun allowed allowed' hallowed => ?_
  refine (h.bound p q "minLength").bind fun minLength minLength' hminLength => ?_
  refine (h.bound p q "maxLength").bind fun maxLength maxLength' hmaxLength => ?_
  refine (h.bound p q "minValue").bind fun minValue minValue' hminValue => ?_
  refine (h.bound p q "maxValue").bind fun maxValue maxValue' hmaxValue => ?_
  exact .done ⟨hallowed, hminLength, hmaxLength, hminValue, hmaxValue⟩

theorem Twin.metadata {a b : Json} (h : Twin a b) (p q : String) :
    Agree Eq (metadata p a) (Decode.metadata q b) := by
  have hfields : ∀ es fs, Twins es fs →
      ({ name := (field es "name").text?
         description := (field es "description").text?
         exportable := (entryOf? exportKey es).map Json.truthy } : Metadata) =
        { name := (field fs "name").text?
          description := (field fs "description").text?
          exportable := (entryOf? exportKey fs).map Json.truthy } := by
    intro es fs hes
    have hexport : (entryOf? exportKey es).map Json.truthy =
        (entryOf? exportKey fs).map Json.truthy := by
      have hrel := hes.entryOf? exportKey
      generalize entryOf? exportKey es = x at hrel
      generalize entryOf? exportKey fs = y at hrel
      cases hrel with
      | none => rfl
      | some hab => exact congrArg some hab.reordered.truthy_eq
    rw [(hes.field "name").reordered.text?_eq, (hes.field "description").reordered.text?_eq, hexport]
  have hobject := (h.object p q).map (S := Eq) fun es fs hes => congrArg some (hfields es fs hes)
  obtain ⟨hab, -⟩ := h
  cases hab with
  | same =>
      cases a with
      | null => exact .done rfl
      | object es => exact hobject
      | _ => exact .failed _ _
  | array => exact .failed _ _
  | object => exact hobject

theorem Twins.definitionOf {es fs : Entries} (h : Twins es fs) (p q : String) :
    Agree Definition.Alike (definitionOf es p) (Decode.definitionOf fs q) := by
  unfold Decode.definitionOf
  refine (h.type p q).bind fun type type' htype => ?_
  refine (h.items p q).bind fun items items' hitems => ?_
  refine (h.constraints p q).bind fun constraints constraints' hconstraints => ?_
  refine ((h.field "metadata").metadata _ _).bind fun metadata metadata' hmetadata => ?_
  exact .done ⟨htype, hitems, (h.field "nullable").reordered.truthy_eq, hconstraints, hmetadata⟩

theorem Twin.definition {a b : Json} (h : Twin a b) (p q : String) :
    Agree Definition.Alike (definition p a) (Decode.definition q b) :=
  (h.object p q).bind fun _ _ hes => hes.definitionOf p q

theorem Twin.entity {a b : Json} (h : Twin a b) (p q name : String) :
    Agree Entity.Alike (entity p name a) (Decode.entity q name b) :=
  (h.definition p q).bind fun _ _ hd => .done ⟨hd, rfl⟩

theorem Twin.defaultValue {a b : Json} (h : Twin a b) :
    (defaultValue a).Alike (Decode.defaultValue b) := by
  obtain ⟨hab, hk⟩ := h
  have hget : Twin (a.get "defaultValue") (b.get "defaultValue") := by
    cases a with
    | object es =>
        cases b with
        | object fs => exact Twins.field ⟨hab.entries, hk⟩ "defaultValue"
        | _ => cases hab
    | _ => cases hab <;> exact ⟨.same _, .null⟩
  exact Value.alike_ofJson hget.reordered hget.keysOnce

theorem Twin.parameter {a b : Json} (h : Twin a b) (name : String) :
    Agree Parameter.Alike (parameter name a) (Decode.parameter name b) :=
  (h.entity _ _ name).bind fun _ _ he => .done ⟨he, h.defaultValue⟩

/-! ## Named definitions -/

theorem Twins.forall₂_twin {es mid : Entries} (h : Forall₂ Json.EntryReordered es mid)
    (hk : ∀ e ∈ es, e.2.KeysOnce) : Forall₂ (fun e f => e.1 = f.1 ∧ Twin e.2 f.2) es mid := by
  induction h with
  | nil => exact .nil
  | @cons e f es mid hef _ ih =>
      exact .cons ⟨hef.1, hef.2, hk e List.mem_cons_self⟩
        (ih fun e' he' => hk e' (List.mem_cons_of_mem e he'))

/-- What is decoded of each entry corresponds name by name, since each name is a key. -/
theorem Twins.mapM {α : Type} {R : α → α → Prop} {name : α → String} {es fs : Entries}
    {f g : String → Json → Except DecodeError α} (h : Twins es fs)
    (hfg : ∀ key a b, Twin a b → Agree R (f key a) (g key b))
    (hname : ∀ key a x, g key a = .ok x → name x = key) (hR : ∀ x y, R x y → name x = name y) :
    Agree (CorrespondByName R name name) (es.mapM fun e => f e.1 e.2)
      (fs.mapM fun e => g e.1 e.2) := by
  obtain ⟨⟨mid, hmid, hperm⟩, hk⟩ := h
  have hpoint : Agree (Forall₂ R) (es.mapM fun e => f e.1 e.2) (mid.mapM fun e => g e.1 e.2) := by
    apply Agree.mapM (Twins.forall₂_twin hmid hk.entries)
    rintro ⟨key, a⟩ ⟨_, b⟩ ⟨rfl, hab⟩
    exact hfg key a b hab
  have horder := Agree.mapM_perm (fun e : String × Json => g e.1 e.2) hperm
  refine (hpoint.comp horder).mono ?_
  rintro xs ys ⟨ms, hms, hxs, hys⟩
  have hnames : ms.map name = mid.map Prod.fst := by
    have hall := (mapM_eq_ok_iff _ _ _).mp hms
    clear hms hpoint horder hperm hmid hxs hys
    induction hall with
    | nil => rfl
    | @cons e x mid ms hx _ ih => simp [hname e.1 e.2 x hx, ih]
  refine .of_perm hR hxs hys ?_
  rw [hnames, ← Json.map_fst_eq_of_forall₂ hmid]
  exact hk.nodup

theorem Twin.dataType {a b : Json} (h : Twin a b) (name : String) :
    Agree DataType.Corresponding (dataType name a) (Decode.dataType name b) := by
  refine (h.object _ _).bind fun es fs hes => ?_
  refine (hes.definitionOf _ _).bind fun own own' hown => ?_
  refine (hes.entriesUnder "properties").bind fun under under' hunder => ?_
  let property (key : String) (value : Json) : Except DecodeError Entity :=
    Decode.entity ("definitions." ++ name ++ ".properties." ++ key) key value
  have hproperties := hunder.mapM (f := property) (g := property)
    (fun key _ _ hab => hab.entity _ _ key) (fun _ _ _ => entity_name) fun _ _ hp => hp.name
  refine hproperties.bind fun properties properties' hps => ?_
  exact .done ⟨⟨hown, rfl⟩, hps⟩

theorem Twin.output {a b : Json} (h : Twin a b) (name : String) :
    Agree Entity.Alike (output name a) (Decode.output name b) :=
  h.entity _ _ name

/-! ## Variables

Loops and plain variables may give one name twice, and then the order of keys decides which of the
two comes first. Neither has a description yet, so that they are alike all the same.
-/

/-- Variables of one name that nothing has described so far. -/
structure Undescribed (v w : Variable) : Prop where
  name : v.name = w.name
  left : v.description = ""
  right : w.description = ""

theorem copies_agree {xs ys : List Json} (h : Forall₂ Twin xs ys) :
    ∀ index, Agree (Forall₂ Undescribed) (copies index xs) (copies index ys) := by
  induction h with
  | nil => exact fun _ => .done .nil
  | @cons a b xs ys hab _ ih =>
      intro index
      refine (hab.object _ _).bind fun es fs hes => ?_
      have htext := (hes.field "name").reordered.text?_eq
      generalize field es "name" = x at htext
      generalize field fs "name" = y at htext
      cases x with
      | text s =>
          cases y with
          | text s' =>
              simp only [Json.text?, Option.some.injEq] at htext
              refine (ih (index + 1)).bind fun vs ws hvs => ?_
              exact .done (.cons ⟨htext, rfl, rfl⟩ hvs)
          | _ => simp [Json.text?] at htext
      | _ =>
          cases y with
          | text s' => simp [Json.text?] at htext
          | _ => exact .failed _ _

theorem Twin.variablesOfEntry {a b : Json} (h : Twin a b) (name : String) :
    Agree (Forall₂ Undescribed) (variablesOfEntry name a) (Decode.variablesOfEntry name b) := by
  have hplain : Agree (Forall₂ Undescribed)
      (if isReserved name || isInjected name then .ok [] else .ok [{ name, value := .ofJson a }])
      (if isReserved name || isInjected name then .ok []
        else .ok [{ name, value := .ofJson b }] : Except DecodeError (List Variable)) := by
    split
    · exact .done .nil
    · exact .done (.cons ⟨rfl, rfl, rfl⟩ .nil)
  unfold Decode.variablesOfEntry copyList?
  cases name == "copy" with
  | false => exact hplain
  | true =>
      cases a with
      | array xs =>
          cases b with
          | array ys => exact copies_agree h.items 0
          | _ => cases h.reordered
      | _ =>
          cases b with
          | array ys => cases h.reordered
          | _ => exact hplain

/-- Undescribed variables are alike name by name, whatever order they come in. -/
theorem Undescribed.correspondByName {vs ms ws : List Variable} (h : Forall₂ Undescribed vs ms)
    (hp : ms ~ ws) : CorrespondByName Variable.Alike Variable.name Variable.name vs ws := by
  have hall : vs.map Variable.name = ms.map Variable.name ∧ (∀ v ∈ vs, v.description = "") ∧
      ∀ m ∈ ms, m.description = "" := by
    clear hp
    induction h with
    | nil => simp
    | cons hvm _ ih => simpa [hvm.name, hvm.left, hvm.right, ih.1] using ih.2
  obtain ⟨hnames, hleft, hright⟩ := hall
  refine .of_names ?_ (hnames ▸ hp.map Variable.name)
  intro v hv w hw hvw
  exact ⟨hvw, (hleft v hv).trans (hright w (hp.mem_iff.mpr hw)).symm⟩

theorem Twins.variables {es fs : Entries} (h : Twins es fs) :
    Agree (CorrespondByName Variable.Alike Variable.name Variable.name)
      ((es.mapM fun e => variablesOfEntry e.1 e.2).map List.flatten)
      ((fs.mapM fun e => variablesOfEntry e.1 e.2).map List.flatten) := by
  obtain ⟨⟨mid, hmid, hperm⟩, hk⟩ := h
  have hpoint : Agree (Forall₂ (Forall₂ Undescribed))
      (es.mapM fun e => Decode.variablesOfEntry e.1 e.2)
      (mid.mapM fun e => Decode.variablesOfEntry e.1 e.2) := by
    apply Agree.mapM (Twins.forall₂_twin hmid hk.entries)
    rintro ⟨key, a⟩ ⟨_, b⟩ ⟨rfl, hab⟩
    exact hab.variablesOfEntry key
  have horder := Agree.mapM_perm (fun e : String × Json => variablesOfEntry e.1 e.2) hperm
  refine (hpoint.comp horder).map ?_
  rintro vss wss ⟨mss, -, hvss, hwss⟩
  exact Undescribed.correspondByName (List.rel_flatten hvss) hwss.flatten

theorem Twin.variableSection {a b : Json} (h : Twin a b) :
    Agree (CorrespondByName Variable.Alike Variable.name Variable.name) (variableSection a).2
      (variableSection b).2 := by
  have hobject := (h.object "variables" "variables").bind fun _ _ hes => hes.variables
  have hkind := h.reordered.kindName_eq
  rw [variableSection_result, variableSection_result]
  cases a with
  | null =>
      cases b with
      | null => exact .done fun _ => .nil
      | _ => simp [Json.kindName] at hkind
  | _ =>
      cases b with
      | null => simp [Json.kindName] at hkind
      | _ => exact hobject

/-! ## Functions -/

theorem Twin.shownLabel {a b : Json} (h : Twin a b) :
    Agree (fun _ _ => True) (shownLabel a) (Decode.shownLabel b) := by
  refine .of_exists_ok_iff ?_
  rw [exists_shownLabel_iff, exists_shownLabel_iff, h.reordered.inLimits_iff h.keysOnce]

theorem Twin.argumentName {a b : Json} (h : Twin a b) (index : Nat) :
    Agree (fun _ _ => True) (argumentName index a) (Decode.argumentName index b) := by
  unfold Decode.argumentName
  rw [h.reordered.truthy_eq]
  split
  · exact h.shownLabel
  · exact .done trivial

theorem Twins.namespaceName {es fs : Entries} (h : Twins es fs) (index : Nat) :
    Agree (fun _ _ => True) (namespaceName index es) (Decode.namespaceName index fs) := by
  have hrel := h.entryOf? "namespace"
  unfold Decode.namespaceName
  generalize TemplateDocs.entryOf? "namespace" es = x at hrel
  generalize TemplateDocs.entryOf? "namespace" fs = y at hrel
  cases hrel with
  | none => exact .done trivial
  | some hab => exact hab.shownLabel

/-- The label of a parameter; without one it is empty. -/
theorem Twins.label {es fs : Entries} (h : Twins es fs) :
    Twin ((TemplateDocs.entryOf? "name" es).getD (.text ""))
      ((TemplateDocs.entryOf? "name" fs).getD (.text "")) := by
  have hrel := h.entryOf? "name"
  generalize TemplateDocs.entryOf? "name" es = x at hrel
  generalize TemplateDocs.entryOf? "name" fs = y at hrel
  cases hrel with
  | none => exact ⟨.same _, .text _⟩
  | some hab => exact hab

theorem arguments_agree {xs ys : List Json} (h : Forall₂ Twin xs ys) (p q : String) :
    ∀ index, Agree (fun _ _ => True) (arguments p index xs) (arguments q index ys) := by
  induction h with
  | nil => exact fun _ => .done trivial
  | @cons a b xs ys hab _ ih =>
      intro index
      refine (hab.object _ _).bind fun es fs hes => ?_
      refine (hes.label.argumentName index).bind fun known known' _ => ?_
      refine (hes.definitionOf _ _).bind fun own own' _ => ?_
      exact (ih (index + 1)).bind fun _ _ _ => .done trivial

theorem Twin.argumentList {a b : Json} (h : Twin a b) (p q : String) :
    Agree (Forall₂ Twin) (argumentList p a) (Decode.argumentList q b) := by
  have htruthy := h.reordered.truthy_eq
  unfold Decode.argumentList
  rw [htruthy]
  split
  · cases a with
    | array xs =>
        cases b with
        | array ys => exact .done h.items
        | _ => cases h.reordered
    | _ =>
        cases b with
        | array ys => cases h.reordered
        | _ => exact .failed _ _
  · exact .done .nil

theorem Twin.returned {a b : Json} (h : Twin a b) (p q : String) :
    Agree Definition.Alike (returned p a) (Decode.returned q b) := by
  have hdefinition := h.definition p q
  have hkind := h.reordered.kindName_eq
  cases a with
  | null =>
      cases b with
      | null => exact .done ⟨rfl, rfl, rfl, ⟨.none, rfl, rfl, rfl, rfl⟩, rfl⟩
      | _ => simp [Json.kindName] at hkind
  | _ =>
      cases b with
      | null => simp [Json.kindName] at hkind
      | _ => exact hdefinition

theorem Twin.function {a b : Json} (h : Twin a b) (p q name : String) :
    Agree UserFunction.Alike (function p name a) (Decode.function q name b) := by
  refine (h.object p q).bind fun es fs hes => ?_
  refine ((hes.field "parameters").argumentList p q).bind fun xs ys hxs => ?_
  refine (arguments_agree hxs p q 0).bind fun arguments arguments' _ => ?_
  refine ((hes.field "output").returned _ _).bind fun output output' houtput => ?_
  refine ((hes.field "metadata").metadata _ _).bind fun metadata metadata' hmetadata => ?_
  exact .done ⟨rfl, houtput, hmetadata⟩

theorem Twins.member {es fs : Entries} (h : Twins es fs) {a b : Json} (hab : Twin a b) (index : Nat)
    (name : String) :
    Agree UserFunction.Alike (member index es name a) (Decode.member index fs name b) :=
  (h.namespaceName index).bind fun _ _ _ => hab.function _ _ name

theorem Twin.members {a b : Json} (h : Twin a b) (index : Nat) :
    Agree (CorrespondByName UserFunction.Alike UserFunction.name UserFunction.name)
      (members index a) (Decode.members index b) := by
  refine (h.object _ _).bind fun es fs hes => ?_
  refine (hes.entriesUnder "members").bind fun under under' hunder => ?_
  exact hunder.mapM (fun key _ _ hab => hes.member hab index key) (fun _ _ _ => member_name)
    fun _ _ hf => hf.name

theorem namespaces_agree {xs ys : List Json} (h : Forall₂ Twin xs ys) :
    ∀ index, Agree (CorrespondByName UserFunction.Alike UserFunction.name UserFunction.name)
      (namespaces index xs) (namespaces index ys) := by
  induction h with
  | nil => exact fun _ => .done fun _ => .nil
  | cons hab _ ih =>
      intro index
      rw [namespaces_cons, namespaces_cons]
      refine (hab.members index).bind fun own own' hown => ?_
      refine (ih (index + 1)).bind fun others others' hothers => ?_
      exact .done (hown.append hothers)

theorem Twin.functions {a b : Json} (h : Twin a b) :
    Agree (CorrespondByName UserFunction.Alike UserFunction.name UserFunction.name) (functions a)
      (Decode.functions b) := by
  cases a with
  | null =>
      cases b with
      | null => exact .done fun _ => .nil
      | _ => cases h.reordered
  | array xs =>
      cases b with
      | array ys => exact namespaces_agree h.items 0
      | _ => cases h.reordered
  | _ => obtain ⟨hab, -⟩ := h; cases hab <;> exact .failed _ _

/-! ## The document -/

theorem Twins.addEach {α : Type} {R : α → α → Prop} {name : α → String} {es fs : Entries}
    {decode : String → Json → Except DecodeError α} {add : Template → List α → Template}
    {t u : Template} (h : Twins es fs) (key : String)
    (hdecode : ∀ key a b, Twin a b → Agree R (decode key a) (decode key b))
    (hname : ∀ key a x, decode key a = .ok x → name x = key) (hR : ∀ x y, R x y → name x = name y)
    (hadd : ∀ xs ys, CorrespondByName R name name xs ys → (add t xs).Corresponding (add u ys)) :
    Agree Template.Corresponding (addEach es key decode add t).result
      (Decode.addEach fs key decode add u).result := by
  rw [addEach_result, addEach_result]
  refine (h.entriesUnder key).bind fun under under' hunder => ?_
  refine (hunder.mapM hdecode hname hR).bind fun xs ys hxs => ?_
  exact .done (hadd xs ys hxs)

theorem Twins.addParameters {es fs : Entries} (h : Twins es fs) {t u : Template}
    (htu : t.Corresponding u) :
    Agree Template.Corresponding (addParameters es t).result (Decode.addParameters fs u).result :=
  h.addEach "parameters" (fun key _ _ hab => hab.parameter key) (fun _ _ _ => parameter_name)
    (fun _ _ hp => hp.entity.name)
    fun _ _ hxs => { htu with parameters := htu.parameters.append hxs }

theorem Twins.addDataTypes {es fs : Entries} (h : Twins es fs) {t u : Template}
    (htu : t.Corresponding u) :
    Agree Template.Corresponding (addDataTypes es t).result (Decode.addDataTypes fs u).result :=
  h.addEach "definitions" (fun key _ _ hab => hab.dataType key) (fun _ _ _ => dataType_name)
    (fun _ _ hd => hd.name_eq) fun _ _ hxs => { htu with dataTypes := htu.dataTypes.append hxs }

theorem Twins.addOutputs {es fs : Entries} (h : Twins es fs) {t u : Template}
    (htu : t.Corresponding u) :
    Agree Template.Corresponding (addOutputs es t).result (Decode.addOutputs fs u).result :=
  h.addEach "outputs" (fun key _ _ hab => hab.output key) (fun _ _ _ => entity_name)
    (fun _ _ ho => ho.name) fun _ _ hxs => { htu with outputs := htu.outputs.append hxs }

theorem Twins.addVariables {es fs : Entries} (h : Twins es fs) {t u : Template}
    (htu : t.Corresponding u) :
    Agree Template.Corresponding (addVariables es t).result (Decode.addVariables fs u).result := by
  rw [addVariables_result, addVariables_result]
  refine (h.field "variables").variableSection.bind fun vs ws hvs => ?_
  exact .done { htu with vars := htu.vars.append hvs }

theorem Twins.addFunctions {es fs : Entries} (h : Twins es fs) {t u : Template}
    (htu : t.Corresponding u) :
    Agree Template.Corresponding (addFunctions es t).result (Decode.addFunctions fs u).result := by
  rw [addFunctions_result, addFunctions_result]
  refine (h.field "functions").functions.bind fun xs ys hxs => ?_
  exact .done { htu with functions := htu.functions.append hxs }

theorem Twins.setMetadata {es fs : Entries} (h : Twins es fs) {t u : Template}
    (htu : t.Corresponding u) :
    Agree Template.Corresponding (setMetadata es t).result (Decode.setMetadata fs u).result := by
  have hrel := h.entryOf? "metadata"
  rw [setMetadata_result, setMetadata_result]
  generalize TemplateDocs.entryOf? "metadata" es = x at hrel
  generalize TemplateDocs.entryOf? "metadata" fs = y at hrel
  cases hrel with
  | none => exact .done htu
  | some hab =>
      refine (hab.metadata _ _).bind fun found found' hfound => ?_
      exact .done { htu with metadata := hfound }

/-- Decoding documents that differ in the order of keys fails for both, or gives templates that are
alike name by name. -/
theorem Twin.decode {a b : Json} (h : Twin a b) {t u : Template} (htu : t.Corresponding u) :
    Agree Template.Corresponding (t.decode a).result (u.decode b).result := by
  rw [decode_result, decode_result]
  refine (h.object _ _).bind fun es fs hes => ?_
  refine (hes.addParameters htu).bind fun t u htu => ?_
  refine (hes.addDataTypes htu).bind fun t u htu => ?_
  refine (hes.addVariables htu).bind fun t u htu => ?_
  refine (hes.addOutputs htu).bind fun t u htu => ?_
  refine (hes.addFunctions htu).bind fun t u htu => ?_
  refine (hes.setMetadata htu).bind fun t u htu => ?_
  exact .done htu.sort

end TemplateDocs.Decode
