import TemplateDocs.Proofs.Value.Shown
import TemplateDocs.Template.Decode

/-! # Decoding as one computation

What a decoding gives in the end, the warnings and the parts before an error aside, is what its
sections give one after the other.
-/

namespace TemplateDocs

theorem Decoding.andThen_result (d : Decoding) (next : Template → Decoding) :
    (d.andThen next).result = d.result >>= fun t => (next t).result := by
  cases h : d.error with
  | none => simp only [Decoding.andThen, Decoding.result, h, bind, Except.bind]
  | some e => simp only [Decoding.andThen, Decoding.result, h, bind, Except.bind]

namespace Decode

/-! ## Names -/

theorem entity_name {p name : String} {value : Json} {e : Entity}
    (h : entity p name value = .ok e) : e.name = name := by
  obtain ⟨d, -, hd⟩ := bind_eq_ok_iff.mp h
  cases hd
  rfl

theorem parameter_name {name : String} {value : Json} {p : Parameter}
    (h : parameter name value = .ok p) : p.name = name := by
  obtain ⟨e, he, hp⟩ := bind_eq_ok_iff.mp h
  cases hp
  exact entity_name he

theorem output_name {name : String} {value : Json} {e : Entity}
    (h : output name value = .ok e) : e.name = name :=
  entity_name h

theorem dataType_name {name : String} {value : Json} {d : DataType}
    (h : dataType name value = .ok d) : d.name = name := by
  obtain ⟨entries, -, h⟩ := bind_eq_ok_iff.mp h
  obtain ⟨own, -, h⟩ := bind_eq_ok_iff.mp h
  obtain ⟨under, -, h⟩ := bind_eq_ok_iff.mp h
  obtain ⟨properties, -, h⟩ := bind_eq_ok_iff.mp h
  cases h
  rfl

theorem function_name {p name : String} {value : Json} {f : UserFunction}
    (h : function p name value = .ok f) : f.name = name := by
  obtain ⟨entries, -, h⟩ := bind_eq_ok_iff.mp h
  obtain ⟨values, -, h⟩ := bind_eq_ok_iff.mp h
  obtain ⟨arguments, -, h⟩ := bind_eq_ok_iff.mp h
  obtain ⟨output, -, h⟩ := bind_eq_ok_iff.mp h
  obtain ⟨metadata, -, h⟩ := bind_eq_ok_iff.mp h
  cases h
  rfl

/-! ## Functions -/

theorem argumentList_eq_ok {path : String} {v : Json} {values : List Json}
    (h : argumentList path v = .ok values) : values = v.items?.getD [] := by
  unfold argumentList at h
  cases v with
  | array items =>
      split at h
      case isTrue => exact (Except.ok.inj h).symm
      case isFalse hempty =>
        cases h
        cases items with
        | nil => rfl
        | cons => exact absurd rfl hempty
  | _ =>
      split at h
      case isTrue => cases h
      case isFalse => exact (Except.ok.inj h).symm

/-! ## Namespaces -/

theorem exists_shownLabel_iff {label : Json} : (∃ s, shownLabel label = .ok s) ↔ label.InLimits := by
  rw [← Value.exists_display_ofJson_iff, shownLabel]
  cases (Value.ofJson label).display <;> simp [Except.mapError]

/-- A function of a namespace. -/
def member (index : Nat) (entries : Entries) (name : String) (value : Json) :
    Except DecodeError UserFunction := do
  let label ← namespaceName index entries
  function ("functions." ++ label ++ "." ++ name) name value

/-- The functions of one namespace. -/
def members (index : Nat) (value : Json) : Except DecodeError (List UserFunction) := do
  let entries ← object ("functions[" ++ toString index ++ "]") value
  let under ← entriesUnder entries "members"
  under.mapM fun e => member index entries e.1 e.2

theorem namespaces_cons (index : Nat) (v : Json) (rest : List Json) :
    namespaces index (v :: rest) =
      members index v >>= fun own => namespaces (index + 1) rest >>= fun others =>
        pure (own ++ others) := by
  simp only [namespaces, members, bind_assoc]
  rfl

theorem member_name {index : Nat} {entries : Entries} {name : String} {value : Json} {f : UserFunction}
    (h : member index entries name value = .ok f) : f.name = name := by
  obtain ⟨label, -, h⟩ := bind_eq_ok_iff.mp h
  exact function_name h

/-! ## Sections of named definitions -/

theorem mapM_eq_each {α : Type} (decode : String → Json → Except DecodeError α) (entries : Entries) :
    (entries.mapM fun e => decode e.1 e.2) =
      match each decode entries with
      | (items, none) => .ok items
      | (_, some e) => .error e := by
  induction entries with
  | nil => rfl
  | cons e entries ih =>
      obtain ⟨name, value⟩ := e
      rw [List.mapM_cons, each]
      cases decode name value with
      | error e => rfl
      | ok item =>
          simp only [ih]
          rcases each decode entries with ⟨items, _ | e⟩ <;> rfl

theorem addEach_result {α : Type} (doc : Entries) (key : String)
    (decode : String → Json → Except DecodeError α) (add : Template → List α → Template)
    (t : Template) :
    (addEach doc key decode add t).result = do
      let entries ← entriesUnder doc key
      let items ← entries.mapM fun e => decode e.1 e.2
      return add t items := by
  unfold addEach
  cases entriesUnder doc key with
  | error e => rfl
  | ok entries =>
      simp only [bind, Except.bind, mapM_eq_each]
      rcases each decode entries with ⟨items, _ | e⟩ <;> rfl

/-! ## Variables -/

/-- The variables that one entry stands for. -/
def variablesOfEntry (name : String) (value : Json) : Except DecodeError (List Variable) :=
  match copyList? name value with
  | some loops => copies 0 loops
  | none =>
    if isReserved name || isInjected name then .ok []
    else .ok [{ name, value := Value.ofJson value }]

theorem variablesOf_result (entries : Entries) :
    (variablesOf entries).2 =
      (entries.mapM fun e => variablesOfEntry e.1 e.2).map List.flatten := by
  induction entries with
  | nil => rfl
  | cons e entries ih =>
      obtain ⟨name, value⟩ := e
      rw [List.mapM_cons, variablesOf, variablesOfEntry]
      cases copyList? name value with
      | some loops =>
          dsimp only
          cases copies 0 loops with
          | error e => rfl
          | ok made =>
              simp only [ih]
              cases entries.mapM fun e => variablesOfEntry e.1 e.2 <;> rfl
      | none =>
          simp only [ih]
          cases entries.mapM fun e => variablesOfEntry e.1 e.2 <;>
            cases isReserved name <;> cases isInjected name <;> rfl

theorem variableSection_result (value : Json) :
    (variableSection value).2 =
      match value with
      | .null => .ok []
      | value => object "variables" value >>= fun entries =>
          (entries.mapM fun e => variablesOfEntry e.1 e.2).map List.flatten := by
  cases value with
  | null => rfl
  | object entries => exact variablesOf_result entries
  | _ => rfl

theorem addVariables_result (doc : Entries) (t : Template) :
    (addVariables doc t).result = do
      let items ← (variableSection (field doc "variables")).2
      return { t with vars := t.vars ++ items } := by
  unfold addVariables
  rcases variableSection (field doc "variables") with ⟨warnings, e | items⟩ <;> rfl

/-! ## Functions and metadata of the template -/

theorem addFunctions_result (doc : Entries) (t : Template) :
    (addFunctions doc t).result = do
      let items ← functions (field doc "functions")
      return { t with functions := t.functions ++ items } := by
  unfold addFunctions
  cases functions (field doc "functions") <;> rfl

theorem setMetadata_result (doc : Entries) (t : Template) :
    (setMetadata doc t).result =
      match entryOf? "metadata" doc with
      | none => .ok t
      | some value => do
        let found ← metadata "metadata" value
        return { t with metadata := found } := by
  unfold setMetadata
  cases entryOf? "metadata" doc with
  | none => rfl
  | some value => cases h : metadata "metadata" value <;> simp [h] <;> rfl

/-! ## The document -/

/-- A document is decoded by decoding its sections one after the other and sorting the result. -/
theorem decode_result (t : Template) (document : Json) :
    (t.decode document).result = do
      let doc ← object "template" document
      let t ← (addParameters doc t).result
      let t ← (addDataTypes doc t).result
      let t ← (addVariables doc t).result
      let t ← (addOutputs doc t).result
      let t ← (addFunctions doc t).result
      let t ← (setMetadata doc t).result
      return t.sort := by
  unfold Template.decode
  cases object "template" document with
  | error e => rfl
  | ok doc =>
      simp only [Decoding.andThen_result, bind_assoc]
      rfl

end Decode

end TemplateDocs
