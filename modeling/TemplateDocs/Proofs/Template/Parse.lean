import TemplateDocs.Proofs.Agreement
import TemplateDocs.Template.Parse

/-! # What parsing gives

A template is parsed when its source can be scanned and its compiled document can be decoded; it is
then the decoded template merged with what was found.
-/

namespace TemplateDocs

theorem Outcome.bind_result {α β : Type} (o : Outcome α) (next : α → Outcome β) :
    (o >>= next).result = o.result >>= fun a => (next a).result := by
  obtain ⟨warnings, e | a⟩ := o <;> rfl

/-! ## Files -/

/-- A file that holds a text. -/
def HoldsText (contents : Contents) (text : String) : Prop :=
  ∃ bytes, contents = .ok bytes ∧ Text.decode? bytes = some text

/-- Bytes that hold a document. -/
def Json.HeldBy (doc : Json) (bytes : ByteArray) : Prop :=
  ∃ text, Text.decode? bytes = some text ∧ Json.read text = .ok doc

/-- A file that holds a document. -/
def HoldsDocument (contents : Contents) (doc : Json) : Prop :=
  ∃ bytes, contents = .ok bytes ∧ doc.HeldBy bytes

theorem ofFile_eq_ok {collectVariables : Bool} {name : String} {contents : Contents}
    {found : Findings} (h : Findings.ofFile collectVariables name contents = .ok found) :
    ∃ text, HoldsText contents text ∧ Source.scanFileText collectVariables text = .ok found := by
  unfold Findings.ofFile at h
  dsimp only at h
  split at h
  case h_1 e => cases hfault : e.fault? <;> simp [hfault] at h
  case h_2 bytes =>
    split at h
    case h_1 => cases h
    case h_2 text htext =>
      split at h
      case h_1 => cases h
      case h_2 found' hscan =>
        cases h
        exact ⟨text, ⟨bytes, rfl, htext⟩, hscan⟩

theorem compiledDocument_held {doc : Json} {bytes : ByteArray} (h : doc.HeldBy bytes)
    (name : String) :
    compiledDocument name (.ok bytes) =
      match Decode.object "template" doc with
      | .error e => .error e.failure
      | .ok _ => .ok doc := by
  obtain ⟨text, htext, hdoc⟩ := h
  unfold compiledDocument
  cases hobject : Decode.object "template" doc with
  | error e => simp only [htext, hdoc, hobject]
  | ok entries => simp only [htext, hdoc, hobject]

theorem compiledDocument_eq_ok {name : String} {contents : Contents} {doc : Json}
    (h : compiledDocument name contents = .ok doc) : HoldsDocument contents doc := by
  unfold compiledDocument at h
  dsimp only at h
  split at h
  case h_1 e => cases hfault : e.fault? <;> simp [hfault] at h
  case h_2 bytes =>
    split at h
    case h_1 => cases h
    case h_2 text htext =>
      split at h
      case h_1 => split at h <;> cases h
      case h_2 doc' hread =>
        split at h
        case h_1 => cases h
        case h_2 =>
          cases h
          exact ⟨bytes, rfl, text, htext, hread⟩

/-! ## Templates -/

theorem ofDocument_eq_ok {name : String} {found : Findings} {doc : Json} {t : Template}
    (h : (Template.ofDocument name found doc).result = .ok t) :
    ∃ u, (Template.decode { fileName := name } doc).result = .ok u ∧ t = u.merge found := by
  unfold Template.ofDocument at h
  dsimp only at h
  split at h
  case h_1 => cases h
  case h_2 u hu =>
    cases h
    exact ⟨u, hu, rfl⟩

theorem parse_eq_ok {sourceName compiledName : String} {source compiled : Contents} {t : Template}
    (h : (Template.parse sourceName source compiledName compiled).result = .ok t) :
    ∃ text found doc u, HoldsText source text ∧ Source.scanFileText true text = .ok found ∧
      HoldsDocument compiled doc ∧ (Template.decode { fileName := sourceName } doc).result = .ok u ∧
        t = u.merge found := by
  simp only [Template.parse, Outcome.bind_result] at h
  obtain ⟨found, hfound, h⟩ := bind_eq_ok_iff.mp h
  obtain ⟨doc, hdoc, h⟩ := bind_eq_ok_iff.mp h
  obtain ⟨text, htext, hscan⟩ := ofFile_eq_ok hfound
  obtain ⟨u, hu, ht⟩ := ofDocument_eq_ok h
  exact ⟨text, found, doc, u, htext, hscan, compiledDocument_eq_ok hdoc, hu, ht⟩

end TemplateDocs
