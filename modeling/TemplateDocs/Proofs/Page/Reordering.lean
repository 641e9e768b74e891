import Mathlib
import TemplateDocs.Proofs.Json.Reader
import TemplateDocs.Proofs.Page.Alike
import TemplateDocs.Proofs.Template.Parse
import TemplateDocs.Proofs.Template.Reordering
import TemplateDocs.Proofs.Text.Utf8

/-! # Pages of reordered documents

The order in which a compiled template lists its keys does not show on the page.
-/

namespace TemplateDocs

theorem compiledDocument_agree {d₁ d₂ : Json} {b₁ b₂ : ByteArray} (h₁ : d₁.HeldBy b₁)
    (h₂ : d₂.HeldBy b₂) (h : d₁.Reordered d₂) (name : String) :
    Agree Decode.Twin (compiledDocument name (.ok b₁)) (compiledDocument name (.ok b₂)) := by
  have hkeys : d₁.KeysOnce := by
    obtain ⟨text, -, hdoc⟩ := h₁
    exact Json.read_keysOnce hdoc
  have htwin : Decode.Twin d₁ d₂ := ⟨h, hkeys⟩
  have hobject := htwin.object "template" "template"
  rw [compiledDocument_held h₁, compiledDocument_held h₂]
  generalize Decode.object "template" d₁ = x at hobject
  generalize Decode.object "template" d₂ = y at hobject
  cases hobject with
  | failed => exact .failed _ _
  | done => exact .done htwin

theorem ofDocument_agree {d₁ d₂ : Json} (h : Decode.Twin d₁ d₂) (name : String) (found : Findings) :
    Agree Template.Alike (Template.ofDocument name found d₁).result
      (Template.ofDocument name found d₂).result := by
  have hstart : Template.Corresponding { fileName := name } { fileName := name } :=
    ⟨rfl, rfl, rfl, fun _ => .nil, fun _ => .nil, fun _ => .nil, fun _ => .nil, fun _ => .nil, rfl⟩
  have hdecode := h.decode hstart
  unfold Template.ofDocument
  dsimp only
  generalize (Template.decode { fileName := name } d₁).result = x at hdecode
  generalize (Template.decode { fileName := name } d₂).result = y at hdecode
  cases hdecode with
  | failed => exact .failed _ _
  | done htu => exact .done (htu.merge_alike found)

theorem parse_agree {d₁ d₂ : Json} {b₁ b₂ : ByteArray} (h₁ : d₁.HeldBy b₁) (h₂ : d₂.HeldBy b₂)
    (h : d₁.Reordered d₂) (sourceName : String) (source : Contents) (compiledName : String) :
    Agree Template.Alike (Template.parse sourceName source compiledName (.ok b₁)).result
      (Template.parse sourceName source compiledName (.ok b₂)).result := by
  have hfound := Agree.of_eq (R := Eq) (fun _ => rfl)
    (Eq.refl (Findings.ofFile true sourceName source))
  simp only [Template.parse, Outcome.bind_result]
  refine hfound.bind ?_
  rintro found _ rfl
  refine (compiledDocument_agree h₁ h₂ h compiledName).bind fun d₁ d₂ htwin => ?_
  exact ofDocument_agree htwin sourceName found

/-- Whatever the source, and whichever sections and columns are asked for, compiled documents that
differ only in the order of keys, at any depth, have the same page, or neither has one. -/
theorem page_eq_of_reordered {d₁ d₂ : Json} {b₁ b₂ : ByteArray} (h₁ : d₁.HeldBy b₁)
    (h₂ : d₂.HeldBy b₂) (h : d₁.Reordered d₂) (sourceName : String) (source : Contents)
    (compiledName : String) (requests : Option (List Page.Request)) (withExtras : Bool) :
    ((Template.parse sourceName source compiledName (.ok b₁)).result >>= fun t =>
        Page.documentOf (some t) requests withExtras).toOption =
      ((Template.parse sourceName source compiledName (.ok b₂)).result >>= fun t =>
        Page.documentOf (some t) requests withExtras).toOption := by
  have hparse := parse_agree h₁ h₂ h sourceName source compiledName
  refine Agree.toOption_eq (hparse.bind fun t u htu => ?_)
  exact Agree.of_eq (fun _ => rfl) (Page.document_eq_of_alike htu _ withExtras)

/-- Two outputs listed in either order, with the keys of one of them in either order as well. -/
theorem page_eq_of_reordered_outputs :
    ((Template.parse "main.bicep" (.ok (Text.encode "")) "main.json" (.ok (Text.encode
        "\x7b\"outputs\": \x7b\"a\": \x7b\"type\": \"int\", \"minValue\": 1\x7d, \"b\": \x7b\x7d\x7d\x7d"))).result >>=
        fun t => Page.documentOf (some t) none true).toOption =
      ((Template.parse "main.bicep" (.ok (Text.encode "")) "main.json" (.ok (Text.encode
        "\x7b\"outputs\": \x7b\"b\": \x7b\x7d, \"a\": \x7b\"minValue\": 1, \"type\": \"int\"\x7d\x7d\x7d"))).result >>=
        fun t => Page.documentOf (some t) none true).toOption := by
  let a : Json := .object [("type", .text "int"), ("minValue", .int 1)]
  let a' : Json := .object [("minValue", .int 1), ("type", .text "int")]
  have ha : a.Reordered a' := .object rfl (.cons (.same _) (.cons (.same _) .nil)) (.swap _ _ _)
  have houtputs : Json.Reordered (.object [("a", a), ("b", .object [])])
      (.object [("b", .object []), ("a", a')]) :=
    @Json.Reordered.object _ [("a", a'), ("b", .object [])] _ rfl (.cons ha (.cons (.same _) .nil))
      (.swap _ _ _)
  have hdocuments : Json.Reordered
      (.object [("outputs", .object [("a", a), ("b", .object [])])])
      (.object [("outputs", .object [("b", .object []), ("a", a')])]) :=
    @Json.Reordered.object _ [("outputs", .object [("b", .object []), ("a", a')])] _ rfl
      (.cons houtputs .nil) (.refl _)
  exact page_eq_of_reordered ⟨_, Text.decode?_encode _, by cbv⟩ ⟨_, Text.decode?_encode _, by cbv⟩
    hdocuments "main.bicep" (.ok (Text.encode "")) "main.json" none true

end TemplateDocs
