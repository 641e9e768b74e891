import TemplateDocs.Page.Document
import TemplateDocs.Proofs.Page.Tables
import TemplateDocs.Proofs.Value.Literal
import TemplateDocs.Proofs.Value.RoundTrip

/-! # Which parsed templates are rendered

Whatever values a compiled document holds, they can be written as cells, and so can all that stands inside
them: no encoder meets a value of another kind, a key that is no text or keys without order. The one thing
that can keep a page from being rendered is a default value in the example of use whose literal takes more
calls than there is room for.
-/

namespace TemplateDocs

/-! ## Values -/

/-- The value has a text in a cell, and a literal as far as there is room for the calls that it takes. Its
keys, if it has keys, are texts in an order. -/
structure Value.Renders (v : Value) : Prop where
  cell : ∀ owner, ∃ text, Cell.json owner v = .ok text
  literal : ∀ owner room depth, (v.calls ≤ room ∧ ∃ text, Literal.value owner room depth v = .ok text) ∨
    (room < v.calls ∧ Literal.value owner room depth v = .error (.fault .tooDeep))
  ordered : ∀ entries, v = .dict entries → Key.ordered (entries.map Prod.fst) = true
  keys : ∀ entries, v = .dict entries → ∀ k ∈ entries.map Prod.fst, ∃ s, k = Key.text s

theorem Value.renders_ofJson {doc : Json} (h : doc.InLimits) : (Value.ofJson doc).Renders where
  cell owner := ⟨_, json_ofJson owner h⟩
  literal owner room depth := by
    rw [Value.literal_ofJson h.digits]
    by_cases hroom : (Value.ofJson doc).calls ≤ room
    · exact .inl ⟨hroom, _, if_pos hroom⟩
    · exact .inr ⟨Nat.lt_of_not_le hroom, if_neg hroom⟩
  ordered entries h := by
    cases doc with
    | object es =>
        cases h
        exact Value.ordered_ofEntries es
    | _ => cases h
  keys entries h := by
    cases doc with
    | object es =>
        cases h
        intro k hk
        exact Value.exists_text_of_mem_ofEntries hk
    | _ => cases h

/-- The values that constraints carry. -/
def Constraints.values (c : Constraints) : List Value :=
  c.allowedValues.getD []

/-- The values that a template carries to its page. -/
def Template.values (t : Template) : List Value :=
  (t.parameters.flatMap fun p => p.default :: p.constraints.values) ++
    t.dataTypes.flatMap fun d => d.constraints.values ++ d.properties.flatMap fun p => p.constraints.values

theorem Constraints.FromDocument.values {c : Constraints} (h : c.FromDocument) {v : Value}
    (hv : v ∈ c.values) : ∃ doc, v = Value.ofJson doc ∧ doc.InLimits := by
  unfold Constraints.values at hv
  cases hallowed : c.allowedValues with
  | none => simp [hallowed] at hv
  | some values =>
      obtain ⟨items, rfl, hitems⟩ := h.allowed values hallowed
      rw [hallowed, Option.getD_some, Value.ofItems_eq_map] at hv
      obtain ⟨doc, hdoc, rfl⟩ := List.mem_map.mp hv
      exact ⟨doc, rfl, hitems doc hdoc⟩

theorem Template.FromDocument.values {t : Template} (h : t.FromDocument) {v : Value}
    (hv : v ∈ t.values) : ∃ doc, v = Value.ofJson doc ∧ doc.InLimits := by
  simp only [Template.values, List.mem_append, List.mem_flatMap, List.mem_cons] at hv
  rcases hv with ⟨p, hp, rfl | hallowed⟩ | ⟨d, hd, hallowed | ⟨p, hp, hallowed⟩⟩
  · exact h.defaults p hp
  · exact (h.parameters p hp).values hallowed
  · exact (h.dataTypes d hd).values hallowed
  · exact (h.properties d hd p hp).values hallowed

/-! ## Sections -/

theorem parse_fromDocument {sourceName compiledName : String} {source compiled : Contents}
    {t : Template} (h : (Template.parse sourceName source compiledName compiled).result = .ok t) :
    t.FromDocument := by
  obtain ⟨text, found, doc, u, -, hscan, hdoc, hdecode, rfl⟩ := parse_eq_ok h
  obtain ⟨-, rfl⟩ := Source.scanLines_eq_ok_iff.mp hscan
  exact (merge_lists _ hdoc.keysOnce hdecode).fromDocument hdoc.inLimits

/-- There is room for the calls of every literal in the example of use. -/
def Template.HasRoom (t : Template) : Prop :=
  ∀ p ∈ t.parameters, Page.mustGive p = false → p.default.calls ≤ callLimit

instance (t : Template) : Decidable t.HasRoom :=
  inferInstanceAs (Decidable (∀ p ∈ t.parameters, Page.mustGive p = false → p.default.calls ≤ callLimit))

namespace Page

variable {t : Template}

theorem optionalLine_ofJson {p : Parameter} {doc : Json} (hdoc : p.default = Value.ofJson doc)
    (hlimits : doc.InLimits) :
    optionalLine p = if p.default.calls ≤ callLimit then
      .ok ("    " ++ p.name ++ ": " ++ Literal.indentLines "    " (Value.written 0 doc))
    else .error (.fault .tooDeep) := by
  rw [optionalLine, Literal.ofValue, hdoc, Value.literal_ofJson hlimits.digits]
  split <;> rfl

theorem exists_optionalLine_iff {p : Parameter}
    (h : ∃ doc, p.default = Value.ofJson doc ∧ doc.InLimits) :
    (∃ line, optionalLine p = .ok line) ↔ p.default.calls ≤ callLimit := by
  obtain ⟨doc, hdoc, hlimits⟩ := h
  rw [optionalLine_ofJson hdoc hlimits]
  by_cases hroom : p.default.calls ≤ callLimit
  · exact iff_of_true ⟨_, if_pos hroom⟩ hroom
  · rw [if_neg hroom]
    exact iff_of_false (by simp) hroom

theorem optionalLine_eq_error {p : Parameter} {e : Failure}
    (h : ∃ doc, p.default = Value.ofJson doc ∧ doc.InLimits) (he : optionalLine p = .error e) :
    e = .fault .tooDeep := by
  obtain ⟨doc, hdoc, hlimits⟩ := h
  rw [optionalLine_ofJson hdoc hlimits] at he
  split at he
  · cases he
  · exact (Except.error.inj he).symm

theorem mem_optional_iff {p : Parameter} :
    p ∈ t.parameters.filter (fun p => !mustGive p) ↔ p ∈ t.parameters ∧ mustGive p = false := by
  rw [List.mem_filter, Bool.not_eq_true']

/-- The example of use is there exactly if there is room for its literals. -/
theorem exists_usageText_iff
    (h : ∀ p ∈ t.parameters, ∃ doc, p.default = Value.ofJson doc ∧ doc.InLimits) :
    (∃ text, usageText t = .ok text) ↔ t.HasRoom := by
  have hlines : (∃ text, usageText t = .ok text) ↔
      ∃ lines, (t.parameters.filter fun p => !mustGive p).mapM optionalLine = .ok lines := by
    rw [usageText]
    cases (t.parameters.filter fun p => !mustGive p).mapM optionalLine <;>
      simp [bind, Except.bind, pure, Except.pure]
  rw [hlines, exists_mapM_eq_ok_iff]
  simp only [mem_optional_iff, and_imp]
  exact forall₂_congr fun p hp => forall_congr' fun _ => exists_optionalLine_iff (h p hp)

theorem usageText_eq_error {e : Failure} (h : t.FromDocument) (he : usageText t = .error e) :
    e = .fault .tooDeep := by
  rw [usageText] at he
  cases hlines : (t.parameters.filter fun p => !mustGive p).mapM optionalLine with
  | ok lines =>
      rw [hlines] at he
      cases he
  | error e' =>
      rw [hlines] at he
      cases he
      obtain ⟨before, p, after, hsplit, -, hp⟩ := mapM_eq_error_iff.mp hlines
      have hmem : p ∈ t.parameters.filter fun p => !mustGive p := by simp [hsplit]
      exact optionalLine_eq_error (h.defaults p (mem_optional_iff.mp hmem).1) hp

theorem exists_sectionText_iff (h : t.FromDocument) (w : Bool) (s : Section) :
    (∃ text, sectionText t w s = .ok text) ↔ (s = .usage → t.HasRoom) := by
  by_cases hdescription : s = .description
  · subst hdescription
    exact iff_of_true ⟨_, rfl⟩ (by simp)
  by_cases husage : s = .usage
  · subst husage
    exact (exists_usageText_iff h.defaults).trans (by simp)
  obtain ⟨tables, htables, -⟩ := tables_shows h w s
  rw [sectionText_tables t w hdescription husage, htables]
  exact iff_of_true ⟨_, rfl⟩ fun heq => absurd heq husage

theorem sectionText_eq_error {w : Bool} {s : Section} {e : Failure} (h : t.FromDocument)
    (he : sectionText t w s = .error e) : e = .fault .tooDeep := by
  by_cases husage : s = .usage
  · subst husage
    exact usageText_eq_error h he
  · obtain ⟨text, htext⟩ := (exists_sectionText_iff h w s).mpr fun heq => absurd heq husage
    rw [htext] at he
    cases he

/-! ## Pages -/

/-- A list of sections gives a page exactly if the example of use is not among them or there is room for
its literals. -/
theorem exists_document_iff (h : t.FromDocument) (sections : List Section) (w : Bool) :
    (∃ text, document t (sections.map .known) w = .ok text) ↔
      (.usage ∈ sections → t.HasRoom) := by
  have htexts : (∃ text, document t (sections.map .known) w = .ok text) ↔
      ∃ texts, (sections.map Request.known).mapM (requestText t w) = .ok texts := by
    rw [document]
    cases (sections.map Request.known).mapM (requestText t w) <;>
      simp [bind, Except.bind, pure, Except.pure]
  rw [htexts, exists_mapM_eq_ok_iff, List.forall_mem_map]
  constructor
  · exact fun hall husage => (exists_sectionText_iff h w .usage).mp (hall .usage husage) rfl
  · exact fun hroom s hs => (exists_sectionText_iff h w s).mpr fun heq => hroom (heq ▸ hs)

theorem document_eq_error {sections : List Section} {w : Bool} {e : Failure} (h : t.FromDocument)
    (he : document t (sections.map .known) w = .error e) : e = .fault .tooDeep := by
  rw [document] at he
  cases htexts : (sections.map Request.known).mapM (requestText t w) with
  | ok texts =>
      rw [htexts] at he
      cases he
  | error e' =>
      rw [htexts] at he
      cases he
      obtain ⟨before, request, after, hsplit, -, hrequest⟩ := mapM_eq_error_iff.mp htexts
      have hmem : request ∈ sections.map Request.known := by simp [hsplit]
      obtain ⟨s, -, rfl⟩ := List.mem_map.mp hmem
      exact sectionText_eq_error h hrequest

end Page

/-- A list of sections of a parsed template gives a page, with extra columns and without, exactly if the
example of use is not among the sections or every default value in it has a literal that takes no more calls
than there is room for; otherwise the end is that these stand too deep. Whatever stands inside the values of
the template has a text in a cell and, as far as there is room, a literal, and all keys in there are texts,
so that they have an order. -/
theorem parse_document_renders {sourceName compiledName : String} {source compiled : Contents}
    {t : Template} (h : (Template.parse sourceName source compiledName compiled).result = .ok t)
    (sections : Option (List Section)) (w : Bool) :
    ((∃ text, Page.documentOf (some t) (sections.map (List.map .known)) w = .ok text) ↔
      (.usage ∈ sections.getD Section.all → t.HasRoom)) ∧
    (∀ e, Page.documentOf (some t) (sections.map (List.map .known)) w = .error e →
      e = .fault .tooDeep) ∧
    ∀ v ∈ t.values, ∀ u : Value, u.PartOf v → u.Renders := by
  have hdocument := parse_fromDocument h
  have hrequests : Page.documentOf (some t) (sections.map (List.map .known)) w =
      Page.document t ((sections.getD Section.all).map .known) w := by
    cases sections <;> rfl
  rw [hrequests]
  refine ⟨Page.exists_document_iff hdocument _ w, fun e he => Page.document_eq_error hdocument he, ?_⟩
  intro v hv u hu
  obtain ⟨doc, hdoc, hlimits⟩ := hdocument.values hv
  obtain ⟨part, rfl, hpart⟩ := hu.exists_ofJson hdoc hlimits
  exact Value.renders_ofJson hpart

/-- A parameter whose default value and allowed values are nested. -/
def nestedDefault : String :=
  "\x7b\"parameters\": \x7b\"p\": \x7b\"defaultValue\": [\x7b\"a\": [1, null]\x7d], \"allowedValues\": [[[]]]\x7d\x7d\x7d"

theorem parse_document_renders_nested :
    ∃ t, (Template.parse "main.bicep" (.ok (Text.encode "")) "main.json"
        (.ok (Text.encode nestedDefault))).result = .ok t ∧
      (∃ text, Page.documentOf (some t) (some [.known .usage, .known .parameters]) true = .ok text) ∧
      t.values.map (fun v => (v.encode callLimit).toOption) =
        [some "[\x7b\"a\": [1, null]\x7d]", some "[[]]"] ∧
      ∀ v ∈ t.values, ∀ u : Value, u.PartOf v → u.Renders := by
  obtain ⟨t, ht⟩ := exists_eq_ok (x := (Template.parse "main.bicep" (.ok (Text.encode "")) "main.json"
    (.ok (Text.encode nestedDefault))).result) (by decide +kernel)
  have hvalues : (Template.parse "main.bicep" (.ok (Text.encode "")) "main.json"
      (.ok (Text.encode nestedDefault))).result.toOption.map
        (fun t => (decide t.HasRoom, t.values.map fun v => (v.encode callLimit).toOption)) =
      some (true, [some "[\x7b\"a\": [1, null]\x7d]", some "[[]]"]) := by decide +kernel
  rw [ht] at hvalues
  obtain ⟨hroom, htexts⟩ := Prod.mk.inj (Option.some.inj hvalues)
  obtain ⟨hrendered, -, hparts⟩ := parse_document_renders ht (some [.usage, .parameters]) true
  exact ⟨t, ht, hrendered.mpr fun _ => of_decide_eq_true hroom, htexts, hparts⟩

/-! ## Arrays that are too deep for a literal -/

/-- Arrays inside of an array, each of which holds the next one. -/
def nestedArrays : Nat → Json
  | 0 => .array []
  | inner + 1 => .array [nestedArrays inner]

theorem calls_nestedArrays (inner : Nat) : (Value.ofJson (nestedArrays inner)).calls = 2 * inner + 1 := by
  induction inner with
  | zero => rfl
  | succ inner ih =>
      change max (Value.ofJson (nestedArrays inner)).calls 0 + 2 = _
      rw [ih]
      omega

theorem depth_nestedArrays (inner : Nat) : (nestedArrays inner).depth ≤ inner + 1 := by
  induction inner with
  | zero => exact Nat.le_refl _
  | succ inner ih => exact Json.depth_array_le_iff.mpr (by simpa using ih)

theorem longest_nestedArrays (inner : Nat) : (nestedArrays inner).longest ≤ 0 := by
  induction inner with
  | zero => exact Nat.le_refl _
  | succ inner ih => exact Json.longest_array_le_iff.mpr (by simpa using ih)

theorem isExact_nestedArrays (inner : Nat) : (nestedArrays inner).isExact = true := by
  induction inner with
  | zero => rfl
  | succ inner ih => rw [nestedArrays, Json.isExact_array, List.all_cons, ih]; rfl

theorem keysOnce_nestedArrays (inner : Nat) : (nestedArrays inner).KeysOnce := by
  induction inner with
  | zero => exact .array (by simp)
  | succ inner ih => exact .array (by simpa using ih)

theorem sortKeys_nestedArrays (inner : Nat) : (nestedArrays inner).sortKeys = nestedArrays inner := by
  induction inner with
  | zero => rfl
  | succ inner ih => rw [nestedArrays, Json.sortKeys_array, List.map_cons, ih]; rfl

/-- A compiled template with one parameter and its default value. -/
def withDefault (v : Json) : Json :=
  .object [("parameters", .object [("p", .object [("defaultValue", v)])])]

/-- Its text is read as the template. -/
theorem read_withDefault {inner : Nat} (h : inner + 4 ≤ callLimit) :
    Json.read (Value.encoded (withDefault (nestedArrays inner))) =
      .ok (withDefault (nestedArrays inner)) := by
  have hsort (key : String) (v : Json) :
      (Json.object [(key, v)]).sortKeys = .object [(key, v.sortKeys)] := by
    rw [Json.sortKeys_object, sortByName, List.mergeSort_singleton]
    rfl
  have hkeys {key : String} {v : Json} (hv : v.KeysOnce) : (Json.object [(key, v)]).KeysOnce :=
    .object (by simp) (by simpa using hv)
  have hexact : (withDefault (nestedArrays inner)).isExact = true := by
    simp only [withDefault, Json.isExact_object, List.all_cons, List.all_nil, Bool.and_true,
      isExact_nestedArrays]
  have hdepth : (withDefault (nestedArrays inner)).depth ≤ inner + 1 + 1 + 1 + 1 := by
    simp only [withDefault, Json.depth_object_le_iff, List.forall_mem_singleton]
    exact depth_nestedArrays inner
  have hlongest : (withDefault (nestedArrays inner)).longest ≤ ({} : Json.Limits).digits := by
    refine le_trans ?_ (Nat.zero_le _)
    simp only [withDefault, Json.longest_object_le_iff, List.forall_mem_singleton]
    exact longest_nestedArrays inner
  have hread := Json.readWithin_encoded hexact
    (hkeys (hkeys (hkeys (keysOnce_nestedArrays inner)))) hlongest (hdepth.trans h)
  rwa [withDefault, hsort, hsort, hsort, sortKeys_nestedArrays] at hread

/-- With a source that declares nothing it is parsed as a template with that parameter. -/
theorem parse_withDefault {v : Json} {compiled : Contents} (h : HoldsDocument compiled (withDefault v)) :
    ∃ t, (Template.parse "main.bicep" (.ok (Text.encode "")) "main.json" compiled).result = .ok t ∧
      ∃ p ∈ t.parameters, p.default = Value.ofJson v := by
  obtain ⟨u, hu⟩ : ∃ u, (Template.decode { fileName := "main.bicep" } (withDefault v)).result = .ok u :=
    ⟨_, rfl⟩
  have hkeys := h.keysOnce
  obtain ⟨bytes, rfl, hheld⟩ := h
  have hsource : Findings.ofFile true "main.bicep" (.ok (Text.encode "")) = .ok {} := by
    simp only [Findings.ofFile, Text.decode?_encode]
    cbv
  have hcompiled : compiledDocument "main.json" (.ok bytes) = .ok (withDefault v) := by
    rw [compiledDocument_held hheld]
    rfl
  have hnothing : Findings.sorted {} = {} := by simp [Findings.sorted, sortByName]
  have hlists := hnothing ▸ merge_lists {} hkeys hu
  obtain ⟨found, hmade, harranged⟩ := hlists.parameters.arranged
  obtain ⟨p, others, hp, -, rfl⟩ := List.forall₂_cons_left_iff.mp hmade
  refine ⟨u.merge {}, ?_, p, harranged.perm.mem_iff.mpr List.mem_cons_self, ?_⟩
  · simp only [Template.parse, Outcome.bind_result, hsource, hcompiled]
    change (Template.ofDocument "main.bicep" {} (withDefault v)).result = _
    simp only [Template.ofDocument, hu]
  · obtain ⟨e, -, he⟩ := bind_eq_ok_iff.mp hp
    cases he
    rfl

/-- Five hundred arrays inside of each other are read, and a table shows them, but there is no room for their
literal. -/
theorem deep_default_has_no_page :
    ∃ t, (Template.parse "main.bicep" (.ok (Text.encode "")) "main.json"
        (.ok (Text.encode (Value.encoded (withDefault (nestedArrays 499)))))).result = .ok t ∧
      (∃ text, Page.documentOf (some t) (some [.known .parameters]) false = .ok text) ∧
      Page.documentOf (some t) (some [.known .usage]) false = .error (.fault .tooDeep) := by
  have hlimit : 499 + 4 ≤ callLimit := by decide
  have hread := read_withDefault hlimit
  obtain ⟨t, ht, p, hp, hdefault⟩ := parse_withDefault ⟨_, rfl, _, Text.decode?_encode _, hread⟩
  have hdocument := parse_fromDocument ht
  have hfull : ¬ t.HasRoom := by
    intro hroom
    have hgiven : Page.mustGive p = false := by
      rw [Page.mustGive, isRequired, hdefault]
      rfl
    have hcalls := hroom p hp hgiven
    rw [hdefault, calls_nestedArrays] at hcalls
    exact absurd hcalls (by decide)
  refine ⟨t, ht, (Page.exists_document_iff hdocument [.parameters] false).mpr (by simp), ?_⟩
  change Page.document t ([Section.usage].map .known) false = _
  cases hpage : Page.document t ([Section.usage].map .known) false with
  | ok text =>
      have hroom := (Page.exists_document_iff hdocument [.usage] false).mp ⟨text, hpage⟩
      exact absurd (hroom List.mem_cons_self) hfull
  | error e => rw [Page.document_eq_error hdocument hpage]

end TemplateDocs
