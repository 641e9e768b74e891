import Mathlib
import TemplateDocs.Proofs.Page.CellValues
import TemplateDocs.Proofs.Page.Rendering

/-! # The example of use and the table of parameters

Whether a parameter has to be given is told three times: by the word for its status, by the cell of its
default value and by its place in the example of use. The three agree, since neither the text of a value on
one line nor its literal is ever empty, and both say null for no value but null.
-/

namespace TemplateDocs

open List Text Value

/-! ## Texts of values other than null -/

/-- The text starts, and not as the word null does. -/
def OtherThanNull (s : String) : Prop :=
  ∃ c cs, s.toList = c :: cs ∧ c ≠ 'n'

section OtherThanNull

variable {s : String}

theorem OtherThanNull.ne_empty (h : OtherThanNull s) : s ≠ "" := by
  obtain ⟨c, cs, hs, -⟩ := h
  rintro rfl
  simp at hs

theorem OtherThanNull.ne_null (h : OtherThanNull s) : s ≠ "null" := by
  obtain ⟨c, cs, hs, hc⟩ := h
  rintro rfl
  simp at hs
  exact hc hs.1.symm

theorem OtherThanNull.append (h : OtherThanNull s) (rest : String) : OtherThanNull (s ++ rest) := by
  obtain ⟨c, cs, hs, hc⟩ := h
  exact ⟨c, cs ++ rest.toList, by rw [String.toList_append, hs, List.cons_append], hc⟩

/-- Moving lines in leaves the first character as it is. -/
theorem OtherThanNull.indentLines (h : OtherThanNull s) (indent : String) :
    OtherThanNull (Literal.indentLines indent s) := by
  obtain ⟨c, cs, hs, hc⟩ := h
  -- Also a line feed at the start would stay there: the blanks come after it.
  have hfirst : ∃ more, (if c == '\n' then '\n' :: indent.toList else [c]) = c :: more := by
    by_cases hfeed : c = '\n'
    · exact ⟨indent.toList, by simp [hfeed]⟩
    · exact ⟨[], by simp [hfeed]⟩
  obtain ⟨more, hmore⟩ := hfirst
  rw [Literal.indentLines, hs, List.flatMap_cons, hmore]
  exact ⟨c, _, String.toList_ofList, hc⟩

theorem otherThanNull_ofList {cs : List Char} (hne : cs ≠ []) (h : ∀ c ∈ cs, c ≠ 'n') :
    OtherThanNull (String.ofList cs) := by
  obtain ⟨c, rest, rfl⟩ := List.exists_cons_of_ne_nil hne
  exact ⟨c, rest, String.toList_ofList, h c List.mem_cons_self⟩

end OtherThanNull

theorem decimal_ne_nil (d : Decimal) : d.text ≠ [] := by
  unfold Decimal.text
  split
  · decide
  · dsimp only
    split
    case isTrue => split_ifs <;> simp
    case isFalse => simp

theorem otherThanNull_double (x : Double) : OtherThanNull (x.text jsonWords) := by
  cases x with
  | notANumber => exact ⟨'N', _, rfl, by decide⟩
  | infinite negative =>
      cases negative with
      | true => exact ⟨'-', _, rfl, by decide⟩
      | false => exact ⟨'I', _, rfl, by decide⟩
  | finite negative mantissa exponent =>
      -- Digits, signs, the point and the mark of the exponent: the letter n is none of them.
      have hdigits : OtherThanNull (String.ofList (Decimal.shortest mantissa exponent).text) := by
        apply otherThanNull_ofList (decimal_ne_nil _)
        apply decimal_forall_mem
        · rintro c hdigit rfl
          exact absurd hdigit (by decide)
        all_goals decide
      rw [Double.text]
      cases negative with
      | true => exact ⟨'-', _, String.toList_append, by decide⟩
      | false => simpa using hdigits

theorem otherThanNull_bool (b : Bool) : OtherThanNull (if b then "true" else "false") := by
  cases b with
  | true => exact ⟨'t', _, rfl, by decide⟩
  | false => exact ⟨'f', _, rfl, by decide⟩

theorem otherThanNull_int (n : Int) : OtherThanNull (toString n) := by
  obtain ⟨c, cs, hlist, hc⟩ := Literal.exists_toList_toString_int n
  refine ⟨c, cs, hlist, ?_⟩
  rintro rfl
  exact absurd hc (by decide)

/-- On one line every document but null has a text other than null. -/
theorem otherThanNull_encoded {doc : Json} (h : doc ≠ .null) : OtherThanNull (encoded doc) := by
  cases doc with
  | null => exact absurd rfl h
  | bool b => exact otherThanNull_bool b
  | int n => exact otherThanNull_int n
  | float x => exact otherThanNull_double x
  | text s => exact ⟨'"', _, String.toList_ofList, by decide⟩
  | array items =>
      rw [encoded_array, String.append_assoc]
      exact OtherThanNull.append ⟨'[', [], rfl, by decide⟩ _
  | object entries =>
      rw [encoded_object, String.append_assoc]
      exact OtherThanNull.append ⟨'\x7b', [], rfl, by decide⟩ _

theorem otherThanNull_block {opening : String} (h : OtherThanNull opening) (closing : String)
    (depth : Nat) (lines : List String) :
    OtherThanNull (Literal.block opening closing depth lines) := by
  simp only [Literal.block, String.append_assoc]
  exact h.append _

/-- Every document but null has a literal other than null. -/
theorem otherThanNull_written {doc : Json} (h : doc ≠ .null) (depth : Nat) :
    OtherThanNull (written depth doc) := by
  have hbracket : OtherThanNull "[" := ⟨'[', [], rfl, by decide⟩
  have hbrace : OtherThanNull "\x7b" := ⟨'\x7b', [], rfl, by decide⟩
  cases doc with
  | null => exact absurd rfl h
  | bool b => exact otherThanNull_bool b
  | int n => exact otherThanNull_int n
  | float x => exact otherThanNull_double x
  | text s => exact ⟨'\'', _, String.toList_ofList, by decide⟩
  | array items =>
      rw [written_array]
      split
      · exact hbracket.append "]"
      · exact otherThanNull_block hbracket _ _ _
  | object entries =>
      rw [written_object]
      split
      · exact hbrace.append "\x7d"
      · exact otherThanNull_block hbrace _ _ _

/-! ## What the example says -/

/-- What an example of use says about parameters: the names of those that have to be given, and the names
and values of the others. -/
structure Usage where
  required : List String
  optional : List (String × String)

/-- The text of the example: a line for each name that has to be given, and then an entry for each of the
others. -/
def Usage.text (u : Usage) : String :=
  join "\n" (
    ["## Usage", "", "Here is a basic example of how to use this Bicep module:", "", "```bicep",
      "module reference_name 'path_to_module | container_registry_reference' = \x7b",
      "  name: 'deployment_name'", "  params: \x7b", "    // Required parameters"] ++
    (u.required.map fun name => "    " ++ name ++ ":") ++ ["", "    // Optional parameters"] ++
    (u.optional.map fun e => "    " ++ e.1 ++ ": " ++ e.2) ++
    ["  \x7d", "\x7d", "```", "", Page.usageNote, ""])

/-- Each of the names stands in the example once, both groups are in the order of the names, and no value is
left out. -/
structure Usage.Covers (u : Usage) (names : List String) : Prop where
  required_order : u.required <+ names
  optional_order : u.optional.map Prod.fst <+ names
  all : u.required ++ u.optional.map Prod.fst ~ names
  once : names.Nodup
  values : ∀ e ∈ u.optional, e.2 ≠ ""

/-- The status and the default value of a parameter, as the table shows them, agree with the example. -/
structure Usage.Agrees (u : Usage) (name status default : String) : Prop where
  required_iff : status = "Required" ↔ name ∈ u.required
  empty_iff : default = "" ↔ name ∈ u.required
  null_iff : default = "null" ↔ (name, "null") ∈ u.optional

namespace Page

/-- The value that the example shows for a default value. -/
def usageValue (doc : Json) : String :=
  Literal.indentLines "    " (written 0 doc)

/-- The example for a list of parameters and the documents that their default values come from. -/
def usageOf (docs : Parameter → Json) (parameters : List Parameter) : Usage where
  required := (parameters.filter mustGive).map fun p => p.name
  optional := (parameters.filter fun p => !mustGive p).map fun p => (p.name, usageValue (docs p))

theorem optionalLine_eq_ok {p : Parameter} {doc : Json} {line : String} (hdoc : p.default = ofJson doc)
    (h : optionalLine p = .ok line) : line = "    " ++ p.name ++ ": " ++ usageValue doc := by
  rw [optionalLine, hdoc] at h
  obtain ⟨literal, hliteral, rfl⟩ := map_eq_ok_iff.mp h
  obtain ⟨-, -, rfl⟩ := ofValue_ofJson_eq_ok_iff.mp hliteral
  rfl

/-- If there is an example of use, it is that for the parameters of the template. -/
theorem usageText_eq_ok {t : Template} {docs : Parameter → Json} {text : String}
    (hdocs : ∀ p ∈ t.parameters, p.default = ofJson (docs p)) (h : usageText t = .ok text) :
    text = (usageOf docs t.parameters).text := by
  obtain ⟨lines, hlines, h⟩ := bind_eq_ok_iff.mp h
  have heq : lines = (t.parameters.filter fun p => !mustGive p).map fun p =>
      "    " ++ p.name ++ ": " ++ usageValue (docs p) := by
    have hoptional := (List.forall₂_and_left _ _).mpr
      ⟨fun p hp => (mem_optional_iff.mp hp).1, (mapM_eq_ok_iff _ _ _).mp hlines⟩
    rw [← List.forall₂_eq_eq_eq, List.forall₂_map_right_iff]
    exact hoptional.flip.imp fun line p hp => optionalLine_eq_ok (hdocs p hp.1) hp.2
  cases h
  rw [heq]
  simp only [usageOf, Usage.text, List.map_map]
  rfl

/-- The value of a parameter in the example is null or something else. -/
theorem usageValue_cases (doc : Json) :
    (doc = .null ∧ usageValue doc = "null") ∨ (doc ≠ .null ∧ OtherThanNull (usageValue doc)) := by
  by_cases hnull : doc = .null
  · subst hnull
    exact .inl ⟨rfl, by decide⟩
  · exact .inr ⟨hnull, (otherThanNull_written hnull 0).indentLines "    "⟩

theorem usageValue_ne_empty (doc : Json) : usageValue doc ≠ "" := by
  rcases usageValue_cases doc with ⟨-, hvalue⟩ | ⟨-, hvalue⟩
  · rw [hvalue]
    decide
  · exact hvalue.ne_empty

theorem usageOf_covers (docs : Parameter → Json) {parameters : List Parameter}
    (hnodup : (parameters.map fun p => p.name).Nodup) :
    (usageOf docs parameters).Covers (parameters.map fun p => p.name) where
  required_order := List.filter_sublist.map _
  optional_order := by
    simp only [usageOf, List.map_map]
    exact List.filter_sublist.map _
  all := by
    simp only [usageOf, List.map_map, Function.comp_def, ← List.map_append]
    exact (List.filter_append_perm mustGive parameters).map _
  once := hnodup
  values e he := by
    obtain ⟨p, -, rfl⟩ := List.mem_map.mp he
    exact usageValue_ne_empty (docs p)

/-! ## What the table says -/

/-- A default value is missing, or null, or something else, and the example says the same. -/
theorem defaultValue_cases {p : Parameter} {doc : Json} {s : String} (hdoc : p.default = ofJson doc)
    (hs : Cell.defaultValue p.name p.default p.nullable = .ok s) :
    (mustGive p = true ∧ s = "") ∨
      (mustGive p = false ∧ s = "null" ∧ usageValue doc = "null") ∨
      (mustGive p = false ∧ OtherThanNull s ∧ OtherThanNull (usageValue doc)) := by
  rcases usageValue_cases doc with ⟨rfl, hvalue⟩ | ⟨hnull, hvalue⟩
  · rw [Cell.defaultValue, hdoc] at hs
    cases hnullable : p.nullable with
    | false =>
        rw [hnullable] at hs
        cases hs
        exact .inl ⟨by simp [mustGive, isRequired, hdoc, hnullable, ofJson, Value.isNull], rfl⟩
    | true =>
        rw [hnullable] at hs
        cases hs
        exact .inr (.inl ⟨by simp [mustGive, isRequired, hnullable], rfl, hvalue⟩)
  · have hisNull : p.default.isNull = false := by
      rw [hdoc]
      cases doc with
      | null => exact absurd rfl hnull
      | _ => rfl
    rw [Cell.defaultValue, hisNull, hdoc] at hs
    obtain ⟨cell, hcell, rfl⟩ := map_eq_ok_iff.mp hs
    obtain ⟨-, rfl⟩ := json_ofJson_eq_ok_iff.mp hcell
    refine .inr (.inr ⟨by simp [mustGive, isRequired, hisNull], ?_, hvalue⟩)
    rw [oneLine_encoded]
    exact otherThanNull_encoded hnull

section Members

variable {docs : Parameter → Json} {parameters : List Parameter} {p : Parameter}

theorem mem_usage_required_iff (hnodup : (parameters.map fun p => p.name).Nodup) (hp : p ∈ parameters) :
    p.name ∈ (usageOf docs parameters).required ↔ mustGive p = true := by
  simp only [usageOf, List.mem_map, List.mem_filter]
  constructor
  · rintro ⟨q, ⟨hq, hgive⟩, hname⟩
    rw [← List.inj_on_of_nodup_map hnodup hq hp hname]
    exact hgive
  · intro hgive
    exact ⟨p, ⟨hp, hgive⟩, rfl⟩

theorem mem_usage_optional_iff (hnodup : (parameters.map fun p => p.name).Nodup) (hp : p ∈ parameters)
    {value : String} :
    (p.name, value) ∈ (usageOf docs parameters).optional ↔
      mustGive p = false ∧ usageValue (docs p) = value := by
  simp only [usageOf, List.mem_map, List.mem_filter, Prod.mk.injEq, Bool.not_eq_true']
  constructor
  · rintro ⟨q, ⟨hq, hgive⟩, hname, hvalue⟩
    obtain rfl := List.inj_on_of_nodup_map hnodup hq hp hname
    exact ⟨hgive, hvalue⟩
  · rintro ⟨hgive, hvalue⟩
    exact ⟨p, ⟨hp, hgive⟩, rfl, hvalue⟩

theorem status_eq_required_iff (p : Parameter) :
    status p.default p.nullable = "Required" ↔ mustGive p = true := by
  unfold status mustGive
  cases isRequired p.default p.nullable <;> decide

theorem usageOf_agrees (hnodup : (parameters.map fun p => p.name).Nodup) (hp : p ∈ parameters)
    {s : String} (hdoc : p.default = ofJson (docs p))
    (hs : Cell.defaultValue p.name p.default p.nullable = .ok s) :
    (usageOf docs parameters).Agrees p.name (status p.default p.nullable) s where
  required_iff := (status_eq_required_iff p).trans (mem_usage_required_iff hnodup hp).symm
  empty_iff := by
    rw [mem_usage_required_iff hnodup hp]
    rcases defaultValue_cases hdoc hs with ⟨hgive, rfl⟩ | ⟨hgive, rfl, -⟩ | ⟨hgive, hother, -⟩
    · simp [hgive]
    · simp [hgive]
    · simp [hgive, hother.ne_empty]
  null_iff := by
    rw [mem_usage_optional_iff hnodup hp]
    rcases defaultValue_cases hdoc hs with ⟨hgive, rfl⟩ | ⟨hgive, rfl, hvalue⟩ | ⟨hgive, hother, hvalue⟩
    · simp [hgive]
    · simp [hgive, hvalue]
    · simp [hother.ne_null, hvalue.ne_null]

end Members

/-- In each row of the table of parameters, status and default value agree with the example. -/
def RowsAgree (u : Usage) (parameters : List Parameter) (table : Table) : Prop :=
  Forall₂ (fun p cells => ∃ status default,
      Table.cellUnder? "Name" (Table.row table.headers) (Table.row cells) = some p.name ∧
      Table.cellUnder? "Status" (Table.row table.headers) (Table.row cells) = some status ∧
      Table.cellUnder? "Default" (Table.row table.headers) (Table.row cells) = some default ∧
      u.Agrees p.name status default)
    parameters table.rows

theorem rowsAgree_of_made {w : Bool} {docs : Parameter → Json} {parameters : List Parameter}
    {table : Table}
    (h : table.MadeOf "Parameters" 2 (Column.shown w parameterColumns) parameters)
    (hnodup : (parameters.map fun p => p.name).Nodup)
    (hdocs : ∀ p ∈ parameters, p.default = ofJson (docs p)) :
    RowsAgree (usageOf docs parameters) parameters table := by
  have hheaders : ((Column.shown w parameterColumns).map Column.header).Nodup :=
    shown_nodup w (by decide)
  let name : Col Parameter := plainColumn "Name" fun p => p.name
  let status : Col Parameter := plainColumn "Status" fun p => status p.default p.nullable
  let default : Col Parameter :=
    { header := "Default", cell := fun p => Cell.defaultValue p.name p.default p.nullable }
  have hname : name ∈ Column.shown w parameterColumns := by
    simp [name, Column.shown, parameterColumns, plainColumn]
  have hstatus : status ∈ Column.shown w parameterColumns := by
    simp [status, Column.shown, parameterColumns, plainColumn]
  have hdefault : default ∈ Column.shown w parameterColumns := by
    simp [default, Column.shown, parameterColumns]
  have hrows := (List.forall₂_and_left _ _).mpr ⟨fun p hp => hp, h.rows⟩
  refine hrows.imp fun p cells hrow => ?_
  obtain ⟨hp, hrow⟩ := hrow
  obtain ⟨n, hn, hunderName⟩ := hrow.cellUnder?_eq_some hheaders hname
  obtain ⟨st, hst, hunderStatus⟩ := hrow.cellUnder?_eq_some hheaders hstatus
  obtain ⟨d, hd, hunderDefault⟩ := hrow.cellUnder?_eq_some hheaders hdefault
  cases hn
  cases hst
  rw [h.headers_eq]
  exact ⟨_, d, hunderName, hunderStatus, hunderDefault, usageOf_agrees hnodup hp (hdocs p hp) hd⟩

end Page

/-! ## Decoded templates -/

theorem Decode.decode_parameters {name : String} {doc : Json} {t : Template} (hkeys : doc.KeysOnce)
    (h : (Template.decode { fileName := name } doc).result = .ok t) :
    MadeOnceFrom (fun e p => Decode.parameter e.1 e.2 = .ok p) (fun p => p.name)
      (doc.entriesAt "parameters") t.parameters := by
  obtain ⟨parameters, dataTypes, outputs, functions, metadata, hparameters, -, -, -, rfl⟩ :=
    Decode.decode_eq_ok h
  exact (MadeFrom.of_arranged (fun _ _ hp => Decode.parameter_name hp) hparameters
    (arranged_sortByName _ _)).of_nodup (hkeys.entriesAt "parameters").nodup

/-- In a decoded template every parameter stands in the example of use once: those that have to be given
first, with their names alone, and then the others with values, both in the order of the template. In the
table of parameters the status of a parameter is Required exactly if its default value is empty, and exactly
if it stands in the example with its name alone. The default value is null exactly if it is null in the
example. Of a document that is within the limits of its reader there always is a table, and an example
exactly if there is room for its literals. -/
theorem decode_usage_agrees {name : String} {doc : Json} {t : Template} (hkeys : doc.KeysOnce)
    (h : (Template.decode { fileName := name } doc).result = .ok t) (w : Bool) :
    ∃ u : Usage, u.Covers (t.parameters.map fun p => p.name) ∧
      (∀ text, Page.usageText t = .ok text → text = u.text) ∧
      (∀ ts, Page.tables t w .parameters = .ok ts →
        (t.parameters = [] ∧ ts = []) ∨
          ∃ table, ts = [table] ∧ Page.RowsAgree u t.parameters table) ∧
      (doc.InLimits → ((∃ text, Page.usageText t = .ok text) ↔ t.HasRoom) ∧
        ∃ ts, Page.tables t w .parameters = .ok ts) := by
  have hmade := Decode.decode_parameters hkeys h
  have hdocs : ∀ p : Parameter, ∃ doc, p ∈ t.parameters → p.default = ofJson doc := by
    intro p
    by_cases hp : p ∈ t.parameters
    · obtain ⟨e, -, he⟩ := hmade.exists_made hp
      exact ⟨_, fun _ => Decode.parameter_default he⟩
    · exact ⟨.null, fun hp' => absurd hp' hp⟩
  choose docs hdocs using hdocs
  refine ⟨Page.usageOf docs t.parameters, Page.usageOf_covers docs hmade.once,
    fun text => Page.usageText_eq_ok hdocs, ?_, ?_⟩
  · intro ts hts
    refine (Page.tableOf_eq_ok hts).imp id ?_
    rintro ⟨table, htable, rfl⟩
    exact ⟨table, rfl, Page.rowsAgree_of_made htable hmade.once hdocs⟩
  · intro hlimits
    have hdecoded : ∀ p ∈ t.parameters,
        (∃ doc, p.default = ofJson doc ∧ doc.InLimits) ∧ p.constraints.FromDocument := by
      intro p hp
      obtain ⟨e, hmem, he⟩ := hmade.exists_made hp
      exact Decode.parameter_fromDocument (hlimits.entriesAt _ e hmem) he
    obtain ⟨ts, hts, -⟩ := Page.tableOf_shows "Parameters" (by decide)
      fun p hp => Page.rowIf_parameter (hdecoded p hp).1 (hdecoded p hp).2
    exact ⟨Page.exists_usageText_iff fun p hp => (hdecoded p hp).1, ts, hts⟩

/-- A parameter that has to be given, one that may be null, and one whose value is the word null. -/
def threeParameters : Json :=
  .object [("parameters", .object [("c", .object [("defaultValue", .text "null")]),
    ("b", .object [("nullable", .bool true)]), ("a", .object [])])]

theorem keysOnce_threeParameters : threeParameters.KeysOnce := by
  refine .object (by decide) ?_
  simp only [List.forall_mem_cons, List.not_mem_nil, false_imp_iff, forall_const, and_true]
  refine .object (by decide) ?_
  simp only [List.forall_mem_cons, List.not_mem_nil, false_imp_iff, forall_const, and_true]
  exact ⟨.object (by decide) (by simpa using .text _), .object (by decide) (by simpa using .bool _),
    .object (by decide) (by simp)⟩

theorem inLimits_threeParameters : threeParameters.InLimits := ⟨by decide, by decide⟩

theorem decode_usage_agrees_three :
    ∃ t u text table, (Template.decode { fileName := "main.json" } threeParameters).result = .ok t ∧
      (t.parameters.map fun p => p.name) ~ ["c", "b", "a"] ∧
      Page.usageText t = .ok text ∧ text = u.text ∧ u.Covers (t.parameters.map fun p => p.name) ∧
      Page.tables t true .parameters = .ok [table] ∧ Page.RowsAgree u t.parameters table := by
  obtain ⟨t, ht⟩ := exists_eq_ok
    (x := (Template.decode { fileName := "main.json" } threeParameters).result) (by decide +kernel)
  have hroom : (Template.decode { fileName := "main.json" } threeParameters).result.toOption.map
      (fun t => decide t.HasRoom) = some true := by cbv
  rw [ht] at hroom
  have hnames : (t.parameters.map fun p => p.name) ~ ["c", "b", "a"] :=
    (Decode.decode_parameters keysOnce_threeParameters ht).names
  obtain ⟨u, hcovers, husage, htables, hrendered⟩ := decode_usage_agrees keysOnce_threeParameters ht true
  obtain ⟨hexample, ts, hts⟩ := hrendered inLimits_threeParameters
  obtain ⟨text, htext⟩ := hexample.mpr (of_decide_eq_true (Option.some.inj hroom))
  obtain ⟨hempty, -⟩ | ⟨table, rfl, hagree⟩ := htables ts hts
  · rw [hempty] at hnames
    exact absurd hnames.symm (by decide)
  · exact ⟨t, u, text, table, ht, hnames, htext, husage text htext, hcovers, hts, hagree⟩

end TemplateDocs
