import TemplateDocs.Proofs.Page.Columns
import TemplateDocs.Proofs.Page.TableReader
import TemplateDocs.Proofs.Page.Tables
import TemplateDocs.Proofs.Value.RoundTrip

/-! # Values are read back from their cells

The cell of a default value holds the value as JSON, and the cell of the allowed values holds them without
the brackets around them. Breaking lines does not change such a text, and neither does a row once its cells
are read back, so that the values can be read from a rendered row.
-/

namespace TemplateDocs

open List Text Value

/-! ## Cells by their headers -/

/-- The text of the cell under a header, from the line of headers and the line of a row. -/
def Table.cellUnder? (header : String) (headerLine line : String) : Option String := do
  let headers ← readRow? headerLine.toList
  let cells ← readRow? line.toList
  entryOf? header (headers.zip cells)

/-- Each entity has a row in which the cell under the header says what it should about the entity. -/
def Table.Under {α : Type} (header : String) (entities : List α) (tells : α → String → Prop)
    (t : Table) : Prop :=
  Forall₂ (fun x cells => ∃ s,
      Table.cellUnder? header (Table.row t.headers) (Table.row cells) = some s ∧ tells x s)
    entities t.rows

section Columns

variable {ε α : Type} {columns : List (Column ε α)} {c : Column ε α}

theorem Column.Row.exists_cell {x : α} {cells : List String} (h : Column.Row columns x cells)
    (hc : c ∈ columns) :
    ∃ s, c.cell x = .ok s ∧ (c.header, s) ∈ (columns.map Column.header).zip cells := by
  induction h with
  | nil => cases hc
  | @cons d s columns cells hs _ ih =>
      rcases List.mem_cons.mp hc with rfl | hc
      · exact ⟨s, hs, List.mem_cons_self⟩
      · obtain ⟨s', hs', hmem⟩ := ih hc
        exact ⟨s', hs', List.mem_cons_of_mem _ hmem⟩

/-- In the row of an entity the cell of a column stands under its header. -/
theorem Column.Row.cellUnder?_eq_some {x : α} {cells : List String} (h : Column.Row columns x cells)
    (hnodup : (columns.map Column.header).Nodup) (hc : c ∈ columns) :
    ∃ s, c.cell x = .ok s ∧
      Table.cellUnder? c.header (Table.row (columns.map Column.header)) (Table.row cells) = some s := by
  obtain ⟨s, hs, hmem⟩ := h.exists_cell hc
  have hlength : columns.length = cells.length := h.length_eq
  have hheaders : columns.map Column.header ≠ [] := List.ne_nil_of_mem (List.mem_map_of_mem hc)
  have hcells : cells ≠ [] := by
    intro hnil
    rw [hnil, List.length_nil, List.length_eq_zero_iff] at hlength
    exact hheaders (by rw [hlength, List.map_nil])
  refine ⟨s, hs, ?_⟩
  rw [Table.cellUnder?, Table.readRow?_row hheaders, Table.readRow?_row hcells]
  refine (entryOf?_eq_some_iff ?_ _ _).mpr hmem
  rw [List.map_fst_zip (by rw [List.length_map, hlength])]
  exact hnodup

/-- What a column gives for the entities stands under its header. -/
theorem Table.MadeOf.under {title : String} {level : Nat} {items : List α} {t : Table}
    (h : t.MadeOf title level columns items) (hnodup : (columns.map Column.header).Nodup)
    (hc : c ∈ columns) {tells : α → String → Prop}
    (htells : ∀ x s, c.cell x = .ok s → tells x s) : t.Under c.header items tells := by
  refine h.rows.imp fun x cells hcells => ?_
  obtain ⟨s, hs, hunder⟩ := hcells.cellUnder?_eq_some hnodup hc
  exact ⟨s, h.headers_eq ▸ hunder, htells x s hs⟩

end Columns

/-! ## Cells that hold values -/

theorem oneLine_of_unbroken {s : String} (h : Unbroken s.toList) : Cell.oneLine s = s := by
  obtain ⟨hfeed, hreturn⟩ := unbroken_iff.mp h
  have hsame : crlfToLf s.toList = s.toList := by
    rw [crlfToLf_eq_self_iff]
    exact fun hpair => hreturn (hpair.subset (by simp))
  have hchars : ∀ c ∈ s.toList, (if c == '\n' then "<br>".toList else [c]) = [c] := by
    intro c hc
    have hne : c ≠ '\n' := fun heq => hfeed (heq ▸ hc)
    simp [hne]
  rw [Cell.oneLine, hsame, List.flatMap_congr hchars, List.flatMap_singleton', String.ofList_toList]

theorem oneLine_encoded (doc : Json) : Cell.oneLine (encoded doc) = encoded doc :=
  oneLine_of_unbroken (unbroken_encoded doc)

/-- The cell is read as the default value, if that is a document other than null without fractions and
exponents. -/
def Parameter.ReadsDefault (p : Parameter) (cell : String) : Prop :=
  ∀ doc, p.default = ofJson doc → doc ≠ .null → doc.isExact = true → doc.KeysOnce → doc.ReadFrom cell

/-- The cell between brackets is read as the allowed values, if they are such documents. -/
def Constraints.ReadsAllowed (c : Constraints) (cell : String) : Prop :=
  ∀ items, c.allowedValues = some (ofItems items) → (Json.array items).isExact = true →
    (Json.array items).KeysOnce → (Json.array items).ReadFrom ("[" ++ cell ++ "]")

theorem readsDefault_of_eq_ok {p : Parameter} {s : String}
    (h : Cell.defaultValue p.name p.default p.nullable = .ok s) : p.ReadsDefault s := by
  intro doc hdoc hnull hexact hkeys
  have hvalue : (ofJson doc).isNull = false := by
    cases doc with
    | null => exact absurd rfl hnull
    | _ => rfl
  rw [Cell.defaultValue, hdoc, hvalue] at h
  obtain ⟨text, htext, rfl⟩ := map_eq_ok_iff.mp h
  obtain ⟨-, rfl⟩ := json_ofJson_eq_ok_iff.mp htext
  rw [oneLine_encoded]
  exact Json.readFrom_encoded hexact hkeys

theorem readsAllowed_of_eq_ok {owner : String} {c : Constraints} {s : String}
    (h : Cell.allowedValues owner c = .ok s) : c.ReadsAllowed s := by
  intro items hitems hexact hkeys
  rw [Cell.allowedValues, hitems] at h
  obtain ⟨parts, hparts, h⟩ := bind_eq_ok_iff.mp h
  obtain ⟨-, rfl⟩ := mapM_json_ofItems_eq_ok_iff.mp hparts
  cases h
  have hjoin : Unbroken (join ", " (items.map encoded)).toList := by
    rw [unbroken_join (by decide), List.forall_mem_map]
    exact fun doc _ => unbroken_encoded doc
  rw [oneLine_of_unbroken hjoin, ← encoded_array]
  exact Json.readFrom_encoded hexact hkeys

/-! ## Tables that show values -/

namespace Page

theorem shown_nodup {α : Type} {columns : List (Col α)} (w : Bool)
    (h : (columns.map Column.header).Nodup) :
    ((Column.shown w columns).map Column.header).Nodup :=
  h.sublist (List.filter_sublist.map _)

theorem nodup_propertyColumns (d : DataType) : ((propertyColumns d).map Column.header).Nodup := by
  have hheaders : (propertyColumns d).map Column.header = ["Name", "Type", "Description",
      "Allowed Values", "Min Length", "Max Length", "Min Value", "Max Value"] := rfl
  rw [hheaders]
  decide

/-- The extra column of allowed values stands in a table that shows extra columns. -/
theorem allowed_under {α : Type} {title : String} {level : Nat} {columns : List (Col α)}
    {items : List α} {t : Table} (owner : α → String) {constraints : α → Constraints}
    (h : t.MadeOf title level (Column.shown true columns) items)
    (hnodup : (columns.map Column.header).Nodup) (hc : allowedColumn owner constraints ∈ columns) :
    t.Under "Allowed Values" items fun x => (constraints x).ReadsAllowed :=
  h.under (c := allowedColumn owner constraints) (shown_nodup true hnodup)
    (List.mem_filter.mpr ⟨hc, rfl⟩) fun _ _ => readsAllowed_of_eq_ok

theorem parameterTables_readsValues {t : Template} {w : Bool} {ts : List Table}
    (h : tables t w .parameters = .ok ts) (hne : t.parameters ≠ []) :
    ∃ table, ts = [table] ∧ table.Under "Default" t.parameters Parameter.ReadsDefault ∧
      (w = true → table.Under "Allowed Values" t.parameters fun p => p.constraints.ReadsAllowed) := by
  obtain ⟨table, hmade, rfl⟩ := (tableOf_eq_ok h).resolve_left fun hnil => hne hnil.1
  have hnodup : (parameterColumns.map Column.header).Nodup := by decide
  let column : Col Parameter :=
    { header := "Default", cell := fun p => Cell.defaultValue p.name p.default p.nullable }
  have hdefault : column ∈ Column.shown w parameterColumns := by
    simp [column, Column.shown, parameterColumns]
  refine ⟨table, rfl, hmade.under (shown_nodup w hnodup) hdefault fun _ _ => readsDefault_of_eq_ok, ?_⟩
  rintro rfl
  exact allowed_under (fun p => Cell.parameterOwner p.name) hmade hnodup
    (by simp [parameterColumns])

theorem dataTypeTables_readsValues {t : Template} {ts : List Table}
    (h : tables t true .dataTypes = .ok ts) (hne : t.dataTypes ≠ []) :
    ∃ main further, ts = main :: further ∧
      (main.Under "Allowed Values" t.dataTypes fun d => d.constraints.ReadsAllowed) ∧
      Forall₂ (fun d table => Table.Under "Allowed Values" d.properties
          (fun p => p.constraints.ReadsAllowed) table)
        (t.dataTypes.filter fun d => !d.properties.isEmpty) further := by
  obtain ⟨main, further, rfl, hmain, hfurther⟩ :=
    (dataTypeTables_eq_ok h).resolve_left fun hnil => hne hnil.1
  refine ⟨main, further, rfl, ?_, hfurther.imp fun d table hmade => ?_⟩
  · exact allowed_under (fun d => "type " ++ Text.quoted d.name) hmain (by decide)
      (by simp [dataTypeColumns])
  · exact allowed_under
      (fun p => "property " ++ Text.quoted p.name ++ " of type " ++ Text.quoted d.name)
      hmade (nodup_propertyColumns d) (by simp [propertyColumns])

/-- Tables show default values and allowed values so that they can be read back from the rendered rows:
under its header, a default value as JSON, and allowed values as JSON without the brackets around them.
The tables are there whenever all values come from documents that could be read, and a value on one line
has no line ends that could be broken. -/
theorem tables_readsValues (t : Template) (w : Bool) :
    (t.FromDocument → ∀ s, ∃ ts, tables t w s = .ok ts) ∧
    (∀ ts, tables t w .parameters = .ok ts → t.parameters ≠ [] →
      ∃ table, ts = [table] ∧ table.Under "Default" t.parameters Parameter.ReadsDefault ∧
        (w = true → table.Under "Allowed Values" t.parameters fun p => p.constraints.ReadsAllowed)) ∧
    (∀ ts, tables t true .dataTypes = .ok ts → t.dataTypes ≠ [] →
      ∃ main further, ts = main :: further ∧
        (main.Under "Allowed Values" t.dataTypes fun d => d.constraints.ReadsAllowed) ∧
        Forall₂ (fun d table => Table.Under "Allowed Values" d.properties
            (fun p => p.constraints.ReadsAllowed) table)
          (t.dataTypes.filter fun d => !d.properties.isEmpty) further) ∧
    ∀ doc room s, (ofJson doc).encode room = .ok s → Cell.oneLine s = s := by
  refine ⟨fun hdocument s => ?_, fun ts h hne => parameterTables_readsValues h hne,
    fun ts h hne => dataTypeTables_readsValues h hne, fun doc room s h => ?_⟩
  · obtain ⟨ts, hts, -⟩ := tables_shows hdocument w s
    exact ⟨ts, hts⟩
  · obtain ⟨-, -, rfl⟩ := encode_ofJson_eq_ok_iff.mp h
    exact oneLine_encoded doc

/-- Pipes and backslashes in texts and keys, a break that was there before and characters that are
escaped. -/
def piped : Json :=
  .object [("z|\\", .array [.int (-12), .text "\\|<br>\r\n\"\x01|", .null, .object []]),
    ("|", .bool true)]

theorem keysOnce_piped : piped.KeysOnce := by
  refine .object (by decide) ?_
  simp only [List.forall_mem_cons, List.not_mem_nil, false_imp_iff, forall_const, and_true]
  refine ⟨.array ?_, .bool true⟩
  simp only [List.forall_mem_cons, List.not_mem_nil, false_imp_iff, forall_const, and_true]
  exact ⟨.int _, .text _, .null, .object (by simp) (by simp)⟩

/-- A template with one parameter. -/
def pipedTemplate : Template where
  parameters := [{
    name := "a|b", default := ofJson piped
    constraints := { allowedValues := some (ofItems [.null, piped]) } }]

theorem inLimits_piped : piped.InLimits :=
  ⟨by decide, by decide⟩

theorem fromDocument_piped : pipedTemplate.FromDocument where
  defaults p hp := ⟨piped, by rw [List.mem_singleton.mp hp], inLimits_piped⟩
  parameters p hp := by
    rw [List.mem_singleton.mp hp]
    refine ⟨fun values hvalues => ?_, by simp⟩
    refine ⟨[.null, piped], (Option.some.inj hvalues).symm, ?_⟩
    simpa using ⟨Json.inLimits_null, inLimits_piped⟩
  dataTypes d hd := by cases hd
  properties d hd := by cases hd
  outputs o ho := by cases ho

theorem tables_readsValues_piped :
    ∃ table cells, tables pipedTemplate true .parameters = .ok [table] ∧ table.rows = [cells] ∧
      (∃ s, Table.cellUnder? "Default" (Table.row table.headers) (Table.row cells) = some s ∧
        piped.ReadFrom s) ∧
      ∃ s, Table.cellUnder? "Allowed Values" (Table.row table.headers) (Table.row cells) = some s ∧
        (Json.array [.null, piped]).ReadFrom ("[" ++ s ++ "]") := by
  obtain ⟨hexists, hparameters, -⟩ := tables_readsValues pipedTemplate true
  obtain ⟨ts, hts⟩ := hexists fromDocument_piped .parameters
  obtain ⟨table, rfl, hdefault, hallowed⟩ := hparameters ts hts (by simp [pipedTemplate])
  obtain ⟨cells, others, ⟨s, hs, hreads⟩, hothers, hrows⟩ := List.forall₂_cons_left_iff.mp hdefault
  have hall := hallowed rfl
  cases hothers
  rw [Table.Under, hrows] at hall
  obtain ⟨⟨s', hs', hreads'⟩, -⟩ := List.forall₂_cons.mp hall
  refine ⟨table, cells, hts, hrows, ⟨s, hs, ?_⟩, s', hs', ?_⟩
  · exact hreads piped rfl (by simp [piped]) (by decide) keysOnce_piped
  · refine hreads' [.null, piped] rfl (by decide) (.array ?_)
    simpa using ⟨.null, keysOnce_piped⟩

end Page

end TemplateDocs
