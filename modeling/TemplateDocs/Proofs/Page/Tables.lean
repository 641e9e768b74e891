import TemplateDocs.Proofs.Page.Cells
import TemplateDocs.Proofs.Source.LineEnds
import TemplateDocs.Proofs.Template.Arrangement

/-! # The tables of a page

Every section of a parsed template can be rendered, and its tables are in order exactly as far as the
names, types and descriptions of the template are on one line. Modules and resources always are, since
they come from the lines of the source.
-/

namespace TemplateDocs

open Text List

/-! ## What tables list -/

/-- A table to be shown: its title, the level of its heading and what it lists. -/
structure Listing where
  title : String
  level : Nat := 2
  entities : List Listed

namespace Listing

def heading (l : Listing) : String :=
  String.ofList (List.replicate l.level '#') ++ " " ++ l.title

/-- No line end is left in the title or in an entity. -/
def OneLine (l : Listing) : Prop :=
  Unbroken l.title.toList ∧ ∀ e ∈ l.entities, e.OneLine

/-- The text is a table with a line for each entity. -/
def IsText (l : Listing) (text : String) : Prop :=
  Table.IsText l.heading l.entities.length text

end Listing

/-- One table, none if there is nothing to list. -/
def listing (title : String) (entities : List Listed) : List Listing :=
  if entities.isEmpty then [] else [{ title, entities }]

/-- The tables of a section of the page. -/
def Template.listings (t : Template) : Section → List Listing
  | .modules => listing "Modules" (t.modules.map Module.listed)
  | .resources => listing "Resources" (t.resources.map Resource.listed)
  | .parameters => listing "Parameters" (t.parameters.map fun p => p.listed p.name)
  | .dataTypes =>
    listing "User Defined Data Types (UDDTs)" (t.dataTypes.map fun d => d.listed d.name) ++
      (t.dataTypes.filter fun d => !d.properties.isEmpty).map fun d =>
        { title := d.name, level := 3, entities := d.properties.map fun p => p.listed p.name }
  | .functions => listing "User Defined Functions (UDFs)" (t.functions.map UserFunction.listed)
  | .vars => listing "Variables" (t.vars.map Variable.listed)
  | .outputs => listing "Outputs" (t.outputs.map fun o => o.listed o.name)
  | .description => []
  | .usage => []

namespace Page

/-! ## Tables of columns -/

/-- The table is in order exactly if what it lists is on one line. -/
def Shows (l : Listing) (t : Table) : Prop :=
  l.IsText t.text ↔ l.OneLine

section Tables

variable {α : Type} {w : Bool} {columns : List (Col α)} {items : List α} {listed : α → Listed}

theorem ofColumns_shows (title : String) (level : Nat)
    (hheaders : ∀ s ∈ columns.map Column.header, Unbroken s.toList)
    (hrows : ∀ x ∈ items, RowIf w columns x (listed x).OneLine) :
    ∃ t, Table.ofColumns title level (Column.shown w columns) items = .ok t ∧
      Shows { title, level, entities := items.map listed } t := by
  obtain ⟨rows, hmap, hcells⟩ := exists_mapM_eq_ok hrows
  let t : Table := { title, level, headers := (Column.shown w columns).map Column.header, rows }
  have hok : Table.ofColumns title level (Column.shown w columns) items = .ok t := by
    rw [Table.ofColumns, hmap]
    rfl
  have hshown : ∀ s ∈ t.headers, Unbroken s.toList := fun s hs =>
    hheaders s (List.map_subset _ List.filter_sublist.subset hs)
  have hwidth : ∀ cells ∈ t.rows, cells.length = t.headers.length := by
    intro cells hmem
    obtain ⟨x, -, hx⟩ := exists_of_mem_forall₂ ((mapM_eq_ok_iff _ _ _).mp hmap) hmem
    rw [List.length_map, ((mapM_eq_ok_iff _ _ _).mp hx).length_eq]
  have hcount : t.rows.length = (items.map listed).length := by
    rw [List.length_map]
    exact hcells.length_eq.symm
  have hlines : (∀ cells ∈ rows, ∀ s ∈ cells, Unbroken s.toList) ↔
      ∀ e ∈ items.map listed, e.OneLine := by
    rw [List.forall_mem_map]
    clear hmap hok hshown hwidth hcount hrows
    induction hcells with
    | nil => simp
    | cons hx _ ih => simp only [List.forall_mem_cons, hx, ih]
  refine ⟨t, hok, ?_⟩
  have hiff := Table.isText_iff hshown hwidth
  rw [hlines, hcount] at hiff
  exact hiff

theorem tableOf_shows (title : String)
    (hheaders : ∀ s ∈ columns.map Column.header, Unbroken s.toList)
    (hrows : ∀ x ∈ items, RowIf w columns x (listed x).OneLine) :
    ∃ ts, tableOf w title columns items = .ok ts ∧
      Forall₂ Shows (listing title (items.map listed)) ts := by
  unfold tableOf listing
  rw [List.isEmpty_map]
  split
  · exact ⟨[], rfl, .nil⟩
  · obtain ⟨t, ht, hshows⟩ := ofColumns_shows title 2 hheaders hrows
    rw [ht]
    exact ⟨[t], rfl, .cons hshows .nil⟩

end Tables

/-! ## Tables by section -/

end Page

/-- What the tables show of the template was read within the limits of documents. -/
structure Template.FromDocument (t : Template) : Prop where
  defaults : ∀ p ∈ t.parameters, ∃ doc, p.default = Value.ofJson doc ∧ doc.InLimits
  parameters : ∀ p ∈ t.parameters, p.constraints.FromDocument
  dataTypes : ∀ d ∈ t.dataTypes, d.constraints.FromDocument
  properties : ∀ d ∈ t.dataTypes, ∀ p ∈ d.properties, p.constraints.FromDocument
  outputs : ∀ o ∈ t.outputs, o.constraints.FromDocument

namespace Page

variable {t : Template} {w : Bool}

theorem propertyTable_shows {d : DataType} (h : ∀ p ∈ d.properties, p.constraints.FromDocument) :
    ∃ table, propertyTable w d = .ok table ∧
      Shows { title := d.name, level := 3, entities := d.properties.map fun p => p.listed p.name }
        table := by
  have hheaders : (propertyColumns d).map Column.header = ["Name", "Type", "Description",
      "Allowed Values", "Min Length", "Max Length", "Min Value", "Max Value"] := rfl
  refine ofColumns_shows d.name 3 ?_ fun p hp => rowIf_property (h p hp)
  rw [hheaders]
  decide

theorem dataTypeTables_shows (h : t.FromDocument) :
    ∃ ts, dataTypeTables w t.dataTypes = .ok ts ∧ Forall₂ Shows (t.listings .dataTypes) ts := by
  have htypes : ∃ ts, tableOf w "User Defined Data Types (UDDTs)" dataTypeColumns t.dataTypes = .ok ts ∧
      Forall₂ Shows (listing "User Defined Data Types (UDDTs)"
        (t.dataTypes.map fun d => d.listed d.name)) ts :=
    tableOf_shows _ (by decide) fun d hd => rowIf_dataType (h.dataTypes d hd)
  have hfurther : ∀ d ∈ t.dataTypes.filter fun d => !d.properties.isEmpty,
      ∃ table, propertyTable w d = .ok table ∧ Shows
        { title := d.name, level := 3, entities := d.properties.map fun p => p.listed p.name }
          table := by
    intro d hd
    exact propertyTable_shows (h.properties d (List.mem_of_mem_filter hd))
  obtain ⟨main, hmain, hshows⟩ := htypes
  obtain ⟨further, hmap, hproperties⟩ := exists_mapM_eq_ok hfurther
  refine ⟨main ++ further, ?_, List.rel_append hshows (List.forall₂_map_left_iff.mpr hproperties)⟩
  rw [dataTypeTables, hmain, hmap]
  rfl

theorem tables_shows (h : t.FromDocument) (w : Bool) (s : Section) :
    ∃ ts, tables t w s = .ok ts ∧ Forall₂ Shows (t.listings s) ts := by
  cases s with
  | modules => exact tableOf_shows "Modules" (by decide) fun m _ => rowIf_module m
  | resources => exact tableOf_shows "Resources" (by decide) fun r _ => rowIf_resource r
  | parameters =>
      exact tableOf_shows "Parameters" (by decide) fun p hp =>
        rowIf_parameter (h.defaults p hp) (h.parameters p hp)
  | dataTypes => exact dataTypeTables_shows h
  | functions =>
      exact tableOf_shows "User Defined Functions (UDFs)" (by decide) fun f _ => rowIf_function f
  | vars => exact tableOf_shows "Variables" (by decide) fun v _ => rowIf_variable v
  | outputs => exact tableOf_shows "Outputs" (by decide) fun o ho => rowIf_output (h.outputs o ho)
  | description => exact ⟨[], rfl, .nil⟩
  | usage => exact ⟨[], rfl, .nil⟩

theorem sectionText_tables (t : Template) (w : Bool) {s : Section} (hd : s ≠ .description)
    (hu : s ≠ .usage) :
    sectionText t w s = (tables t w s).map fun ts => join "\n" (ts.map Table.text) := by
  cases s with
  | description => exact absurd rfl hd
  | usage => exact absurd rfl hu
  | _ => rfl

end Page

/-! ## Parsed templates -/

namespace Decode

theorem allowedValues_eq_ok {entries : Entries} {path : String} {values : List Value}
    (h : allowedValues entries path = .ok (some values)) :
    ∃ items, values = Value.ofItems items ∧ (Json.object entries).get "allowedValues" = .array items := by
  unfold allowedValues at h
  split at h
  · cases h
  · rename_i items hitems
    exact ⟨items, (Option.some.inj (Except.ok.inj h)).symm, hitems⟩
  · cases h

theorem bound_eq_ok {entries : Entries} {path key : String} {b : Option Int}
    (h : bound entries path key = .ok b) : ∀ n ∈ b, (Json.object entries).get key = .int n := by
  rintro n rfl
  unfold bound at h
  split at h
  · cases h
  · rename_i m hm
    cases h
    exact hm
  · cases h

theorem constraints_fromDocument {entries : Entries} {path : String} {c : Constraints}
    (hlimits : (Json.object entries).InLimits) (h : constraints entries path = .ok c) :
    c.FromDocument := by
  obtain ⟨allowed, hallowed, h⟩ := bind_eq_ok_iff.mp h
  obtain ⟨minLength, hminLength, h⟩ := bind_eq_ok_iff.mp h
  obtain ⟨maxLength, hmaxLength, h⟩ := bind_eq_ok_iff.mp h
  obtain ⟨minValue, hminValue, h⟩ := bind_eq_ok_iff.mp h
  obtain ⟨maxValue, hmaxValue, h⟩ := bind_eq_ok_iff.mp h
  cases h
  have hbound {key : String} {b : Option Int} (hb : bound entries path key = .ok b) :
      ∀ n ∈ b, (Json.int n).InLimits := fun n hn => bound_eq_ok hb n hn ▸ hlimits.get key
  refine ⟨?_, ?_⟩
  · rintro values rfl
    obtain ⟨items, rfl, hitems⟩ := allowedValues_eq_ok hallowed
    exact ⟨items, rfl, (hitems ▸ hlimits.get "allowedValues").items⟩
  · simp only [List.forall_mem_cons, List.not_mem_nil, false_imp_iff, forall_const, and_true]
    exact ⟨hbound hminLength, hbound hmaxLength, hbound hminValue, hbound hmaxValue⟩

theorem definition_fromDocument {path : String} {v : Json} {d : Definition} (hlimits : v.InLimits)
    (h : definition path v = .ok d) : d.constraints.FromDocument := by
  obtain ⟨entries, hentries, h⟩ := bind_eq_ok_iff.mp h
  obtain ⟨type, -, h⟩ := bind_eq_ok_iff.mp h
  obtain ⟨items, -, h⟩ := bind_eq_ok_iff.mp h
  obtain ⟨c, hc, h⟩ := bind_eq_ok_iff.mp h
  obtain ⟨metadata, -, h⟩ := bind_eq_ok_iff.mp h
  cases h
  obtain rfl := object_eq_ok hentries
  exact constraints_fromDocument hlimits hc

theorem entity_fromDocument {path name : String} {v : Json} {e : Entity} (hlimits : v.InLimits)
    (h : entity path name v = .ok e) : e.constraints.FromDocument := by
  obtain ⟨d, hd, h⟩ := bind_eq_ok_iff.mp h
  cases h
  exact definition_fromDocument hlimits hd

theorem parameter_default {name : String} {v : Json} {p : Parameter} (h : parameter name v = .ok p) :
    p.default = Value.ofJson (v.get "defaultValue") := by
  obtain ⟨e, -, h⟩ := bind_eq_ok_iff.mp h
  cases h
  rfl

theorem parameter_fromDocument {name : String} {v : Json} {p : Parameter} (hlimits : v.InLimits)
    (h : parameter name v = .ok p) :
    (∃ doc, p.default = Value.ofJson doc ∧ doc.InLimits) ∧ p.constraints.FromDocument := by
  refine ⟨⟨_, parameter_default h, hlimits.get "defaultValue"⟩, ?_⟩
  obtain ⟨e, he, h⟩ := bind_eq_ok_iff.mp h
  cases h
  exact entity_fromDocument hlimits he

end Decode

theorem Template.Lists.fromDocument {t : Template} {doc : Json} {found : Findings}
    (h : t.Lists doc found) (hlimits : doc.InLimits) : t.FromDocument where
  defaults p hp := by
    obtain ⟨e, hmem, he⟩ := h.parameters.exists_made hp
    exact (Decode.parameter_fromDocument (hlimits.entriesAt _ e hmem) he).1
  parameters p hp := by
    obtain ⟨e, hmem, he⟩ := h.parameters.exists_made hp
    exact (Decode.parameter_fromDocument (hlimits.entriesAt _ e hmem) he).2
  dataTypes d hd := by
    obtain ⟨e, hmem, he⟩ := h.dataTypes.exists_made hd
    exact Decode.definition_fromDocument (hlimits.entriesAt _ e hmem) he.definition
  properties d hd p hp := by
    obtain ⟨e, hmem, he⟩ := h.dataTypes.exists_made hd
    obtain ⟨f, hmem', hf⟩ := he.properties.exists_made hp
    exact Decode.entity_fromDocument ((hlimits.entriesAt _ e hmem).entriesAt _ f hmem') hf
  outputs o ho := by
    obtain ⟨e, hmem, he⟩ := h.outputs.exists_made ho
    exact Decode.entity_fromDocument (hlimits.entriesAt _ e hmem) he

section Parsed

variable {t : Template} {doc : Json} {found : Findings}

theorem listing_oneLine_iff {title : String} {entities : List Listed} {l : Listing}
    (htitle : Unbroken title.toList) (hl : l ∈ listing title entities) :
    l.OneLine ↔ ∀ e ∈ entities, e.OneLine := by
  unfold listing at hl
  split at hl
  · cases hl
  · rw [List.mem_singleton.mp hl]
    exact and_iff_right htitle

theorem Template.Lists.modules_oneLine (h : t.Lists doc found) (hfound : found.Plain) :
    ∀ l ∈ t.listings .modules, l.OneLine := by
  intro l hl
  rw [listing_oneLine_iff (by decide) hl, List.forall_mem_map]
  intro m hm
  obtain ⟨hname, hsource, hdescription⟩ := hfound.modules m (h.modules.perm.mem_iff.mp hm)
  exact ⟨by simpa [Module.listed] using ⟨hname, hsource⟩, .of_not_mem hdescription⟩

theorem Template.Lists.resources_oneLine (h : t.Lists doc found) (hfound : found.Plain) :
    ∀ l ∈ t.listings .resources, l.OneLine := by
  intro l hl
  rw [listing_oneLine_iff (by decide) hl, List.forall_mem_map]
  intro r hr
  obtain ⟨hname, htype, hdescription⟩ := hfound.resources r (h.resources.perm.mem_iff.mp hr)
  exact ⟨by simpa [Resource.listed] using ⟨hname, htype⟩, .of_not_mem hdescription⟩

theorem declaredVariables_description {v : Variable} (h : v ∈ doc.declaredVariables) :
    v.description = "" := by
  obtain ⟨⟨name, value⟩, -, hv⟩ := List.mem_flatMap.mp h
  unfold Json.variablesAt at hv
  split at hv
  · obtain ⟨loop, -, rfl⟩ := List.mem_map.mp hv
    rfl
  · split at hv
    · cases hv
    · rw [List.mem_singleton.mp hv]

theorem describe_plain {vars : List Variable} (hvars : ∀ v ∈ vars, '\r' ∉ v.description.toList)
    {v : Variable} (hv : v.description = "") : '\r' ∉ (describe vars v).description.toList := by
  unfold describe describedAs?
  cases hfind : vars.reverse.find? fun u => u.name == v.name with
  | none => simp [hv]
  | some u => exact hvars u (List.mem_reverse.mp (List.mem_of_find?_eq_some hfind))

theorem Template.Lists.vars_plain (h : t.Lists doc found) (hfound : found.Plain) :
    ∀ v ∈ t.vars, '\r' ∉ v.description.toList := by
  intro v hv
  have hmem := h.vars.perm.mem_iff.mp hv
  split at hmem
  · exact hfound.vars v hmem
  · obtain ⟨u, hu, rfl⟩ := List.mem_map.mp hmem
    exact describe_plain hfound.vars (declaredVariables_description hu)

/-- Variables take their descriptions from the source, so only their names can be broken. -/
theorem Template.Lists.vars_oneLine_iff (h : t.Lists doc found) (hfound : found.Plain) :
    ∀ l ∈ t.listings .vars, (l.OneLine ↔ ∀ v ∈ t.vars, Unbroken v.name.toList) := by
  intro l hl
  rw [listing_oneLine_iff (by decide) hl, List.forall_mem_map]
  refine forall₂_congr fun v hv => ?_
  have hpaired : ReturnsPaired v.description.toList := .of_not_mem (h.vars_plain hfound v hv)
  simp [Variable.listed, Listed.OneLine, hpaired]

end Parsed

/-- Every section of a parsed template that lists something can be rendered, with extra columns or
without them, as one table for each listing. A table has its heading, an empty line, the row of headers,
the row of dashes and one line for each entity, all rows with as many cells, exactly if what it lists
is on one line: names and types without line ends, and descriptions without carriage returns that stand
alone. Modules and resources always are, and variables as far as their names are. -/
theorem parse_tables_isText {sourceName compiledName : String} {source compiled : Contents}
    {t : Template} (h : (Template.parse sourceName source compiledName compiled).result = .ok t)
    (w : Bool) {s : Section} (hd : s ≠ .description) (hu : s ≠ .usage) :
    ∃ texts, Page.sectionText t w s = .ok (join "\n" texts) ∧
      Forall₂ (fun l text => l.IsText text ↔ l.OneLine) (t.listings s) texts ∧
      (s = .modules ∨ s = .resources → ∀ l ∈ t.listings s, l.OneLine) ∧
      (s = .vars → ∀ l ∈ t.listings s, (l.OneLine ↔ ∀ v ∈ t.vars, Unbroken v.name.toList)) := by
  obtain ⟨text, found, doc, u, htext, hscan, hdoc, hdecode, rfl⟩ := parse_eq_ok h
  obtain ⟨-, rfl⟩ := Source.scanLines_eq_ok_iff.mp hscan
  have hlists := merge_lists (Source.Scan.run true (fileLines text)).found hdoc.keysOnce hdecode
  have hfound := Source.found_plain (c := true) text
  obtain ⟨ts, hts, hshows⟩ := Page.tables_shows (hlists.fromDocument hdoc.inLimits) w s
  refine ⟨ts.map Table.text, ?_, List.forall₂_map_right_iff.mpr hshows, ?_, ?_⟩
  · rw [Page.sectionText_tables _ w hd hu, hts]
    rfl
  · rintro (rfl | rfl)
    · exact hlists.modules_oneLine hfound
    · exact hlists.resources_oneLine hfound
  · rintro rfl
    exact hlists.vars_oneLine_iff hfound

/-- A description of two lines with a pipe in it, and a bound. -/
theorem parse_tables_isText_pipe :
    ∃ t texts,
      (Template.parse "main.bicep" (.ok (Text.encode "")) "main.json" (.ok (Text.encode
        "\x7b\"outputs\": \x7b\"a\": \x7b\"minValue\": 1, \"metadata\": \x7b\"description\": \"x\\r\\ny|z\"\x7d\x7d\x7d\x7d"))).result
        = .ok t ∧
      Page.sectionText t true .outputs = .ok (join "\n" texts) ∧
      Forall₂ (fun l text => l.IsText text ↔ l.OneLine) (t.listings .outputs) texts := by
  obtain ⟨t, ht⟩ := exists_eq_ok (x := (Template.parse "main.bicep" (.ok (Text.encode "")) "main.json"
    (.ok (Text.encode
      "\x7b\"outputs\": \x7b\"a\": \x7b\"minValue\": 1, \"metadata\": \x7b\"description\": \"x\\r\\ny|z\"\x7d\x7d\x7d\x7d"))).result)
    (by decide +kernel)
  obtain ⟨texts, htexts, hshows, -⟩ := parse_tables_isText ht true (s := .outputs) (by decide) (by decide)
  exact ⟨t, texts, ht, htexts, hshows⟩

/-- A carriage return that stands alone in a description stays in the row, so its text is no table. -/
theorem lone_return_breaks_table :
    ((Template.parse "main.bicep" (.ok (Text.encode "")) "main.json" (.ok (Text.encode
        "\x7b\"parameters\": \x7b\"a\": \x7b\"metadata\": \x7b\"description\": \"x\\ry\"\x7d\x7d\x7d\x7d"))).result >>=
        fun t => Page.sectionText t false .parameters).toOption =
      some "## Parameters\n\n| Name | Status | Type | Description | Default |\n| --- | --- | --- | --- | --- |\n| a | Required | any | x\ry |  |\n" ∧
    ¬ Table.IsText "## Parameters" 1
      "## Parameters\n\n| Name | Status | Type | Description | Default |\n| --- | --- | --- | --- | --- |\n| a | Required | any | x\ry |  |\n" :=
  ⟨by decide +kernel, fun h => h.noReturn (by decide +kernel)⟩

end TemplateDocs
