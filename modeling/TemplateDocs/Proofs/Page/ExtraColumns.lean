import TemplateDocs.Proofs.Page.Columns
import TemplateDocs.Proofs.Page.Rendering

/-! # Pages with and without extra columns

Showing the extra columns adds them to the tables and changes nothing else. Every row has a cell for each
header, and what is left of a table without the columns under the extra headers is the table that does not
show them.
-/

namespace TemplateDocs

open List Text

/-! ## Removing columns -/

/-- The cells of a row that stand under none of the removed headers. -/
def Table.cellsWithout (removed headers cells : List String) : List String :=
  ((headers.zip cells).filter fun c => c.1 ∉ removed).map Prod.snd

/-- The table without the columns under the removed headers. -/
def Table.without (removed : List String) (t : Table) : Table :=
  { t with
    headers := t.headers.filter (· ∉ removed)
    rows := t.rows.map (Table.cellsWithout removed t.headers) }

section Columns

variable {ε α : Type} {title : String} {level : Nat} {columns : List (Column ε α)} {items : List α}
  {t : Table}

theorem Column.Row.without {x : α} {cells : List String} (h : Column.Row columns x cells)
    (removed : List String) :
    Column.Row (columns.filter fun c => c.header ∉ removed) x
      (Table.cellsWithout removed (columns.map Column.header) cells) := by
  induction h with
  | nil => exact .nil
  | @cons c s columns cells hs _ ih =>
      by_cases hc : c.header ∈ removed
      · simpa [Table.cellsWithout, hc] using ih
      · have hboth : Column.Row (c :: columns.filter fun c => c.header ∉ removed) x
            (s :: Table.cellsWithout removed (columns.map Column.header) cells) := .cons hs ih
        simpa [Table.cellsWithout, hc] using hboth

theorem Table.MadeOf.without (h : t.MadeOf title level columns items) (removed : List String) :
    (t.without removed).MadeOf title level (columns.filter fun c => c.header ∉ removed) items where
  title_eq := h.title_eq
  level_eq := h.level_eq
  headers_eq := by
    simp only [Table.without, h.headers_eq, List.filter_map]
    rfl
  rows := by
    simp only [Table.without, List.forall₂_map_right_iff, h.headers_eq]
    exact h.rows.imp fun x cells hcells => hcells.without removed

/-- What a table is made of determines the table. -/
theorem Table.MadeOf.ofColumns_eq (h : t.MadeOf title level columns items) :
    Table.ofColumns title level columns items = .ok t := by
  have hrows : (items.mapM fun item => columns.mapM fun c => c.cell item) = .ok t.rows := by
    rw [mapM_eq_ok_iff]
    apply h.rows.imp
    intro x cells hcells
    exact (mapM_eq_ok_iff _ _ _).mpr hcells
  obtain ⟨title', headers, rows, level'⟩ := t
  obtain ⟨rfl, rfl, rfl, -⟩ := h
  rw [Table.ofColumns, hrows]
  rfl

theorem Table.MadeOf.width (h : t.MadeOf title level columns items) :
    ∀ cells ∈ t.rows, cells.length = t.headers.length := by
  intro cells hcells
  obtain ⟨x, -, hx⟩ := exists_of_mem_forall₂ h.rows hcells
  rw [h.headers_eq, List.length_map]
  exact hx.length_eq.symm

end Columns

/-! ## Extra columns -/

namespace Page

/-- The headers of all extra columns. -/
def extraHeaders : List String :=
  ["Exportable", "Allowed Values", "Min Length", "Max Length", "Min Value", "Max Value"]

section Marked

variable {α : Type} {columns : List (Col α)}

/-- The extra columns are those under the extra headers. -/
def Marked (columns : List (Col α)) : Prop :=
  ∀ mark ∈ columns.map fun c => (c.header, c.extra), mark.2 = decide (mark.1 ∈ extraHeaders)

instance : Decidable (Marked columns) :=
  List.decidableBAll _ _

theorem shown_true (columns : List (Col α)) : Column.shown true columns = columns := by
  simp [Column.shown]

/-- Without the flag the columns under the extra headers are left out. -/
theorem Marked.shown_false (h : Marked columns) :
    Column.shown false columns = columns.filter fun c => c.header ∉ extraHeaders := by
  apply List.filter_congr
  intro c hc
  have hmark := h _ (List.mem_map_of_mem hc)
  simp only at hmark
  simp [hmark]

theorem marked_propertyColumns (d : DataType) : Marked (propertyColumns d) := by
  have hmarks : ((propertyColumns d).map fun c => (c.header, c.extra)) =
      [("Name", false), ("Type", false), ("Description", false), ("Allowed Values", true),
        ("Min Length", true), ("Max Length", true), ("Min Value", true), ("Max Value", true)] := rfl
  rw [Marked, hmarks]
  decide

theorem Table.MadeOf.unmarked {title : String} {level : Nat} {items : List α} {t : Table}
    (h : t.MadeOf title level (Column.shown true columns) items) (hmarked : Marked columns) :
    (t.without extraHeaders).MadeOf title level (Column.shown false columns) items := by
  rw [shown_true] at h
  rw [hmarked.shown_false]
  exact h.without extraHeaders

end Marked

/-! ## Tables by section -/

theorem tableOf_without {α : Type} {title : String} {columns : List (Col α)} {items : List α}
    {ts : List Table} (hmarked : Marked columns) (h : tableOf true title columns items = .ok ts) :
    tableOf false title columns items = .ok (ts.map (Table.without extraHeaders)) := by
  -- The case is split before the table is taken apart: without items there is no table in either mode.
  by_cases hitems : items.isEmpty
  · unfold tableOf at h ⊢
    rw [if_pos hitems] at h ⊢
    cases h
    rfl
  · rcases tableOf_eq_ok h with ⟨rfl, -⟩ | ⟨t, hmade, rfl⟩
    · exact absurd rfl hitems
    · rw [tableOf, if_neg hitems, (Table.MadeOf.unmarked hmade hmarked).ofColumns_eq]
      rfl

theorem propertyTable_without {d : DataType} {t : Table} (h : propertyTable true d = .ok t) :
    propertyTable false d = .ok (t.without extraHeaders) :=
  (Table.MadeOf.unmarked (Table.ofColumns_eq_ok h) (marked_propertyColumns d)).ofColumns_eq

theorem dataTypeTables_without {types : List DataType} {ts : List Table}
    (h : dataTypeTables true types = .ok ts) :
    dataTypeTables false types = .ok (ts.map (Table.without extraHeaders)) := by
  obtain ⟨main, hmain, h⟩ := bind_eq_ok_iff.mp h
  obtain ⟨further, hfurther, h⟩ := bind_eq_ok_iff.mp h
  cases h
  have hshort : (types.filter fun d => !d.properties.isEmpty).mapM (propertyTable false) =
      .ok (further.map (Table.without extraHeaders)) := by
    rw [mapM_eq_ok_iff] at hfurther ⊢
    rw [List.forall₂_map_right_iff]
    exact hfurther.imp fun d t => propertyTable_without
  rw [dataTypeTables, tableOf_without (by decide) hmain, hshort, List.map_append]
  rfl

/-- The tables that do not show the extra columns are those that do, without these columns. -/
theorem tables_without {t : Template} {s : Section} {ts : List Table} (h : tables t true s = .ok ts) :
    tables t false s = .ok (ts.map (Table.without extraHeaders)) := by
  cases s with
  | modules => exact tableOf_without (by decide) h
  | resources => exact tableOf_without (by decide) h
  | parameters => exact tableOf_without (by decide) h
  | dataTypes => exact dataTypeTables_without h
  | functions => exact tableOf_without (by decide) h
  | vars => exact tableOf_without (by decide) h
  | outputs => exact tableOf_without (by decide) h
  | description =>
      cases h
      rfl
  | usage =>
      cases h
      rfl

theorem tableOf_width {α : Type} {w : Bool} {title : String} {columns : List (Col α)}
    {items : List α} {ts : List Table} (h : tableOf w title columns items = .ok ts) :
    ∀ table ∈ ts, ∀ cells ∈ table.rows, cells.length = table.headers.length := by
  intro table htable
  rcases tableOf_eq_ok h with ⟨-, rfl⟩ | ⟨made, hmade, rfl⟩
  · cases htable
  · rw [List.mem_singleton.mp htable]
    exact hmade.width

theorem dataTypeTables_width {w : Bool} {types : List DataType} {ts : List Table}
    (h : dataTypeTables w types = .ok ts) :
    ∀ table ∈ ts, ∀ cells ∈ table.rows, cells.length = table.headers.length := by
  intro table htable
  rcases dataTypeTables_eq_ok h with ⟨-, rfl⟩ | ⟨main, further, rfl, hmain, hfurther⟩
  · cases htable
  · rcases List.mem_cons.mp htable with rfl | hmem
    · exact hmain.width
    · obtain ⟨d, -, hmade⟩ := exists_of_mem_forall₂ hfurther hmem
      exact hmade.width

/-- Every row of every table has a cell for each header. -/
theorem tables_width {t : Template} {w : Bool} {s : Section} {ts : List Table}
    (h : tables t w s = .ok ts) :
    ∀ table ∈ ts, ∀ cells ∈ table.rows, cells.length = table.headers.length := by
  cases s with
  | modules => exact tableOf_width h
  | resources => exact tableOf_width h
  | parameters => exact tableOf_width h
  | dataTypes => exact dataTypeTables_width h
  | functions => exact tableOf_width h
  | vars => exact tableOf_width h
  | outputs => exact tableOf_width h
  | description =>
      cases h
      simp
  | usage =>
      cases h
      simp

/-- The sections without extra columns. -/
def plainSections : List Section :=
  [.description, .usage, .modules, .resources, .vars]

theorem sectionText_of_plain (t : Template) {s : Section} (hs : s ∈ plainSections) :
    sectionText t true s = sectionText t false s := by
  simp only [plainSections, List.mem_cons, List.not_mem_nil, or_false] at hs
  rcases hs with rfl | rfl | rfl | rfl | rfl
  · rfl
  · rfl
  · rfl
  · rfl
  · rfl

end Page

/-- The tables of a parsed template with extra columns have a cell for each header in every row, and without
the columns under the extra headers their texts are the text of the section that does not show them. A
section without extra columns has the same text in both cases, if it has one: only the example of use may
have none, where there is no room for its literals. -/
theorem parse_sectionText_without_extras {sourceName compiledName : String}
    {source compiled : Contents} {t : Template}
    (h : (Template.parse sourceName source compiledName compiled).result = .ok t) (s : Section) :
    ∃ ts, Page.tables t true s = .ok ts ∧
      (∀ table ∈ ts, ∀ cells ∈ table.rows, cells.length = table.headers.length) ∧
      (s ≠ .description → s ≠ .usage →
        Page.sectionText t true s = .ok (join "\n" (ts.map Table.text)) ∧
        Page.sectionText t false s =
          .ok (join "\n" (ts.map fun table => (table.without Page.extraHeaders).text))) ∧
      (s ∈ Page.plainSections → Page.sectionText t true s = Page.sectionText t false s ∧
        ((∃ text, Page.sectionText t false s = .ok text) ↔ (s = .usage → t.HasRoom))) := by
  have hdocument := parse_fromDocument h
  obtain ⟨ts, hts, -⟩ := Page.tables_shows hdocument true s
  refine ⟨ts, hts, Page.tables_width hts, ?_, ?_⟩
  · intro hdescription husage
    rw [Page.sectionText_tables t true hdescription husage, hts,
      Page.sectionText_tables t false hdescription husage, Page.tables_without hts]
    simp [Except.map, Function.comp_def]
  · intro hplain
    exact ⟨Page.sectionText_of_plain t hplain, Page.exists_sectionText_iff hdocument false s⟩

/-- A data type with a bound and a property with allowed values, so that both tables have extra columns. -/
def boundedType : String :=
  "\x7b\"definitions\": \x7b\"T\": \x7b\"minLength\": 1, \"properties\": \x7b\"p\": \x7b\"allowedValues\": [\"a|b\", 2]\x7d\x7d\x7d\x7d\x7d"

theorem parse_sectionText_without_extras_bounded :
    ∃ t ts,
      (Template.parse "main.bicep" (.ok (Text.encode "")) "main.json"
        (.ok (Text.encode boundedType))).result = .ok t ∧
      Page.tables t true .dataTypes = .ok ts ∧ ts.map (fun table => table.headers.length) = [10, 8] ∧
      (∀ table ∈ ts, ∀ cells ∈ table.rows, cells.length = table.headers.length) ∧
      Page.sectionText t false .dataTypes =
        .ok (join "\n" (ts.map fun table => (table.without Page.extraHeaders).text)) := by
  obtain ⟨t, ht⟩ := exists_eq_ok (x := (Template.parse "main.bicep" (.ok (Text.encode "")) "main.json"
    (.ok (Text.encode boundedType))).result) (by decide +kernel)
  have hheaders : ((Template.parse "main.bicep" (.ok (Text.encode "")) "main.json"
      (.ok (Text.encode boundedType))).result >>= fun t => Page.tables t true .dataTypes).toOption.map
        (fun ts => ts.map fun table => table.headers.length) = some [10, 8] := by decide +kernel
  obtain ⟨ts, hts, hwidth, htexts, -⟩ := parse_sectionText_without_extras ht .dataTypes
  rw [ht] at hheaders
  simp only [bind, Except.bind, hts, Except.toOption, Option.map_some, Option.some.injEq] at hheaders
  exact ⟨t, ts, ht, hts, hheaders, hwidth, (htexts (by decide) (by decide)).2⟩

end TemplateDocs
