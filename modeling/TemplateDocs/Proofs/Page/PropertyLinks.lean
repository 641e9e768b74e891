import TemplateDocs.Proofs.Page.CellValues
import TemplateDocs.Proofs.Page.Rendering
import TemplateDocs.Proofs.Text.Search

/-! # Links to the tables of properties

A data type with properties has a link in its row and a table of its own under a heading of the third
level, and no other data type has either. The link leads to the name of the type in lower case, so the
links are told apart exactly if the names are without their case.
-/

namespace TemplateDocs

open List Text

/-! ## Links -/

/-- The place in the page that a cell leads to, if it is a link to properties. -/
def linkedPlace? (cell : String) : Option String :=
  (dropStart? "[View Properties](#".toList cell.toList).bind fun rest =>
    if rest.getLast? = some ')' then some (String.ofList rest.dropLast) else none

/-- The places in the page that the rows of a table lead to. -/
def Table.linkedPlaces (t : Table) : List String :=
  t.rows.filterMap fun cells =>
    (Table.cellUnder? "Properties" (Table.row t.headers) (Table.row cells)).bind linkedPlace?

/-- The place in the page that the heading of a table makes: its title in lower case. -/
def Table.place (t : Table) : String :=
  lower t.title

/-- The data types that have properties. -/
def withProperties (types : List DataType) : List DataType :=
  types.filter fun d => !d.properties.isEmpty

/-- The cell leads to the place of the data type if that has properties, and else to none. -/
def DataType.LinkedBy (d : DataType) (cell : String) : Prop :=
  linkedPlace? cell = if d.properties.isEmpty then none else some (lower d.name)

theorem linkedPlace?_link (place : String) :
    linkedPlace? ("[View Properties](#" ++ place ++ ")") = some place := by
  have hstart : dropStart? "[View Properties](#".toList
      ("[View Properties](#" ++ place ++ ")").toList = some (place.toList ++ [')']) := by
    rw [dropStart?_eq_some_iff, String.toList_append, String.toList_append, List.append_assoc]
    rfl
  rw [linkedPlace?, hstart, Option.bind_some, List.getLast?_concat, if_pos rfl, List.dropLast_concat,
    String.ofList_toList]

theorem linkedBy_propertiesLink (d : DataType) : d.LinkedBy (Page.propertiesLink d) := by
  rw [DataType.LinkedBy, Page.propertiesLink]
  by_cases hempty : d.properties.isEmpty
  · rw [if_pos hempty, if_pos hempty]
    rfl
  · rw [if_neg hempty, if_neg hempty, linkedPlace?_link]

theorem linkedPlaces_of_under {types : List DataType} {t : Table}
    (h : t.Under "Properties" types DataType.LinkedBy) :
    t.linkedPlaces = (withProperties types).map fun d => lower d.name := by
  rw [Table.Under] at h
  rw [Table.linkedPlaces]
  generalize t.rows = rows at h
  induction h with
  | nil => rfl
  | @cons d cells types rows hd _ ih =>
      obtain ⟨s, hs, hlinked⟩ := hd
      rw [DataType.LinkedBy] at hlinked
      by_cases hempty : d.properties.isEmpty
      · simp [hs, hlinked, hempty, ih, withProperties]
      · simp [hs, hlinked, hempty, ih, withProperties]

/-! ## Tables of properties -/

/-- The data types with properties, and only they, have a link and a table of the third level, in the same
order, and each link leads to the place of its own table. -/
structure LinksTables (types : List DataType) (main : Table) (further : List Table) : Prop where
  linked : main.Under "Properties" types DataType.LinkedBy
  headings : further.map Table.heading = (withProperties types).map fun d => "### " ++ d.name
  places : main.linkedPlaces = further.map Table.place

/-- The links are pairwise distinct, and each leads to its own table and to no other. -/
def Unambiguous (main : Table) (further : List Table) : Prop :=
  main.linkedPlaces.Nodup ∧
    ∀ (i j : Nat) (place : String) (table : Table), main.linkedPlaces[i]? = some place →
      further[j]? = some table → (place = table.place ↔ i = j)

/-- No two names differ in their case only. -/
def CaseApart (names : List String) : Prop :=
  ∀ m ∈ names, ∀ n ∈ names, lower m = lower n → m = n

instance (names : List String) : Decidable (CaseApart names) :=
  inferInstanceAs (Decidable (∀ m ∈ names, ∀ n ∈ names, lower m = lower n → m = n))

namespace Page

theorem main_linked {w : Bool} {types : List DataType} {main : Table}
    (h : main.MadeOf "User Defined Data Types (UDDTs)" 2 (Column.shown w dataTypeColumns) types) :
    main.Under "Properties" types DataType.LinkedBy := by
  have hcolumn : plainColumn "Properties" propertiesLink ∈ Column.shown w dataTypeColumns := by
    simp [Column.shown, dataTypeColumns, plainColumn]
  apply h.under (shown_nodup w (by decide)) hcolumn
  intro d s hs
  cases hs
  exact linkedBy_propertiesLink d

theorem titles_of_made {w : Bool} {types : List DataType} {further : List Table}
    (h : Forall₂ (fun (d : DataType) (t : Table) =>
      t.MadeOf d.name 3 (Column.shown w (propertyColumns d)) d.properties) types further) :
    further.map Table.title = types.map (fun d => d.name) ∧
      further.map Table.heading = types.map fun d => "### " ++ d.name := by
  induction h with
  | nil => simp
  | @cons d t types further hmade _ ih =>
      have hheading : t.heading = "### " ++ d.name := by
        rw [Table.heading, hmade.level_eq, hmade.title_eq]
        rfl
      simp only [List.map_cons, hmade.title_eq, hheading, ih, and_self]

theorem linksTables_of_made {w : Bool} {types : List DataType} {main : Table} {further : List Table}
    (hmain : main.MadeOf "User Defined Data Types (UDDTs)" 2 (Column.shown w dataTypeColumns) types)
    (hfurther : Forall₂ (fun (d : DataType) (t : Table) =>
      t.MadeOf d.name 3 (Column.shown w (propertyColumns d)) d.properties)
        (withProperties types) further) :
    LinksTables types main further := by
  obtain ⟨htitles, hheadings⟩ := titles_of_made hfurther
  have hlinked := main_linked hmain
  refine ⟨hlinked, hheadings, ?_⟩
  have hplaces : further.map Table.place = (further.map Table.title).map lower := by
    rw [List.map_map]
    rfl
  rw [linkedPlaces_of_under hlinked, hplaces, htitles, List.map_map]
  rfl

/-- Links are told apart exactly if they are distinct, and so exactly if the names are without case. -/
theorem unambiguous_iff {types : List DataType} {main : Table} {further : List Table}
    (h : LinksTables types main further) (hnames : (types.map fun d => d.name).Nodup) :
    Unambiguous main further ↔ CaseApart ((withProperties types).map fun d => d.name) := by
  have hnodup : ((withProperties types).map fun d => d.name).Nodup :=
    hnames.sublist (List.filter_sublist.map _)
  have hplaces : main.linkedPlaces = ((withProperties types).map fun d => d.name).map lower := by
    rw [linkedPlaces_of_under h.linked, List.map_map]
    rfl
  have hdistinct : main.linkedPlaces.Nodup ↔
      CaseApart ((withProperties types).map fun d => d.name) := by
    rw [hplaces, List.nodup_map_iff_inj_on hnodup]
    rfl
  rw [← hdistinct]
  -- Places and tables stand in the same order, so that distinct places cannot share a table.
  refine and_iff_left_of_imp ?_
  intro hplacesNodup i j place table hi hj
  have hj' : main.linkedPlaces[j]? = some table.place := by
    rw [h.places, List.getElem?_map, hj]
    rfl
  have hlt : i < main.linkedPlaces.length := (List.getElem?_eq_some_iff.mp hi).1
  rw [← List.getElem?_inj hlt hplacesNodup, hi, hj', Option.some_inj]

end Page

/-! ## Documents -/

/-- The names of the definitions that have properties. -/
def Json.propertied (doc : Json) : List String :=
  ((doc.entriesAt "definitions").filter fun e => !(e.2.entriesAt "properties").isEmpty).map Prod.fst

theorem Decode.MadeDataType.isEmpty_properties {e : String × Json} {d : DataType}
    (h : Decode.MadeDataType e d) : d.properties.isEmpty = (e.2.entriesAt "properties").isEmpty := by
  have hlength := h.properties.names.length_eq
  rw [List.length_map, List.length_map] at hlength
  rw [Bool.eq_iff_iff, List.isEmpty_iff_length_eq_zero, List.isEmpty_iff_length_eq_zero, hlength]

theorem Template.Lists.withProperties_perm {t : Template} {doc : Json} {found : Findings}
    (h : t.Lists doc found) :
    ((withProperties t.dataTypes).map fun d => d.name) ~ doc.propertied := by
  obtain ⟨made, hmade, harranged⟩ := h.dataTypes.arranged
  have hnames : ((withProperties made).map fun d => d.name) = doc.propertied := by
    rw [Json.propertied]
    clear harranged
    generalize doc.entriesAt "definitions" = entries at hmade ⊢
    induction hmade with
    | nil => rfl
    | @cons e d entries made hd _ ih =>
        have hempty := hd.isEmpty_properties
        by_cases hproperties : (e.2.entriesAt "properties").isEmpty
        · simpa [withProperties, hempty, hproperties] using ih
        · simpa [withProperties, hempty, hproperties, hd.name] using ih
  rw [← hnames]
  exact (harranged.perm.filter _).map _

theorem parse_names_perm {sourceName compiledName text : String} {source : Contents} {t : Template}
    {names : List String}
    (h : (Template.parse sourceName source compiledName (.ok (Text.encode text))).result = .ok t)
    (hnames : (Json.read text).toOption.map Json.propertied = some names) :
    ((withProperties t.dataTypes).map fun d => d.name) ~ names := by
  obtain ⟨_, found, doc, u, -, hscan, ⟨bytes, hbytes, text', htext, hread⟩, hdecode, rfl⟩ :=
    parse_eq_ok h
  obtain ⟨-, rfl⟩ := Source.scanLines_eq_ok_iff.mp hscan
  cases hbytes
  rw [Text.decode?_encode, Option.some_inj] at htext
  subst htext
  rw [hread] at hnames
  cases hnames
  exact (merge_lists _ (Json.read_keysOnce hread) hdecode).withProperties_perm

/-- In a parsed template the data types with properties, and only they, have a link and a table of the third
level, in the same order, and each link leads to the place of its own table. The links are pairwise
distinct, and none leads to the table of another data type, exactly if no two names of data types with
properties differ in their case only. -/
theorem parse_links_unambiguous_iff {sourceName compiledName : String} {source compiled : Contents}
    {t : Template} (h : (Template.parse sourceName source compiledName compiled).result = .ok t)
    (w : Bool) :
    (t.dataTypes = [] ∧ Page.sectionText t w .dataTypes = .ok "") ∨
      ∃ main further, Page.tables t w .dataTypes = .ok (main :: further) ∧
        Page.sectionText t w .dataTypes = .ok (join "\n" ((main :: further).map Table.text)) ∧
        LinksTables t.dataTypes main further ∧
        (Unambiguous main further ↔ CaseApart ((withProperties t.dataTypes).map fun d => d.name)) := by
  obtain ⟨ts, hts, -⟩ := Page.tables_shows (parse_fromDocument h) w .dataTypes
  have htext : Page.sectionText t w .dataTypes = .ok (join "\n" (ts.map Table.text)) := by
    rw [Page.sectionText_tables t w (by decide) (by decide), hts]
    rfl
  rcases Page.dataTypeTables_eq_ok hts with ⟨htypes, rfl⟩ | ⟨main, further, rfl, hmain, hfurther⟩
  · exact .inl ⟨htypes, htext⟩
  · have hlinks := Page.linksTables_of_made hmain hfurther
    refine .inr ⟨main, further, hts, htext, hlinks, Page.unambiguous_iff hlinks ?_⟩
    obtain ⟨text, found, doc, u, -, hscan, hdoc, hdecode, rfl⟩ := parse_eq_ok h
    obtain ⟨-, rfl⟩ := Source.scanLines_eq_ok_iff.mp hscan
    exact (merge_lists _ hdoc.keysOnce hdecode).dataTypes.once

/-- A name with a pipe and a capital letter, one without properties, and another one. -/
def threeTypes : String :=
  "\x7b\"definitions\": \x7b\"b|C\": \x7b\"properties\": \x7b\"x\": \x7b\x7d\x7d\x7d, \"A\": \x7b\x7d, \"a\": \x7b\"properties\": \x7b\"x\": \x7b\x7d\x7d\x7d\x7d\x7d"

theorem caseApart_of_perm {names others : List String} (h : names ~ others) (hapart : CaseApart others) :
    CaseApart names :=
  fun m hm n hn => hapart m (h.mem_iff.mp hm) n (h.mem_iff.mp hn)

theorem parse_links_unambiguous_iff_three :
    ∃ t main further,
      (Template.parse "main.bicep" (.ok (Text.encode "")) "main.json"
        (.ok (Text.encode threeTypes))).result = .ok t ∧
      Page.tables t true .dataTypes = .ok (main :: further) ∧ Unambiguous main further := by
  obtain ⟨t, ht⟩ := exists_eq_ok (x := (Template.parse "main.bicep" (.ok (Text.encode "")) "main.json"
    (.ok (Text.encode threeTypes))).result) (by decide +kernel)
  have hnames : ((withProperties t.dataTypes).map fun d => d.name) ~ ["b|C", "a"] :=
    parse_names_perm ht (by decide +kernel)
  rcases parse_links_unambiguous_iff ht true with ⟨hnil, -⟩ | ⟨main, further, hts, -, -, hiff⟩
  · rw [hnil] at hnames
    exact absurd hnames.symm (by decide)
  · exact ⟨t, main, further, ht, hts, hiff.mpr (caseApart_of_perm hnames (by decide +kernel))⟩

/-- Two names that differ in their case only. -/
def twoCases : String :=
  "\x7b\"definitions\": \x7b\"A\": \x7b\"properties\": \x7b\"x\": \x7b\x7d\x7d\x7d, \"a\": \x7b\"properties\": \x7b\"y\": \x7b\x7d\x7d\x7d\x7d\x7d"

/-- Both links lead to the same place. -/
theorem links_clash_in_lower_case :
    ∃ t main further,
      (Template.parse "main.bicep" (.ok (Text.encode "")) "main.json"
        (.ok (Text.encode twoCases))).result = .ok t ∧
      Page.tables t false .dataTypes = .ok (main :: further) ∧
      main.linkedPlaces = ["a", "a"] ∧ ¬ Unambiguous main further := by
  obtain ⟨t, ht⟩ := exists_eq_ok (x := (Template.parse "main.bicep" (.ok (Text.encode "")) "main.json"
    (.ok (Text.encode twoCases))).result) (by decide +kernel)
  have hnames : ((withProperties t.dataTypes).map fun d => d.name) ~ ["A", "a"] :=
    parse_names_perm ht (by decide +kernel)
  obtain ⟨ts, hts, -⟩ := Page.tables_shows (parse_fromDocument ht) false .dataTypes
  rcases Page.dataTypeTables_eq_ok hts with ⟨hnil, -⟩ | ⟨main, further, rfl, hmain, hfurther⟩
  · rw [hnil] at hnames
    exact absurd hnames.symm (by decide)
  · have hplaces : main.linkedPlaces = ["a", "a"] := by
      have hlower := hnames.map lower
      rw [List.map_map] at hlower
      rw [linkedPlaces_of_under (Page.main_linked hmain)]
      exact List.perm_replicate.mp
        (hlower.trans (.of_eq (by decide +kernel : _ = List.replicate 2 "a")))
    refine ⟨t, main, further, ht, hts, hplaces, fun hunambiguous => ?_⟩
    have hnodup := hunambiguous.1
    rw [hplaces] at hnodup
    exact absurd hnodup (by decide)

end TemplateDocs
