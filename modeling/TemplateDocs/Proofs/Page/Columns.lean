import TemplateDocs.Page.Sections
import TemplateDocs.Proofs.Agreement

/-! # Tables made of columns

What the tables of a section are made of, where they could be made: the headers are those of the columns
shown, and each entity has one row with a cell for each of them.
-/

namespace TemplateDocs

open List

section Columns

variable {ε α : Type} {title : String} {level : Nat} {columns : List (Column ε α)} {items : List α}
  {t : Table}

/-- The cells of the row of an entity. -/
def Column.Row (columns : List (Column ε α)) (x : α) (cells : List String) : Prop :=
  Forall₂ (fun c s => c.cell x = .ok s) columns cells

/-- The table with a title and a level shows the entities by the columns. -/
structure Table.MadeOf (title : String) (level : Nat) (columns : List (Column ε α)) (items : List α)
    (t : Table) : Prop where
  title_eq : t.title = title
  level_eq : t.level = level
  headers_eq : t.headers = columns.map Column.header
  rows : Forall₂ (Column.Row columns) items t.rows

theorem Table.ofColumns_eq_ok (h : Table.ofColumns title level columns items = .ok t) :
    t.MadeOf title level columns items := by
  obtain ⟨rows, hrows, ht⟩ := bind_eq_ok_iff.mp h
  cases ht
  refine ⟨rfl, rfl, rfl, ?_⟩
  refine ((mapM_eq_ok_iff _ _ _).mp hrows).imp fun x cells hcells => ?_
  exact (mapM_eq_ok_iff _ _ _).mp hcells

end Columns

namespace Page

variable {α : Type} {w : Bool} {title : String} {columns : List (Col α)} {items : List α}
  {ts : List Table}

/-- A section has one table, or none if there is nothing to list. -/
theorem tableOf_eq_ok (h : tableOf w title columns items = .ok ts) :
    (items = [] ∧ ts = []) ∨
      ∃ t, t.MadeOf title 2 (Column.shown w columns) items ∧ ts = [t] := by
  unfold tableOf at h
  split at h
  case isTrue hempty =>
    cases h
    exact .inl ⟨List.isEmpty_iff.mp hempty, rfl⟩
  case isFalse =>
    cases hmade : Table.ofColumns title 2 (Column.shown w columns) items with
    | error e =>
        rw [hmade] at h
        cases h
    | ok t =>
        rw [hmade] at h
        cases h
        exact .inr ⟨t, Table.ofColumns_eq_ok hmade, rfl⟩

/-- The table of data types comes before those of their properties. -/
theorem dataTypeTables_eq_ok {types : List DataType} (h : dataTypeTables w types = .ok ts) :
    (types = [] ∧ ts = []) ∨
      ∃ main further, ts = main :: further ∧
        main.MadeOf "User Defined Data Types (UDDTs)" 2 (Column.shown w dataTypeColumns) types ∧
        Forall₂ (fun (d : DataType) (t : Table) =>
            t.MadeOf d.name 3 (Column.shown w (propertyColumns d)) d.properties)
          (types.filter fun d => !d.properties.isEmpty) further := by
  obtain ⟨first, hfirst, h⟩ := bind_eq_ok_iff.mp h
  obtain ⟨further, hfurther, h⟩ := bind_eq_ok_iff.mp h
  cases h
  rw [mapM_eq_ok_iff] at hfurther
  rcases tableOf_eq_ok hfirst with ⟨rfl, rfl⟩ | ⟨main, hmain, rfl⟩
  · cases hfurther
    exact .inl ⟨rfl, rfl⟩
  · exact .inr ⟨main, further, rfl, hmain, hfurther.imp fun _ _ => Table.ofColumns_eq_ok⟩

/-- The first table of a section stands under a heading of the second level. -/
theorem level_of_tables {t : Template} {s : Section} {first : Table} {others : List Table}
    (h : tables t w s = .ok (first :: others)) : first.level = 2 := by
  have hlevel {β : Type} {title : String} {columns : List (Col β)} {items : List β}
      (h : tableOf w title columns items = .ok (first :: others)) : first.level = 2 := by
    rcases tableOf_eq_ok h with ⟨-, hnil⟩ | ⟨made, hmade, hone⟩
    · cases hnil
    · cases hone
      exact hmade.level_eq
  cases s with
  | modules => exact hlevel h
  | resources => exact hlevel h
  | parameters => exact hlevel h
  | dataTypes =>
      rcases dataTypeTables_eq_ok h with ⟨-, hnil⟩ | ⟨main, further, hcons, hmain, -⟩
      · cases hnil
      · cases hcons
        exact hmain.level_eq
  | functions => exact hlevel h
  | vars => exact hlevel h
  | outputs => exact hlevel h
  | description => cases h
  | usage => cases h

end Page

end TemplateDocs
