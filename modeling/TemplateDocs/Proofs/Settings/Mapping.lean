import TemplateDocs.Settings.Layers

/-! # Laws of mappings

A text is found in a mapping under itself only. In a mapping as it is read from a file no key stands
twice, and merging keeps it so: what is found under a text then comes from the upper mapping if it has
the text, and from the lower one otherwise.
-/

namespace TemplateDocs

open List

/-! ## Looking up texts -/

namespace Key

variable {α : Type} {key : Key} {name : String}

@[simp] theorem same_text_iff : key.same (.text name) = true ↔ key = .text name := by
  cases key <;> simp [same, whole?]

@[simp] theorem text_same_iff : (Key.text name).same key = true ↔ key = .text name := by
  cases key with
  | text other => simpa [same] using eq_comm
  | _ => simp [same, whole?]

@[simp] theorem find?_text_nil : (Key.text name).find? ([] : List (Key × α)) = none :=
  rfl

theorem find?_text_cons (key : Key) (value : α) (entries : List (Key × α)) :
    (Key.text name).find? ((key, value) :: entries) =
      if key = .text name then some value else (Key.text name).find? entries := by
  unfold find?
  by_cases hkey : key = .text name
  · simp [hkey, same]
  · have hsame : key.same (.text name) = false := Bool.eq_false_iff.mpr (mt same_text_iff.mp hkey)
    simp [hsame, hkey]

theorem find?_text_append (entries more : List (Key × α)) :
    (Key.text name).find? (entries ++ more) =
      ((Key.text name).find? entries).or ((Key.text name).find? more) := by
  induction entries with
  | nil => rfl
  | cons e entries ih =>
      obtain ⟨k, v⟩ := e
      rw [List.cons_append, find?_text_cons, find?_text_cons, ih]
      split <;> rfl

theorem find?_text_of_mem {entries : List (Key × α)} {value : α}
    (h : (Key.text name).find? entries = some value) : (.text name, value) ∈ entries := by
  induction entries with
  | nil => cases h
  | cons e entries ih =>
      obtain ⟨k, v⟩ := e
      rw [find?_text_cons] at h
      split at h
      · rename_i hkey
        cases h
        simp [hkey]
      · exact List.mem_cons_of_mem _ (ih h)

theorem find?_text_eq_none {entries : List (Key × α)} (h : ∀ e ∈ entries, e.1 ≠ .text name) :
    (Key.text name).find? entries = none := by
  cases hfind : (Key.text name).find? entries with
  | none => rfl
  | some value => exact absurd rfl (h _ (find?_text_of_mem hfind))

theorem find?_text_filter {entries : List (Key × α)} {p : Key × α → Bool}
    (h : ∀ value, p (.text name, value) = true) :
    (Key.text name).find? (entries.filter p) = (Key.text name).find? entries := by
  induction entries with
  | nil => rfl
  | cons e entries ih =>
      obtain ⟨k, v⟩ := e
      rw [List.filter_cons, find?_text_cons]
      by_cases hkey : k = .text name
      · simp [hkey, h v, find?_text_cons]
      · split <;> simp [find?_text_cons, hkey, ih]

theorem find?_text_set (key : Key) (value : α) (entries : List (Key × α)) :
    (Key.text name).find? (key.set value entries) =
      if key = .text name then some value else (Key.text name).find? entries := by
  induction entries with
  | nil => rw [Key.set, find?_text_cons]
  | cons e entries ih =>
      obtain ⟨k, v⟩ := e
      rw [Key.set]
      split
      · -- The key that is there is the text exactly if the new one is.
        rename_i hsame
        have hiff : k = .text name ↔ key = .text name := by
          constructor
          · rintro rfl
            exact text_same_iff.mp hsame
          · rintro rfl
            exact same_text_iff.mp hsame
        rw [find?_text_cons, find?_text_cons]
        by_cases hkey : key = .text name
        · simp [hkey, hiff.mpr hkey]
        · simp [hkey, mt hiff.mp hkey]
      · rename_i hsame
        rw [find?_text_cons, ih, find?_text_cons]
        by_cases hkey : key = .text name
        · subst hkey
          have hk : k ≠ .text name := by simpa using hsame
          simp [hk]
        · simp [hkey]

theorem mem_set {key : Key} {value : α} {entries : List (Key × α)} {e : Key × α}
    (h : e ∈ key.set value entries) :
    e ∈ entries ∨ e.2 = value ∧ (e.1 = key ∨ ∃ old, (e.1, old) ∈ entries) := by
  induction entries with
  | nil => simp_all [Key.set]
  | cons f entries ih =>
      obtain ⟨k, v⟩ := f
      rw [Key.set] at h
      split at h
      · rcases List.mem_cons.mp h with rfl | h
        · exact .inr ⟨rfl, .inr ⟨v, List.mem_cons_self⟩⟩
        · exact .inl (List.mem_cons_of_mem _ h)
      · rcases List.mem_cons.mp h with rfl | h
        · exact .inl List.mem_cons_self
        · rcases ih h with h | ⟨hvalue, hkey | ⟨old, hold⟩⟩
          · exact .inl (List.mem_cons_of_mem _ h)
          · exact .inr ⟨hvalue, .inl hkey⟩
          · exact .inr ⟨hvalue, .inr ⟨old, List.mem_cons_of_mem _ hold⟩⟩

end Key

/-! ## Mappings without a key twice -/

namespace Mapping

/-- No key stands twice in a mapping. -/
def KeysOnce (m : Mapping) : Prop :=
  m.Pairwise fun e f => e.1.same f.1 = false

theorem KeysOnce.set {m : Mapping} (h : m.KeysOnce) (key : Key) (value : Value) :
    KeysOnce (key.set value m) := by
  unfold KeysOnce at h ⊢
  induction m with
  | nil => simp [Key.set]
  | cons e m ih =>
      obtain ⟨k, v⟩ := e
      obtain ⟨hhead, htail⟩ := List.pairwise_cons.mp h
      rw [Key.set]
      split
      · exact List.pairwise_cons.mpr ⟨hhead, htail⟩
      · rename_i hsame
        refine List.pairwise_cons.mpr ⟨fun e he => ?_, ih htail⟩
        rcases Key.mem_set he with he | ⟨-, hkey | ⟨old, hold⟩⟩
        · exact hhead e he
        · rw [hkey]
          simpa using hsame
        · exact hhead (e.1, old) hold

theorem KeysOnce.merge {below : Mapping} (h : below.KeysOnce) (entries : Mapping) :
    KeysOnce (Mapping.merge below entries) := by
  induction entries generalizing below with
  | nil => simpa [Mapping.merge] using h
  | cons e entries ih =>
      obtain ⟨k, v⟩ := e
      rw [Mapping.merge]
      exact ih (h.set k _)

theorem KeysOnce.text_not_mem {name : String} {value : Value} {m : Mapping}
    (h : KeysOnce ((.text name, value) :: m)) : ∀ e ∈ m, e.1 ≠ .text name := by
  intro e he hkey
  have hsame := (List.pairwise_cons.mp h).1 e he
  simp [hkey, Key.same] at hsame

/-- Leaving out entries leaves out the value under a text, and no other takes its place. -/
theorem KeysOnce.find?_filter {m : Mapping} (h : m.KeysOnce) (p : Value → Bool) (name : String) :
    (Key.text name).find? (m.filter fun e => p e.2) = ((Key.text name).find? m).filter p := by
  induction m with
  | nil => rfl
  | cons e m ih =>
      obtain ⟨k, v⟩ := e
      have hrest := ih (List.pairwise_cons.mp h).2
      rw [List.filter_cons, Key.find?_text_cons]
      by_cases hkey : k = .text name
      · subst hkey
        have hnone := Key.find?_text_eq_none (KeysOnce.text_not_mem h)
        rw [hnone] at hrest
        by_cases hp : p v = true <;> simp [hp, Key.find?_text_cons, hrest, Option.filter]
      · by_cases hp : p v = true <;> simp [hp, Key.find?_text_cons, hkey, hrest]

/-- The keys of a merged mapping are keys of one of the two. -/
theorem exists_of_mem_merge {below entries : Mapping} {e : Key × Value}
    (h : e ∈ Mapping.merge below entries) : ∃ value, (e.1, value) ∈ below ∨ (e.1, value) ∈ entries := by
  induction entries generalizing below with
  | nil => exact ⟨e.2, .inl (by simpa [Mapping.merge] using h)⟩
  | cons f entries ih =>
      obtain ⟨k, v⟩ := f
      rw [Mapping.merge] at h
      obtain ⟨value, hbelow | hentries⟩ := ih h
      · rcases Key.mem_set hbelow with hbelow | ⟨-, hkey | ⟨old, hold⟩⟩
        · exact ⟨value, .inl hbelow⟩
        · exact ⟨v, .inr (by rw [hkey]; exact List.mem_cons_self)⟩
        · exact ⟨old, .inl hold⟩
      · exact ⟨value, .inr (List.mem_cons_of_mem _ hentries)⟩

/-- What is found in a merged mapping: the upper value, on top of the lower one, or the lower one. -/
theorem find?_merge {below entries : Mapping} (h : entries.KeysOnce) (name : String) :
    (Key.text name).find? (Mapping.merge below entries) =
      match (Key.text name).find? entries with
      | some value => some (value.onto ((Key.text name).find? below))
      | none => (Key.text name).find? below := by
  induction entries generalizing below with
  | nil => simp [Mapping.merge]
  | cons e entries ih =>
      obtain ⟨k, v⟩ := e
      rw [Mapping.merge, ih (List.pairwise_cons.mp h).2, Key.find?_text_set, Key.find?_text_cons]
      by_cases hkey : k = .text name
      · subst hkey
        rw [Key.find?_text_eq_none (KeysOnce.text_not_mem h)]
        simp
      · simp [hkey]

end Mapping

/-! ## Values that are no mappings -/

/-- A mapping, also one that contains itself. -/
def Value.isMapping : Value → Bool
  | .dict _ => true
  | .ring isList _ _ => !isList
  | _ => false

/-- A value takes the place of one that is no mapping. -/
theorem Value.onto_of_not_isMapping {below : Option Value} (h : below.all fun v => !v.isMapping)
    (value : Value) : value.onto below = value := by
  cases value with
  | dict entries =>
      unfold Value.onto
      split
      · simp [Value.isMapping] at h
      · rfl
  | _ => simp [Value.onto]

/-- Over values that are no mappings the upper value wins. -/
theorem Mapping.find?_merge_of_not_isMapping {below entries : Mapping} (h : entries.KeysOnce)
    {name : String} (hplain : ((Key.text name).find? below).all fun v => !v.isMapping) :
    (Key.text name).find? (Mapping.merge below entries) =
      ((Key.text name).find? entries).or ((Key.text name).find? below) := by
  rw [Mapping.find?_merge h]
  cases (Key.text name).find? entries with
  | none => rfl
  | some value => simp [Value.onto_of_not_isMapping hplain]

end TemplateDocs
