import TemplateDocs.Files.Node
import TemplateDocs.Proofs.Entries

/-! # Laws of files and folders

What is planted stands at its place, and elsewhere all stays as it was. Files of different folders can be
planted in either order.
-/

namespace TemplateDocs.Node

/-! ## Places -/

/-- A folder stands at the place. -/
def IsFolderAt (n : Node) (place : List String) : Prop :=
  ∃ entries, n.at? place = some (folder entries)

theorem at?_append (n : Node) (p q : List String) :
    n.at? (p ++ q) = (n.at? p).bind fun node => node.at? q := by
  induction p generalizing n with
  | nil => rfl
  | cons name p ih =>
      cases n with
      | file bytes => rfl
      | folder entries =>
          simp only [List.cons_append, at?]
          cases entryOf? name entries with
          | none => rfl
          | some child => exact ih child

theorem at?_file (bytes : ByteArray) (place : List String) :
    (file bytes).at? place = if place = [] then some (file bytes) else none := by
  cases place <;> simp [at?]

/-- Only folders lead further down. -/
theorem IsFolderAt.of_append {n : Node} {p q : List String} (h : n.IsFolderAt (p ++ q)) :
    n.IsFolderAt p := by
  obtain ⟨entries, h⟩ := h
  rw [at?_append] at h
  cases hp : n.at? p with
  | none => simp [hp] at h
  | some node =>
      cases node with
      | folder es => exact ⟨es, hp⟩
      | file bytes =>
          simp only [hp, Option.bind_some, at?_file] at h
          split at h <;> cases h

theorem IsFolderAt.dropLast {n : Node} {place : List String} (h : n.IsFolderAt place) :
    n.IsFolderAt place.dropLast := by
  rcases List.eq_nil_or_concat place with rfl | ⟨p, name, rfl⟩
  · exact h
  · rw [List.concat_eq_append] at h ⊢
    rw [List.dropLast_concat]
    exact h.of_append

/-! ## Planting -/

theorem plant_plant (node : Node) (place : List String) (n : Node) :
    plant node place (plant node place n) = plant node place n := by
  induction place generalizing n with
  | nil => rfl
  | cons name place ih =>
      cases n with
      | file bytes => rfl
      | folder entries =>
          simp only [plant, entryOf?_setEntry_self, Option.getD_some, ih, setEntry_setEntry]

theorem at?_plant_child {n : Node} {parent : List String} (h : n.IsFolderAt parent) (name : String)
    (node : Node) (rest : List String) :
    (plant node (parent ++ [name]) n).at? (parent ++ [name] ++ rest) = node.at? rest := by
  induction parent generalizing n with
  | nil =>
      obtain ⟨entries, h⟩ := h
      cases h
      simp [plant, at?, entryOf?_setEntry_self]
  | cons part parent ih =>
      have hfolder : n.IsFolderAt [] := h.of_append (p := [])
      obtain ⟨entries, hentries⟩ := hfolder
      cases hentries
      obtain ⟨inner, h⟩ := h
      simp only [at?] at h
      cases hchild : entryOf? part entries with
      | none => simp [hchild] at h
      | some child =>
          simp only [hchild, Option.bind_some] at h
          simp only [List.cons_append, plant, at?, entryOf?_setEntry_self, hchild, Option.getD_some,
            Option.bind_some]
          exact ih ⟨inner, h⟩

/-- Elsewhere a tree stays as it was, but for the entries of the folders on the way. -/
theorem at?_plant_elsewhere {n : Node} {parent : List String} (h : n.IsFolderAt parent)
    (name : String) (node : Node) {place : List String} (hplace : ¬ parent ++ [name] <+: place) :
    (plant node (parent ++ [name]) n).at? place = n.at? place ∨
      ((plant node (parent ++ [name]) n).IsFolderAt place ∧ n.IsFolderAt place) := by
  induction parent generalizing n place with
  | nil =>
      obtain ⟨entries, h⟩ := h
      cases h
      cases place with
      | nil => exact .inr ⟨⟨_, rfl⟩, ⟨_, rfl⟩⟩
      | cons part place =>
          have hne : part ≠ name := by
            rintro rfl
            exact hplace (by simp)
          exact .inl (by simp [plant, at?, entryOf?_setEntry_of_ne hne])
  | cons first parent ih =>
      have hfolder : n.IsFolderAt [] := h.of_append (p := [])
      obtain ⟨entries, hentries⟩ := hfolder
      cases hentries
      obtain ⟨inner, h⟩ := h
      simp only [at?] at h
      cases hchild : entryOf? first entries with
      | none => simp [hchild] at h
      | some child =>
          simp only [hchild, Option.bind_some] at h
          cases place with
          | nil => exact .inr ⟨⟨_, rfl⟩, ⟨_, rfl⟩⟩
          | cons part place =>
              by_cases hne : part = first
              · subst hne
                have hrest : ¬ parent ++ [name] <+: place := by
                  intro hprefix
                  exact hplace (List.cons_prefix_cons.mpr ⟨rfl, hprefix⟩)
                have hdown := ih ⟨inner, h⟩ hrest
                simpa [plant, IsFolderAt, at?, entryOf?_setEntry_self, hchild] using hdown
              · exact .inl (by simp [plant, at?, entryOf?_setEntry_of_ne hne])

/-! ## Files in different folders -/

theorem entryOf?_of_isFolderAt {entries : List (String × Node)} {name : String} {place : List String}
    (h : (folder entries).IsFolderAt (name :: place)) :
    ∃ child, entryOf? name entries = some child ∧ child.IsFolderAt place := by
  obtain ⟨inner, h⟩ := h
  rw [at?] at h
  cases hchild : entryOf? name entries with
  | none => simp [hchild] at h
  | some child => exact ⟨child, rfl, inner, by simpa [hchild] using h⟩

theorem plant_cons {entries : List (String × Node)} {name : String} {child : Node}
    (h : entryOf? name entries = some child) (node : Node) (place : List String) :
    plant node (name :: place) (folder entries) =
      folder (setEntry name (plant node place child) entries) := by
  rw [plant, h]
  rfl

/-- A new entry of a folder and a change further down in it do not touch each other. -/
theorem plant_comm_above {entries : List (String × Node)} {place : List String} {name first : String}
    (hplace : (folder entries).IsFolderAt (first :: place))
    (hname : ¬ (folder entries).IsFolderAt [name]) (a b : Node) (rest : List String) :
    plant a [name] (plant b (first :: rest) (folder entries)) =
      plant b (first :: rest) (plant a [name] (folder entries)) := by
  obtain ⟨child, hchild, -⟩ := entryOf?_of_isFolderAt hplace
  have hne : first ≠ name := by
    rintro rfl
    exact hname (IsFolderAt.of_append (p := [first]) hplace)
  have hkept : entryOf? first (setEntry name a entries) = some child := by
    rw [entryOf?_setEntry_of_ne hne, hchild]
  have hsingle : ∀ es, plant a [name] (folder es) = folder (setEntry name a es) := fun _ => rfl
  rw [plant_cons hchild, hsingle, hsingle, plant_cons hkept, setEntry_comm (Ne.symm hne) _ _ hchild]

/-- Files of different folders can be planted in either order. -/
theorem plant_comm {u : Node} {f g : List String} {n m : String} (hf : u.IsFolderAt f)
    (hg : u.IsFolderAt g) (hne : f ≠ g) (hn : ¬ u.IsFolderAt (f ++ [n]))
    (hm : ¬ u.IsFolderAt (g ++ [m])) (a b : Node) :
    plant a (f ++ [n]) (plant b (g ++ [m]) u) = plant b (g ++ [m]) (plant a (f ++ [n]) u) := by
  induction f generalizing u g with
  | nil =>
      obtain ⟨entries, hentries⟩ := hf
      cases hentries
      cases g with
      | nil => exact absurd rfl hne
      | cons first g => exact plant_comm_above hg hn a b (g ++ [m])
  | cons first f ih =>
      obtain ⟨entries, hentries⟩ : u.IsFolderAt [] := IsFolderAt.of_append (p := []) hf
      cases hentries
      cases g with
      | nil => exact (plant_comm_above hf hm b a (f ++ [n])).symm
      | cons second g =>
          obtain ⟨child, hchild, hfchild⟩ := entryOf?_of_isFolderAt hf
          obtain ⟨other, hother, hgother⟩ := entryOf?_of_isFolderAt hg
          simp only [List.cons_append] at hn hm ⊢
          by_cases hsame : first = second
          · subst hsame
            rw [hchild] at hother
            cases hother
            have hdown : ∀ {place}, child.IsFolderAt place →
                (folder entries).IsFolderAt (first :: place) := by
              rintro place ⟨inner, hinner⟩
              exact ⟨inner, by simpa [at?, hchild] using hinner⟩
            have hcomm := ih hfchild hgother (fun h => hne (by rw [h])) (fun h => hn (hdown h))
              (fun h => hm (hdown h))
            rw [plant_cons hchild, plant_cons hchild,
              plant_cons (entryOf?_setEntry_self first _ entries),
              plant_cons (entryOf?_setEntry_self first _ entries), setEntry_setEntry,
              setEntry_setEntry, hcomm]
          · have hkept : ∀ x, entryOf? first (setEntry second x entries) = some child := by
              intro x
              rw [entryOf?_setEntry_of_ne hsame, hchild]
            have hkept' : ∀ x, entryOf? second (setEntry first x entries) = some other := by
              intro x
              rw [entryOf?_setEntry_of_ne (Ne.symm hsame), hother]
            rw [plant_cons hother, plant_cons hchild, plant_cons (hkept _), plant_cons (hkept' _),
              setEntry_comm hsame _ _ hother]

end TemplateDocs.Node
