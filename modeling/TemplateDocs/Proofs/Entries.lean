import Mathlib.Data.List.Forall2
import Mathlib.Data.List.Nodup
import TemplateDocs.Entries
import TemplateDocs.Proofs.Text.Order

/-! # Laws of entries and of sorting by name -/

namespace TemplateDocs

open List

/-! ## Sorting by name -/

section Sorting

variable {α β : Type} (name : α → String)

theorem sortByName_perm (items : List α) : sortByName name items ~ items :=
  List.mergeSort_perm items _

theorem names_inOrder_trans (a b c : α) (hab : Text.inOrder (name a) (name b) = true)
    (hbc : Text.inOrder (name b) (name c) = true) : Text.inOrder (name a) (name c) = true :=
  Text.inOrder_trans hab hbc

theorem names_inOrder_total (a b : α) :
    (Text.inOrder (name a) (name b) || Text.inOrder (name b) (name a)) = true := by
  rw [Bool.or_eq_true]
  exact Text.inOrder_total (name a) (name b)

theorem sortByName_sorted (items : List α) :
    (sortByName name items).Pairwise (fun a b => Text.inOrder (name a) (name b)) :=
  List.pairwise_mergeSort (names_inOrder_trans name) (names_inOrder_total name) items

/-- Items of one name keep their order: the subsequence of each name is left as it was. -/
theorem sortByName_stable (items : List α) (k : String) :
    (sortByName name items).filter (fun x => decide (name x = k)) =
      items.filter (fun x => decide (name x = k)) := by
  have hsub : items.filter (fun x => decide (name x = k)) <+ sortByName name items := by
    apply List.sublist_mergeSort (names_inOrder_trans name) (names_inOrder_total name) _
      List.filter_sublist
    apply List.pairwise_of_forall_mem_list
    intro a ha b hb
    have hab : name a = name b := by
      rw [of_decide_eq_true (List.mem_filter.mp ha).2, of_decide_eq_true (List.mem_filter.mp hb).2]
    rw [hab]
    exact Text.inOrder_refl (name b)
  have hfilter := hsub.filter (fun x => decide (name x = k))
  rw [List.filter_filter] at hfilter
  simp only [Bool.and_self] at hfilter
  refine (hfilter.eq_of_length ?_).symm
  exact (((sortByName_perm name items).filter _).length_eq).symm

/-- A change that keeps the names may be made before or after sorting. -/
theorem map_sortByName (other : β → String) (f : α → β) (hf : ∀ a, other (f a) = name a)
    (items : List α) : (sortByName name items).map f = sortByName other (items.map f) := by
  apply List.map_mergeSort
  intro a _ b _
  simp [hf]

/-- Sorting leaves one order only when no name stands twice. -/
theorem sortByName_eq_of_perm {xs ys : List α} (h : xs ~ ys) (hn : (xs.map name).Nodup) :
    sortByName name xs = sortByName name ys := by
  have hp : sortByName name xs ~ sortByName name ys :=
    ((sortByName_perm name xs).trans h).trans (sortByName_perm name ys).symm
  refine hp.eq_of_pairwise ?_ (sortByName_sorted name xs) (sortByName_sorted name ys)
  intro a b ha hb hab hba
  have hb' : b ∈ xs := (h.mem_iff).mpr ((sortByName_perm name ys).mem_iff.mp hb)
  exact List.inj_on_of_nodup_map hn ((sortByName_perm name xs).mem_iff.mp ha) hb'
    (Text.inOrder_antisymm hab hba)

end Sorting

/-! ## Lists that correspond name by name -/

section Correspondence

variable {α β : Type} {R : α → β → Prop} {name : α → String} {other : β → String}

/-- The items of each name correspond one after the other; items of different names may stand in any
order. -/
def CorrespondByName (R : α → β → Prop) (name : α → String) (other : β → String) (xs : List α)
    (ys : List β) : Prop :=
  ∀ k, Forall₂ R (xs.filter fun x => decide (name x = k)) (ys.filter fun y => decide (other y = k))

theorem length_filter_name (name : α → String) (xs : List α) (k : String) :
    (xs.filter fun x => decide (name x = k)).length = (xs.map name).count k := by
  rw [List.count_eq_countP, List.countP_map, List.countP_eq_length_filter]
  congr 2

/-- Sorted lists that correspond name by name correspond throughout. -/
theorem CorrespondByName.forall₂_of_sorted (hR : ∀ a b, R a b → name a = other b) :
    ∀ {xs : List α} {ys : List β}, xs.Pairwise (fun a b => Text.inOrder (name a) (name b)) →
      ys.Pairwise (fun a b => Text.inOrder (other a) (other b)) → CorrespondByName R name other xs ys →
      Forall₂ R xs ys := by
  intro xs
  induction xs with
  | nil =>
      intro ys _ _ h
      cases ys with
      | nil => exact .nil
      | cons y ys => simpa using h (other y)
  | cons x xs ih =>
      intro ys hx hy h
      cases ys with
      | nil => simpa using h (name x)
      | cons y ys =>
          -- Each head has a partner of its own name in the other list, so neither name is smaller.
          have hxy : name x = other y := by
            have hleft : ∃ b ∈ y :: ys, name x = other b := by
              have hk := h (name x)
              rw [List.filter_cons_of_pos (by simp)] at hk
              obtain ⟨b, l, hb, -, hl⟩ := List.forall₂_cons_left_iff.mp hk
              have hmem : b ∈ (y :: ys).filter fun z => decide (other z = name x) := by
                rw [hl]
                exact List.mem_cons_self
              exact ⟨b, (List.mem_filter.mp hmem).1, hR x b hb⟩
            have hright : ∃ a ∈ x :: xs, name a = other y := by
              have hk := h (other y)
              rw [List.filter_cons_of_pos (l := ys) (by simp)] at hk
              obtain ⟨a, l, ha, -, hl⟩ := List.forall₂_cons_right_iff.mp hk
              have hmem : a ∈ (x :: xs).filter fun z => decide (name z = other y) := by
                rw [hl]
                exact List.mem_cons_self
              exact ⟨a, (List.mem_filter.mp hmem).1, hR a y ha⟩
            obtain ⟨b, hb, hxb⟩ := hleft
            obtain ⟨a, ha, hay⟩ := hright
            have hle : Text.inOrder (other y) (name x) = true := by
              rcases List.mem_cons.mp hb with rfl | hb
              · exact hxb ▸ Text.inOrder_refl _
              · exact hxb ▸ List.rel_of_pairwise_cons hy hb
            have hge : Text.inOrder (name x) (other y) = true := by
              rcases List.mem_cons.mp ha with rfl | ha
              · exact hay ▸ Text.inOrder_refl _
              · exact hay ▸ List.rel_of_pairwise_cons hx ha
            exact Text.inOrder_antisymm hge hle
          have hhead : R x y := by
            have hk := h (name x)
            simp only [List.filter_cons, hxy, decide_true, if_true] at hk
            exact (List.forall₂_cons.mp hk).1
          refine .cons hhead (ih hx.tail hy.tail ?_)
          intro k
          have hk := h k
          by_cases hn : name x = k
          · simpa [List.filter_cons, hn, hxy.symm.trans hn, hhead] using hk
          · simpa [List.filter_cons, hn, hxy ▸ hn] using hk

theorem CorrespondByName.sortByName_correspond {xs : List α} {ys : List β}
    (h : CorrespondByName R name other xs ys) :
    CorrespondByName R name other (TemplateDocs.sortByName name xs)
      (TemplateDocs.sortByName other ys) := by
  intro k
  rw [sortByName_stable, sortByName_stable]
  exact h k

/-- Sorting by name brings corresponding lists in step. -/
theorem CorrespondByName.sortByName (hR : ∀ a b, R a b → name a = other b) {xs : List α}
    {ys : List β} (h : CorrespondByName R name other xs ys) :
    Forall₂ R (sortByName name xs) (TemplateDocs.sortByName other ys) := by
  exact CorrespondByName.forall₂_of_sorted hR (sortByName_sorted name xs)
    (sortByName_sorted other ys) h.sortByName_correspond

theorem CorrespondByName.refl {R : α → α → Prop} (hR : ∀ a, R a a) (name : α → String)
    (xs : List α) : CorrespondByName R name name xs xs :=
  fun _ => List.forall₂_same.mpr fun a _ => hR a

theorem CorrespondByName.map {γ δ : Type} {S : γ → δ → Prop} {name' : γ → String}
    {other' : δ → String} {f : α → γ} {g : β → δ} {xs : List α} {ys : List β}
    (h : CorrespondByName R name other xs ys) (hf : ∀ a, name' (f a) = name a)
    (hg : ∀ b, other' (g b) = other b) (hS : ∀ a b, R a b → S (f a) (g b)) :
    CorrespondByName S name' other' (xs.map f) (ys.map g) := by
  intro k
  simp only [List.filter_map, Function.comp_def, hf, hg, List.forall₂_map_left_iff,
    List.forall₂_map_right_iff]
  exact (h k).imp hS

theorem CorrespondByName.isEmpty_eq (hR : ∀ a b, R a b → name a = other b) {xs : List α}
    {ys : List β} (h : CorrespondByName R name other xs ys) : xs.isEmpty = ys.isEmpty := by
  have hlen := (h.sortByName hR).length_eq
  rw [(sortByName_perm name xs).length_eq, (sortByName_perm other ys).length_eq] at hlen
  cases xs <;> cases ys <;> simp_all

theorem CorrespondByName.append {xs xs' : List α} {ys ys' : List β}
    (h : CorrespondByName R name other xs ys) (h' : CorrespondByName R name other xs' ys') :
    CorrespondByName R name other (xs ++ xs') (ys ++ ys') := by
  intro k
  simpa only [List.filter_append] using List.rel_append (h k) (h' k)

/-- Lists that correspond in some order correspond name by name when no name stands twice. -/
theorem CorrespondByName.of_perm {xs : List α} {zs ys : List β}
    (hR : ∀ a b, R a b → name a = other b) (h : Forall₂ R xs zs) (hp : zs ~ ys)
    (hn : (zs.map other).Nodup) : CorrespondByName R name other xs ys := by
  intro k
  have hfilter : (zs.filter fun z => decide (other z = k)) = ys.filter fun y => decide (other y = k) := by
    have hperm := hp.filter fun z => decide (other z = k)
    have hlen : (zs.filter fun z => decide (other z = k)).length ≤ 1 := by
      rw [length_filter_name]
      exact List.nodup_iff_count_le_one.mp hn k
    match hz : zs.filter fun z => decide (other z = k), hlen with
    | [], _ => exact ((hz ▸ hperm).nil_eq)
    | [z], _ => exact ((hz ▸ hperm).singleton_eq)
  rw [← hfilter]
  apply List.rel_filter _ h
  intro a b hab
  simp [hR a b hab]

/-- Lists with the same names correspond when items of one name are always related. -/
theorem CorrespondByName.of_names {xs : List α} {ys : List β}
    (hR : ∀ a ∈ xs, ∀ b ∈ ys, name a = other b → R a b) (h : xs.map name ~ ys.map other) :
    CorrespondByName R name other xs ys := by
  intro k
  refine List.forall₂_iff_zip.mpr ⟨?_, ?_⟩
  · rw [length_filter_name, length_filter_name, h.count_eq]
  · intro a b hab
    obtain ⟨ha, hak⟩ := List.mem_filter.mp (List.of_mem_zip hab).1
    obtain ⟨hb, hbk⟩ := List.mem_filter.mp (List.of_mem_zip hab).2
    exact hR a ha b hb ((of_decide_eq_true hak).trans (of_decide_eq_true hbk).symm)

end Correspondence

/-! ## Entries -/

section Entries

variable {α : Type}

/-- The entry that is looked up is the first one under the key. -/
theorem mem_of_entryOf?_eq_some {entries : List (String × α)} {key : String} {value : α}
    (h : entryOf? key entries = some value) : (key, value) ∈ entries := by
  obtain ⟨before, after, rfl, -⟩ := List.lookup_eq_some_iff.mp h
  exact List.mem_append_right before List.mem_cons_self

theorem entryOf?_eq_some_iff {entries : List (String × α)} (hn : (entries.map Prod.fst).Nodup)
    (key : String) (value : α) : entryOf? key entries = some value ↔ (key, value) ∈ entries := by
  unfold entryOf?
  induction entries with
  | nil => simp
  | cons e entries ih =>
      obtain ⟨k, v⟩ := e
      rw [List.map_cons, List.nodup_cons] at hn
      by_cases hk : key = k
      · subst hk
        have hnot : (key, value) ∉ entries := fun h => hn.1 (List.mem_map.mpr ⟨_, h, rfl⟩)
        simp [hnot, eq_comm]
      · have hb : (key == k) = false := beq_eq_false_iff_ne.mpr hk
        simp only [List.lookup_cons, hb, ih hn.2, List.mem_cons, Prod.mk.injEq, hk, false_and,
          false_or]

/-- Where no key stands twice, the order of entries does not matter to a look-up. -/
theorem entryOf?_eq_of_perm {es fs : List (String × α)} (h : es ~ fs)
    (hn : (es.map Prod.fst).Nodup) (key : String) : entryOf? key es = entryOf? key fs := by
  apply Option.ext
  intro value
  have hn' : (fs.map Prod.fst).Nodup := (h.map Prod.fst).nodup_iff.mp hn
  rw [entryOf?_eq_some_iff hn, entryOf?_eq_some_iff hn', h.mem_iff]

theorem map_fst_setEntry (key : String) (value : α) (entries : List (String × α)) :
    (setEntry key value entries).map Prod.fst =
      if key ∈ entries.map Prod.fst then entries.map Prod.fst else entries.map Prod.fst ++ [key] := by
  induction entries with
  | nil => simp [setEntry]
  | cons e entries ih =>
      obtain ⟨k, v⟩ := e
      by_cases hk : k = key
      · simp [setEntry, hk]
      · have hk' : key ≠ k := fun h => hk h.symm
        simp only [setEntry, beq_iff_eq, hk, if_false, List.map_cons, ih, List.mem_cons, hk', false_or]
        split <;> simp

theorem setEntry_nodup (key : String) (value : α) {entries : List (String × α)}
    (hn : (entries.map Prod.fst).Nodup) : ((setEntry key value entries).map Prod.fst).Nodup := by
  rw [map_fst_setEntry]
  split
  · exact hn
  · exact List.nodup_append.mpr ⟨hn, by simp, by rintro a ha b hb rfl; simp_all⟩

theorem lastEntries_nodup (entries : List (String × α)) :
    ((lastEntries entries).map Prod.fst).Nodup := by
  have h : ∀ kept : List (String × α), (kept.map Prod.fst).Nodup →
      ((entries.foldl (fun kept e => setEntry e.1 e.2 kept) kept).map Prod.fst).Nodup := by
    induction entries with
    | nil => exact fun _ hn => hn
    | cons e entries ih => exact fun kept hn => ih _ (setEntry_nodup e.1 e.2 hn)
  exact h [] (by simp)

theorem mem_setEntry {key : String} {value : α} {entries : List (String × α)} {e : String × α}
    (h : e ∈ setEntry key value entries) : e = (key, value) ∨ e ∈ entries := by
  induction entries with
  | nil => simpa [setEntry] using h
  | cons f entries ih =>
      obtain ⟨k, v⟩ := f
      by_cases hk : k = key
      · subst hk
        simp only [setEntry, beq_self_eq_true, if_true, List.mem_cons] at h
        exact h.imp id (List.mem_cons_of_mem _)
      · simp only [setEntry, beq_iff_eq, hk, if_false, List.mem_cons] at h
        rcases h with rfl | h
        · exact .inr List.mem_cons_self
        · exact (ih h).imp id (List.mem_cons_of_mem _)

theorem entryOf?_setEntry_self (key : String) (value : α) (entries : List (String × α)) :
    entryOf? key (setEntry key value entries) = some value := by
  unfold entryOf?
  induction entries with
  | nil => simp [setEntry]
  | cons e entries ih =>
      obtain ⟨k, v⟩ := e
      by_cases hk : k = key
      · simp [setEntry, hk]
      · have hb : (key == k) = false := beq_eq_false_iff_ne.mpr (Ne.symm hk)
        simp [setEntry, hk, List.lookup_cons, hb, ih]

theorem entryOf?_eraseP_of_ne {key other : String} (h : other ≠ key) (entries : List (String × α)) :
    entryOf? other (entries.eraseP fun e => e.1 == key) = entryOf? other entries := by
  have hb : (other == key) = false := beq_eq_false_iff_ne.mpr h
  unfold entryOf?
  induction entries with
  | nil => rfl
  | cons e entries ih =>
      obtain ⟨k, v⟩ := e
      by_cases hk : k = key
      · simp [hk, List.lookup_cons, hb]
      · have hne : (k == key) = false := beq_eq_false_iff_ne.mpr hk
        simp [hne, List.lookup_cons, ih]

theorem entryOf?_setEntry_of_ne {key other : String} (h : other ≠ key) (value : α)
    (entries : List (String × α)) :
    entryOf? other (setEntry key value entries) = entryOf? other entries := by
  have hb : (other == key) = false := beq_eq_false_iff_ne.mpr h
  unfold entryOf?
  induction entries with
  | nil => simp [setEntry, List.lookup_cons, hb]
  | cons e entries ih =>
      obtain ⟨k, v⟩ := e
      by_cases hk : k = key
      · simp [setEntry, hk, List.lookup_cons, hb]
      · simp [setEntry, hk, List.lookup_cons, ih]

theorem setEntry_setEntry (key : String) (value other : α) (entries : List (String × α)) :
    setEntry key value (setEntry key other entries) = setEntry key value entries := by
  induction entries with
  | nil => simp [setEntry]
  | cons e entries ih =>
      obtain ⟨k, v⟩ := e
      by_cases hk : k = key
      · simp [setEntry, hk]
      · simp [setEntry, hk, ih]

theorem setEntry_comm {key other : String} (hne : key ≠ other) (a b : α)
    {entries : List (String × α)} {value : α} (hother : entryOf? other entries = some value) :
    setEntry key a (setEntry other b entries) = setEntry other b (setEntry key a entries) := by
  induction entries with
  | nil => cases hother
  | cons e entries ih =>
      obtain ⟨k, v⟩ := e
      by_cases hk : k = other
      · subst hk
        have hkey : (k == key) = false := beq_false_of_ne (Ne.symm hne)
        simp [setEntry, hkey]
      · have hko : (k == other) = false := beq_false_of_ne hk
        have hok : (other == k) = false := beq_false_of_ne (Ne.symm hk)
        by_cases hkey : k = key
        · simp [setEntry, hkey, hne]
        · have hrest : entryOf? other entries = some value := by
            simpa [entryOf?, List.lookup_cons, hok] using hother
          simp [setEntry, hkey, hk, ih hrest]

/-- Nothing is kept that was not there. -/
theorem mem_lastEntries {entries : List (String × α)} {e : String × α} (h : e ∈ lastEntries entries) :
    e ∈ entries := by
  have hfold : ∀ (rest kept : List (String × α)),
      e ∈ rest.foldl (fun kept e => setEntry e.1 e.2 kept) kept → e ∈ rest ∨ e ∈ kept := by
    intro rest
    induction rest with
    | nil => exact fun _ h => .inr h
    | cons f rest ih =>
        intro kept h
        rcases ih _ h with h | h
        · exact .inl (List.mem_cons_of_mem _ h)
        · exact (mem_setEntry h).imp (fun h => by simp [h]) id
  simpa using hfold entries [] h

theorem setEntry_of_not_mem {key : String} {entries : List (String × α)}
    (h : key ∉ entries.map Prod.fst) (value : α) :
    setEntry key value entries = entries ++ [(key, value)] := by
  induction entries with
  | nil => rfl
  | cons e entries ih =>
      rw [List.map_cons, List.mem_cons, not_or] at h
      have hne : (e.1 == key) = false := beq_false_of_ne (Ne.symm h.1)
      simp [setEntry, hne, ih h.2]

/-- Where no key stands twice, nothing is replaced. -/
theorem lastEntries_of_nodup {entries : List (String × α)} (hn : (entries.map Prod.fst).Nodup) :
    lastEntries entries = entries := by
  have hfold : ∀ (rest kept : List (String × α)), ((kept ++ rest).map Prod.fst).Nodup →
      rest.foldl (fun kept e => setEntry e.1 e.2 kept) kept = kept ++ rest := by
    intro rest
    induction rest with
    | nil => simp
    | cons e rest ih =>
        intro kept hkept
        have hnew : e.1 ∉ kept.map Prod.fst := by
          rw [List.map_append, List.map_cons, List.nodup_middle, List.nodup_cons] at hkept
          exact fun hmem => hkept.1 (List.mem_append_left _ hmem)
        rw [List.foldl_cons, setEntry_of_not_mem hnew, ih _ (by simpa using hkept)]
        simp
  exact hfold entries [] hn

end Entries

end TemplateDocs
