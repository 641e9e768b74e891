import TemplateDocs.Proofs.Value.Json

/-! # Values that JSON has no text for

Of the values that lists, tuples and mappings are put together from, JSON has no text for bytes, sets, things
of other kinds, numbers with too many digits and mappings whose keys are numbers and texts. Values that stand
too deep inside of others have none either.
-/

namespace TemplateDocs

open List

/-! ## Numbers with too many digits -/

/-- A whole number has too many digits to be shown. -/
def IsLong (n : Int) : Prop :=
  Text.decimal? n = none

theorem exists_showInt_iff {n : Int} : (∃ s, showInt n = .ok s) ↔ ¬ IsLong n := by
  unfold showInt IsLong
  cases Text.decimal? n <;> simp

theorem showInt_of_isLong {n : Int} (h : IsLong n) : showInt n = .error .wrongValue := by
  rw [IsLong] at h
  rw [showInt, h]

/-- A key is a whole number with too many digits. -/
def Key.IsLong (k : Key) : Prop :=
  ∃ n, k = .int n ∧ TemplateDocs.IsLong n

namespace Value

/-! ## Values and their parts -/

/-- Whole numbers and texts are the keys of mappings. -/
def HasPlainKeys (entries : List (Key × Value)) : Prop :=
  ∀ e ∈ entries, (∃ n, e.1 = .int n) ∨ ∃ s, e.1 = .text s

/-- A value is put together, by lists, tuples and mappings with plain keys, from what the notations have
and from bytes, sets and things of other kinds. -/
inductive Composed : Value → Prop where
  | null : Composed .null
  | bool (b : Bool) : Composed (.bool b)
  | int (n : Int) : Composed (.int n)
  | text (s : String) : Composed (.text s)
  | bytes (content : List UInt8) : Composed (.bytes content)
  | set (members : List Key) : Composed (.set members)
  | foreign (kind : String) : Composed (.foreign kind)
  | list {items : List Value} (h : ∀ x ∈ items, Composed x) : Composed (.list items)
  | tuple {items : List Value} (h : ∀ x ∈ items, Composed x) : Composed (.tuple items)
  | dict {entries : List (Key × Value)} (hkeys : HasPlainKeys entries)
      (h : ∀ e ∈ entries, Composed e.2) : Composed (.dict entries)

section Parts

variable {p : Value → Prop} {v : Value}

/-- A value without parts is the only one inside itself. -/
theorem forall_partOf_leaf (hlist : ∀ items, v ≠ .list items) (htuple : ∀ items, v ≠ .tuple items)
    (hdict : ∀ entries, v ≠ .dict entries) : (∀ u, PartOf u v → p u) ↔ p v := by
  refine ⟨fun h => h v (.self v), fun h u hu => ?_⟩
  cases hu with
  | self => exact h
  | item => exact absurd rfl (hlist _)
  | member => exact absurd rfl (htuple _)
  | entry => exact absurd rfl (hdict _)

theorem forall_partOf_list {items : List Value} :
    (∀ u, PartOf u (.list items) → p u) ↔ p (.list items) ∧ ∀ x ∈ items, ∀ u, PartOf u x → p u := by
  refine ⟨fun h => ⟨h _ (.self _), fun x hx u hu => h u (.item hx hu)⟩, fun h u hu => ?_⟩
  cases hu with
  | self => exact h.1
  | item hx hu => exact h.2 _ hx u hu

theorem forall_partOf_tuple {items : List Value} :
    (∀ u, PartOf u (.tuple items) → p u) ↔ p (.tuple items) ∧ ∀ x ∈ items, ∀ u, PartOf u x → p u := by
  refine ⟨fun h => ⟨h _ (.self _), fun x hx u hu => h u (.member hx hu)⟩, fun h u hu => ?_⟩
  cases hu with
  | self => exact h.1
  | member hx hu => exact h.2 _ hx u hu

theorem forall_partOf_dict {entries : List (Key × Value)} :
    (∀ u, PartOf u (.dict entries) → p u) ↔
      p (.dict entries) ∧ ∀ e ∈ entries, ∀ u, PartOf u e.2 → p u := by
  refine ⟨fun h => ⟨h _ (.self _), fun e he u hu => h u (.entry he hu)⟩, fun h u hu => ?_⟩
  cases hu with
  | self => exact h.1
  | entry he hu => exact h.2 _ he u hu

end Parts

/-! ## Keys -/

/-- Some keys are numbers and some are texts. -/
def Mixed (entries : List (Key × Value)) : Prop :=
  (∃ n v, (.int n, v) ∈ entries) ∧ ∃ s v, (.text s, v) ∈ entries

theorem Mixed.two_le_length {entries : List (Key × Value)} (h : Mixed entries) : 2 ≤ entries.length := by
  obtain ⟨⟨n, v, hint⟩, s, w, htext⟩ := h
  match entries, hint, htext with
  | [e], hint, htext =>
      cases List.mem_singleton.mp hint
      cases List.mem_singleton.mp htext
  | _ :: _ :: _, _, _ => simp

/-- Plain keys have an order unless they are mixed. -/
theorem HasPlainKeys.ordered_iff {entries : List (Key × Value)} (h : HasPlainKeys entries) :
    Key.ordered (entries.map Prod.fst) = true ↔ ¬ Mixed entries := by
  rw [Key.ordered, Bool.or_eq_true, decide_eq_true_eq, List.length_map]
  cases entries with
  | nil => simp [Mixed]
  | cons first entries =>
      -- All keys have to be of the kind of the first one.
      have hall : ((first :: entries).map Prod.fst).head?.any (fun k => k.kind?.isSome &&
          ((first :: entries).map Prod.fst).all fun key => key.kind? == k.kind?) = true ↔
          first.1.kind?.isSome = true ∧ ∀ e ∈ first :: entries, e.1.kind? = first.1.kind? := by
        simp [List.all_eq_true]
      rw [hall]
      constructor
      · rintro (hlength | ⟨-, hsame⟩) hmixed
        · have := hmixed.two_le_length
          omega
        · obtain ⟨⟨n, v, hint⟩, s, w, htext⟩ := hmixed
          have hkinds := (hsame _ hint).trans (hsame _ htext).symm
          cases hkinds
      · intro hmixed
        refine .inr ?_
        rcases h first List.mem_cons_self with ⟨n, hn⟩ | ⟨s, hs⟩
        · refine ⟨by simp [hn, Key.kind?], fun e he => ?_⟩
          rcases h e he with ⟨m, hm⟩ | ⟨s, hs⟩
          · rw [hn, hm]
            rfl
          · exact absurd ⟨⟨n, first.2, hn ▸ List.mem_cons_self⟩, s, e.2, hs ▸ he⟩ hmixed
        · refine ⟨by simp [hs, Key.kind?], fun e he => ?_⟩
          rcases h e he with ⟨n, hn⟩ | ⟨s', hs'⟩
          · exact absurd ⟨⟨n, e.2, hn ▸ he⟩, s, first.2, hs ▸ List.mem_cons_self⟩ hmixed
          · rw [hs, hs']
            rfl

/-- No key is a number exactly if all are texts. -/
theorem HasPlainKeys.texts_iff {entries : List (Key × Value)} (h : HasPlainKeys entries) :
    (∀ e ∈ entries, ∃ s, e.1 = .text s) ↔ ¬ ∃ n v, (.int n, v) ∈ entries := by
  constructor
  · rintro htexts ⟨n, v, hint⟩
    obtain ⟨s, hs⟩ := htexts _ hint
    cases hs
  · intro hint e he
    exact (h e he).resolve_left fun ⟨n, hn⟩ => hint ⟨n, e.2, hn ▸ he⟩

theorem mem_sortEntries {entries : List (Key × Value)} {e : Key × Value} :
    e ∈ Key.sortEntries entries ↔ e ∈ entries :=
  (List.mergeSort_perm entries _).mem_iff

/-- Entries are sorted by their keys alone. -/
theorem sortEntries_map {α β : Type} (f : α → β) (entries : List (Key × α)) :
    Key.sortEntries (entries.map fun e => (e.1, f e.2)) =
      (Key.sortEntries entries).map fun e => (e.1, f e.2) := by
  symm
  apply List.map_mergeSort
  exact fun _ _ _ _ => rfl

/-! ## Which values have a text -/

/-- JSON has no text for the value itself, whatever stands inside it. -/
def IsBarred : Value → Prop
  | .int n => IsLong n
  | .bytes _ => True
  | .set _ => True
  | .foreign _ => True
  | .dict entries => Mixed entries ∨ ∃ e ∈ entries, e.1.IsLong
  | _ => False

/-- The value stands in the room there is, and JSON has a text for everything inside it. -/
structure HasText (room : Nat) (v : Value) : Prop where
  fits : v.fits room = true
  parts : ∀ u, PartOf u v → ¬ u.IsBarred

/-- The end of the room is the first thing that is met in a value: all that is written before it, in the
order of the items and of the sorted keys, has a text. -/
inductive RunsDeep : Nat → Value → Prop where
  | list (items : List Value) : RunsDeep 0 (.list items)
  | tuple (items : List Value) : RunsDeep 0 (.tuple items)
  | dict (entries : List (Key × Value)) : RunsDeep 0 (.dict entries)
  | item {room : Nat} {before after : List Value} {v : Value} (hbefore : ∀ u ∈ before, HasText room u)
      (h : RunsDeep room v) : RunsDeep (room + 1) (.list (before ++ v :: after))
  | member {room : Nat} {before after : List Value} {v : Value} (hbefore : ∀ u ∈ before, HasText room u)
      (h : RunsDeep room v) : RunsDeep (room + 1) (.tuple (before ++ v :: after))
  | entry {room : Nat} {entries before after : List (Key × Value)} {k : Key} {v : Value}
      (hmixed : ¬ Mixed entries) (hsorted : Key.sortEntries entries = before ++ (k, v) :: after)
      (hbefore : ∀ e ∈ before, ¬ e.1.IsLong ∧ HasText room e.2) (hk : ¬ k.IsLong)
      (h : RunsDeep room v) : RunsDeep (room + 1) (.dict entries)

section Room

variable {room : Nat}

theorem fits_list {items : List Value} :
    (Value.list items).fits (room + 1) = true ↔ ∀ x ∈ items, x.fits room = true := by
  rw [fits]
  induction items with
  | nil => simp [itemsFit]
  | cons x items ih => rw [itemsFit, Bool.and_eq_true, ih, List.forall_mem_cons]

theorem fits_tuple {items : List Value} :
    (Value.tuple items).fits (room + 1) = true ↔ ∀ x ∈ items, x.fits room = true := by
  rw [← fits_list, fits, fits]

theorem fits_dict {entries : List (Key × Value)} :
    (Value.dict entries).fits (room + 1) = true ↔ ∀ e ∈ entries, e.2.fits room = true := by
  rw [fits]
  induction entries with
  | nil => simp [entriesFit]
  | cons e entries ih => rw [entriesFit, Bool.and_eq_true, ih, List.forall_mem_cons]

theorem hasText_list {items : List Value} :
    HasText (room + 1) (.list items) ↔ ∀ x ∈ items, HasText room x := by
  have hsplit : HasText (room + 1) (.list items) ↔ (∀ x ∈ items, x.fits room = true) ∧
      ∀ x ∈ items, ∀ u, PartOf u x → ¬ u.IsBarred := by
    rw [← fits_list]
    exact ⟨fun h => ⟨h.1, (forall_partOf_list.mp h.2).2⟩,
      fun h => ⟨h.1, forall_partOf_list.mpr ⟨not_false, h.2⟩⟩⟩
  rw [hsplit, ← forall₂_and]
  exact forall₂_congr fun x _ => ⟨fun h => ⟨h.1, h.2⟩, fun h => ⟨h.1, h.2⟩⟩

theorem hasText_tuple {items : List Value} :
    HasText (room + 1) (.tuple items) ↔ ∀ x ∈ items, HasText room x := by
  rw [← hasText_list]
  constructor
  · rintro ⟨hfits, hparts⟩
    exact ⟨by rwa [fits_list, ← fits_tuple],
      forall_partOf_list.mpr ⟨not_false, (forall_partOf_tuple.mp hparts).2⟩⟩
  · rintro ⟨hfits, hparts⟩
    exact ⟨by rwa [fits_tuple, ← fits_list],
      forall_partOf_tuple.mpr ⟨not_false, (forall_partOf_list.mp hparts).2⟩⟩

theorem hasText_dict {entries : List (Key × Value)} :
    HasText (room + 1) (.dict entries) ↔
      ¬ Mixed entries ∧ ∀ e ∈ entries, ¬ e.1.IsLong ∧ HasText room e.2 := by
  have hbarred : ¬ IsBarred (.dict entries) ↔ ¬ Mixed entries ∧ ∀ e ∈ entries, ¬ e.1.IsLong := by
    rw [IsBarred, not_or]
    simp
  constructor
  · rintro ⟨hfits, hparts⟩
    rw [fits_dict] at hfits
    obtain ⟨hself, hvalues⟩ := forall_partOf_dict.mp hparts
    obtain ⟨hmixed, hkeys⟩ := hbarred.mp hself
    exact ⟨hmixed, fun e he => ⟨hkeys e he, hfits e he, hvalues e he⟩⟩
  · rintro ⟨hmixed, hentries⟩
    refine ⟨fits_dict.mpr fun e he => (hentries e he).2.fits, forall_partOf_dict.mpr ⟨?_, ?_⟩⟩
    · exact hbarred.mpr ⟨hmixed, fun e he => (hentries e he).1⟩
    · exact fun e he => (hentries e he).2.parts

/-! ## Texts of collections -/

theorem encode_list (items : List Value) :
    (Value.list items).encode (room + 1) =
      (items.mapM (encode room)).map fun parts => "[" ++ Text.join ", " parts ++ "]" := by
  rw [encode, encodeItems_eq_mapM]

theorem encode_tuple (items : List Value) :
    (Value.tuple items).encode (room + 1) = (Value.list items).encode (room + 1) := by
  rw [encode, encode]

theorem encode_dict (entries : List (Key × Value)) :
    (Value.dict entries).encode (room + 1) =
      if Key.ordered (entries.map Prod.fst) then
        ((Key.sortEntries entries).mapM fun e => encodedEntry (e.1, e.2.encode room)).map fun parts =>
          "\x7b" ++ Text.join ", " parts ++ "\x7d"
      else .error .wrongKind := by
  rw [encode, encodeValues_eq_map, sortEntries_map, List.mapM_map]
  rfl

section Entry

variable {k : Key} {x : Except Fault String} (hk : (∃ n, k = .int n) ∨ ∃ s, k = .text s)

include hk

theorem jsonText_cases :
    (k.IsLong ∧ k.jsonText = .error .wrongValue) ∨ (¬ k.IsLong ∧ ∃ name, k.jsonText = .ok name) := by
  rcases hk with ⟨n, rfl⟩ | ⟨s, rfl⟩
  · have hlong : (Key.int n).IsLong ↔ IsLong n := by simp [Key.IsLong]
    rw [hlong]
    by_cases h : IsLong n
    · exact .inl ⟨h, showInt_of_isLong h⟩
    · exact .inr ⟨h, exists_showInt_iff.mpr h⟩
  · exact .inr ⟨by simp [Key.IsLong], s, rfl⟩

/-- An entry has a text if its key and its value have one. -/
theorem exists_encodedEntry_iff :
    (∃ s, encodedEntry (k, x) = .ok s) ↔ ¬ k.IsLong ∧ ∃ s, x = .ok s := by
  rcases jsonText_cases hk with ⟨hlong, hkey⟩ | ⟨hlong, name, hkey⟩
  · simp [encodedEntry, hkey, hlong, bind, Except.bind]
  · cases x <;> simp [encodedEntry, hkey, hlong, bind, Except.bind, pure, Except.pure]

/-- The key of an entry is looked at before its value. -/
theorem encodedEntry_eq_error_iff {f : Fault} :
    encodedEntry (k, x) = .error f ↔
      (k.IsLong ∧ f = .wrongValue) ∨ (¬ k.IsLong ∧ x = .error f) := by
  rcases jsonText_cases hk with ⟨hlong, hkey⟩ | ⟨hlong, name, hkey⟩
  · simp [encodedEntry, hkey, hlong, bind, Except.bind, eq_comm]
  · cases x <;> simp [encodedEntry, hkey, hlong, bind, Except.bind, pure, Except.pure]

end Entry

theorem exists_encode_dict_iff {entries : List (Key × Value)} (hkeys : HasPlainKeys entries) :
    (∃ s, (Value.dict entries).encode (room + 1) = .ok s) ↔
      ¬ Mixed entries ∧ ∀ e ∈ entries, ¬ e.1.IsLong ∧ ∃ s, e.2.encode room = .ok s := by
  rw [encode_dict]
  split
  · rename_i hordered
    rw [exists_map_eq_ok_iff, exists_mapM_eq_ok_iff, and_iff_right (hkeys.ordered_iff.mp hordered)]
    simp only [mem_sortEntries]
    exact forall₂_congr fun e he => exists_encodedEntry_iff (hkeys e he)
  · rename_i hordered
    exact iff_of_false (by simp) fun h => hordered (hkeys.ordered_iff.mpr h.1)

end Room

/-! ## What comes of a value -/

/-- JSON has a text for a value exactly if there is room for it and JSON has one for everything inside
it. -/
theorem Composed.exists_encode_iff {v : Value} (h : v.Composed) :
    ∀ room, (∃ s, v.encode room = .ok s) ↔ v.HasText room := by
  have hleaf (room : Nat) (v : Value) (hlist : ∀ items, v ≠ .list items)
      (htuple : ∀ items, v ≠ .tuple items) (hdict : ∀ entries, v ≠ .dict entries)
      (hfits : v.fits room = true) : v.HasText room ↔ ¬ v.IsBarred := by
    rw [← forall_partOf_leaf hlist htuple hdict (p := fun u => ¬ u.IsBarred)]
    exact ⟨fun h => h.2, fun h => ⟨hfits, h⟩⟩
  induction h with
  | list _ ih =>
      intro room
      cases room with
      | zero => exact iff_of_false (by simp [encode]) fun h => by simpa [fits] using h.fits
      | succ room =>
          rw [hasText_list, encode_list, exists_map_eq_ok_iff, exists_mapM_eq_ok_iff]
          exact forall₂_congr fun x hx => ih x hx room
  | tuple _ ih =>
      intro room
      cases room with
      | zero => exact iff_of_false (by simp [encode]) fun h => by simpa [fits] using h.fits
      | succ room =>
          rw [hasText_tuple, encode_tuple, encode_list, exists_map_eq_ok_iff, exists_mapM_eq_ok_iff]
          exact forall₂_congr fun x hx => ih x hx room
  | dict hkeys _ ih =>
      intro room
      cases room with
      | zero => exact iff_of_false (by simp [encode]) fun h => by simpa [fits] using h.fits
      | succ room =>
          rw [hasText_dict, exists_encode_dict_iff hkeys]
          exact and_congr_right fun _ => forall₂_congr fun e he => and_congr_right' (ih e he room)
  | int n =>
      intro room
      rw [hleaf room (.int n) (by simp) (by simp) (by simp) rfl, encode]
      exact exists_showInt_iff
  | _ =>
      intro room
      rw [hleaf room _ (by simp) (by simp) (by simp) rfl]
      simp [encode, IsBarred]

/-- The text of a value ends for want of room exactly if that is the first thing that is met. -/
theorem Composed.encode_eq_tooDeep_iff {v : Value} (h : v.Composed) :
    ∀ room, v.encode room = .error .tooDeep ↔ v.RunsDeep room := by
  induction h with
  | list hitems ih =>
      intro room
      cases room with
      | zero => exact iff_of_true rfl (.list _)
      | succ room =>
          rw [encode_list, map_eq_error_iff, mapM_eq_error_iff]
          constructor
          · rintro ⟨before, x, after, rfl, hbefore, hx⟩
            refine .item (fun u hu => ?_) ((ih x (by simp) room).mp hx)
            exact ((hitems u (by simp [hu])).exists_encode_iff room).mp (hbefore u hu)
          · rintro (_ | _ | _ | @⟨_, before, after, x, hbefore, hx⟩)
            refine ⟨before, x, after, rfl, fun u hu => ?_, (ih x (by simp) room).mpr hx⟩
            exact ((hitems u (by simp [hu])).exists_encode_iff room).mpr (hbefore u hu)
  | tuple hitems ih =>
      intro room
      cases room with
      | zero => exact iff_of_true rfl (.tuple _)
      | succ room =>
          rw [encode_tuple, encode_list, map_eq_error_iff, mapM_eq_error_iff]
          constructor
          · rintro ⟨before, x, after, rfl, hbefore, hx⟩
            refine .member (fun u hu => ?_) ((ih x (by simp) room).mp hx)
            exact ((hitems u (by simp [hu])).exists_encode_iff room).mp (hbefore u hu)
          · rintro (_ | _ | _ | _ | @⟨_, before, after, x, hbefore, hx⟩)
            refine ⟨before, x, after, rfl, fun u hu => ?_, (ih x (by simp) room).mpr hx⟩
            exact ((hitems u (by simp [hu])).exists_encode_iff room).mpr (hbefore u hu)
  | @dict entries hkeys hvalues ih =>
      intro room
      cases room with
      | zero => exact iff_of_true rfl (.dict _)
      | succ room =>
          have hmem {before after : List (Key × Value)} {f : Key × Value}
              (hsorted : Key.sortEntries entries = before ++ f :: after) :
              ∀ e ∈ before ++ f :: after, e ∈ entries :=
            fun e he => mem_sortEntries.mp (hsorted ▸ he)
          have htext (e : Key × Value) (he : e ∈ entries) :
              (∃ s, encodedEntry (e.1, e.2.encode room) = .ok s) ↔ ¬ e.1.IsLong ∧ HasText room e.2 :=
            (exists_encodedEntry_iff (hkeys e he)).trans
              (and_congr_right' ((hvalues e he).exists_encode_iff room))
          have hdeep (e : Key × Value) (he : e ∈ entries) :
              encodedEntry (e.1, e.2.encode room) = .error .tooDeep ↔ ¬ e.1.IsLong ∧ RunsDeep room e.2 := by
            rw [encodedEntry_eq_error_iff (hkeys e he), ← ih e he room]
            simp
          rw [encode_dict]
          constructor
          · intro h
            split at h
            · rename_i hordered
              rw [map_eq_error_iff, mapM_eq_error_iff] at h
              obtain ⟨before, ⟨k, v⟩, after, hsorted, hbefore, hv⟩ := h
              obtain ⟨hk, hv⟩ := (hdeep _ (hmem hsorted _ (by simp))).mp hv
              refine .entry (hkeys.ordered_iff.mp hordered) hsorted (fun e he => ?_) hk hv
              exact (htext e (hmem hsorted e (by simp [he]))).mp (hbefore e he)
            · cases h
          · rintro (_ | _ | _ | _ | _ | @⟨_, _, before, after, k, v, hmixed, hsorted, hbefore, hk, hv⟩)
            rw [if_pos (hkeys.ordered_iff.mpr hmixed), map_eq_error_iff, mapM_eq_error_iff]
            refine ⟨before, (k, v), after, hsorted, fun e he => ?_, ?_⟩
            · exact (htext e (hmem hsorted e (by simp [he]))).mpr (hbefore e he)
            · exact (hdeep (k, v) (hmem hsorted _ (by simp))).mpr ⟨hk, hv⟩
  | int n =>
      intro room
      rw [encode]
      refine iff_of_false (fun h => ?_) fun h => by cases h
      unfold showInt at h
      split at h <;> cases h
  | _ => exact fun room => iff_of_false (by simp [encode]) fun h => by cases h

/-- Whatever else keeps a value from having a text is its kind or a number with too many digits. -/
theorem Composed.encode_eq_error {v : Value} (h : v.Composed) :
    ∀ room f, v.encode room = .error f → f = .tooDeep ∨ f = .wrongKind ∨ f = .wrongValue := by
  have hint (n : Int) (f : Fault) (h : showInt n = .error f) : f = .wrongValue := by
    unfold showInt at h
    split at h <;> cases h
    rfl
  induction h with
  | list _ ih =>
      intro room f h
      cases room with
      | zero => exact .inl (Except.error.inj h).symm
      | succ room =>
          rw [encode_list, map_eq_error_iff, mapM_eq_error_iff] at h
          obtain ⟨before, x, after, rfl, -, hx⟩ := h
          exact ih x (by simp) room f hx
  | tuple _ ih =>
      intro room f h
      cases room with
      | zero => exact .inl (Except.error.inj h).symm
      | succ room =>
          rw [encode_tuple, encode_list, map_eq_error_iff, mapM_eq_error_iff] at h
          obtain ⟨before, x, after, rfl, -, hx⟩ := h
          exact ih x (by simp) room f hx
  | @dict entries hkeys _ ih =>
      intro room f h
      cases room with
      | zero => exact .inl (Except.error.inj h).symm
      | succ room =>
          rw [encode_dict] at h
          split at h
          · rw [map_eq_error_iff, mapM_eq_error_iff] at h
            obtain ⟨before, ⟨k, v⟩, after, hsorted, -, hv⟩ := h
            have hmem : (k, v) ∈ entries := mem_sortEntries.mp (hsorted ▸ by simp)
            rcases (encodedEntry_eq_error_iff (hkeys _ hmem)).mp hv with ⟨-, hf⟩ | ⟨-, hv⟩
            · exact .inr (.inr hf)
            · exact ih _ hmem room f hv
          · exact .inr (.inl (Except.error.inj h).symm)
  | int n => exact fun room f h => .inr (.inr (hint n f h))
  | bytes _ => exact fun room f h => .inr (.inl (Except.error.inj h).symm)
  | set _ => exact fun room f h => .inr (.inl (Except.error.inj h).symm)
  | foreign _ => exact fun room f h => .inr (.inl (Except.error.inj h).symm)
  | _ => exact fun room f h => nomatch h

end Value

end TemplateDocs
