import TemplateDocs.Proofs.Value.Json

/-! # Documents in messages

A value that comes from a JSON document can be shown in a message exactly if the document is within the
limits of its reader.
-/

namespace TemplateDocs

open List

namespace Value

theorem shownItems_eq_mapM (room : Nat) (items : List Value) :
    shownItems room items = items.mapM (shown room) := by
  induction items with
  | nil => rfl
  | cons x items ih => rw [shownItems, ih, List.mapM_cons]

/-- The entries of an object, whose keys can always be shown. -/
theorem shownEntries_ofEntries (room : Nat) (entries : List (String × Json)) :
    shownEntries room (ofEntries entries) =
      entries.mapM fun e => ((ofJson e.2).shown room).map fun part => Text.quoted e.1 ++ ": " ++ part := by
  induction entries with
  | nil => rfl
  | cons e entries ih =>
      rw [ofEntries, shownEntries, ih, List.mapM_cons]
      cases (ofJson e.2).shown room <;> rfl

theorem exists_shown_ofJson_iff {doc : Json} :
    ∀ {room : Nat}, (∃ s, (ofJson doc).shown room = .ok s) ↔
      doc.longest ≤ Text.digitLimit ∧ doc.depth ≤ room := by
  induction doc using Json.inductionOn with
  | array items ih =>
      intro room
      cases room with
      | zero =>
          have hdepth := Json.depth_array_pos items
          exact iff_of_false (by rintro ⟨s, ⟨⟩⟩) fun h => Nat.not_le_of_lt hdepth h.2
      | succ room =>
          rw [ofJson, shown, exists_map_eq_ok_iff, shownItems_eq_mapM, exists_mapM_eq_ok_iff,
            ofItems_eq_map, List.forall_mem_map, Json.longest_array_le_iff, Json.depth_array_le_iff,
            ← forall₂_and]
          exact forall₂_congr fun x hx => ih x hx
  | object entries ih =>
      intro room
      cases room with
      | zero =>
          have hdepth := Json.depth_object_pos entries
          exact iff_of_false (by rintro ⟨s, ⟨⟩⟩) fun h => Nat.not_le_of_lt hdepth h.2
      | succ room =>
          rw [ofJson, shown, exists_map_eq_ok_iff, shownEntries_ofEntries, exists_mapM_eq_ok_iff,
            Json.longest_object_le_iff, Json.depth_object_le_iff, ← forall₂_and]
          exact forall₂_congr fun e he => exists_map_eq_ok_iff.trans (ih e he)
  | int n =>
      intro room
      have hdepth : (Json.int n).depth ≤ room := Nat.zero_le room
      rw [ofJson, shown, showInt_eq, and_iff_left hdepth]
      split <;> simp [*]
  | _ => exact iff_of_true ⟨_, rfl⟩ ⟨Nat.zero_le _, Nat.zero_le _⟩

theorem exists_display_ofJson_iff {doc : Json} :
    (∃ s, (ofJson doc).display = .ok s) ↔ doc.InLimits := by
  cases doc with
  | text s => exact iff_of_true ⟨s, rfl⟩ ⟨Nat.zero_le _, Nat.zero_le _⟩
  | _ => exact exists_shown_ofJson_iff.trans ⟨fun h => ⟨h.1, h.2⟩, fun h => ⟨h.digits, h.depth⟩⟩

end Value

/-- The order of keys has no part in the limits. -/
theorem Json.Reordered.inLimits_iff {a b : Json} (h : a.Reordered b) (hk : a.KeysOnce) :
    a.InLimits ↔ b.InLimits := by
  have hencode (doc : Json) :
      doc.InLimits ↔ ∃ s, (Value.ofJson doc).encode callLimit = .ok s := by
    simp only [Value.encode_ofJson_eq_ok_iff, exists_and_left, exists_eq', and_true]
    exact ⟨fun h => ⟨h.digits, h.depth⟩, fun h => ⟨h.1, h.2⟩⟩
  rw [hencode, hencode, Value.encode_eq_of_reordered h hk]

end TemplateDocs
