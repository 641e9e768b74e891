import TemplateDocs.Page.Cell
import TemplateDocs.Proofs.Value.Composed
import TemplateDocs.Proofs.Value.Literal

/-! # Values that cannot be written

A value that JSON or the notation of literals has no text for is refused, with a report that names what
the value belongs to. Three things are not reported. Values that stand too deep inside of others end either
text where the room for calls ends. A mapping whose keys are numbers and texts cannot be sorted, and its
literal fails where the keys are sorted, before any of them is looked at. And a key with too many digits
cannot be shown in the report about it.
-/

namespace TemplateDocs

open List

namespace Value

/-! ## Which values have a literal -/

/-- There is no literal for the value itself, whatever stands inside it. -/
def IsUnliteral : Value → Prop
  | .int n => IsLong n
  | .bytes _ => True
  | .set _ => True
  | .foreign _ => True
  | .dict entries => ∃ n v, (.int n, v) ∈ entries
  | _ => False

/-- There is room for the calls that a value takes, and a literal for everything inside it. -/
structure HasLiteral (room : Nat) (v : Value) : Prop where
  calls : v.calls ≤ room
  parts : ∀ u, PartOf u v → ¬ u.IsUnliteral

/-- The end of the room for calls, mixed keys, or numbers as keys of which the first cannot be shown, are the
first thing that is met in a value: all that is written before them, in the order of the items and of the
sorted keys, has literals. -/
inductive MeetsFault : Nat → Fault → Value → Prop where
  | deep (v : Value) : MeetsFault 0 .tooDeep v
  | mixed {room : Nat} {entries : List (Key × Value)} (h : Mixed entries) :
      MeetsFault (room + 1) .wrongKind (.dict entries)
  | unshown {room : Nat} {entries after : List (Key × Value)} {n : Int} {v : Value}
      (hmixed : ¬ Mixed entries) (hsorted : Key.sortEntries entries = (.int n, v) :: after)
      (hn : IsLong n) : MeetsFault (room + 1) .wrongValue (.dict entries)
  | item {room : Nat} {fault : Fault} {before after : List Value} {v : Value}
      (hbefore : ∀ u ∈ before, HasLiteral (room - 1) u) (h : MeetsFault (room - 1) fault v) :
      MeetsFault (room + 1) fault (.list (before ++ v :: after))
  | member {room : Nat} {fault : Fault} {before after : List Value} {v : Value}
      (hbefore : ∀ u ∈ before, HasLiteral (room - 1) u) (h : MeetsFault (room - 1) fault v) :
      MeetsFault (room + 1) fault (.tuple (before ++ v :: after))
  | entry {room : Nat} {fault : Fault} {entries before after : List (Key × Value)} {k : Key} {v : Value}
      (htexts : ∀ e ∈ entries, ∃ s, e.1 = .text s)
      (hsorted : Key.sortEntries entries = before ++ (k, v) :: after)
      (hbefore : ∀ e ∈ before, HasLiteral room e.2) (h : MeetsFault room fault v) :
      MeetsFault (room + 1) fault (.dict entries)

section Room

variable {room : Nat}

theorem not_hasLiteral_zero (v : Value) : ¬ HasLiteral 0 v :=
  fun h => Nat.not_le_of_lt v.calls_pos h.calls

theorem hasLiteral_leaf {v : Value} (hcalls : v.calls = 1) (hlist : ∀ items, v ≠ .list items)
    (htuple : ∀ items, v ≠ .tuple items) (hdict : ∀ entries, v ≠ .dict entries) :
    HasLiteral (room + 1) v ↔ ¬ v.IsUnliteral := by
  rw [← forall_partOf_leaf hlist htuple hdict (p := fun u => ¬ u.IsUnliteral)]
  exact ⟨fun h => h.parts, fun h => ⟨by omega, h⟩⟩

theorem hasLiteral_list {items : List Value} :
    HasLiteral (room + 1) (.list items) ↔ ∀ x ∈ items, HasLiteral (room - 1) x := by
  have hsplit : HasLiteral (room + 1) (.list items) ↔ (∀ x ∈ items, x.calls ≤ room - 1) ∧
      ∀ x ∈ items, ∀ u, PartOf u x → ¬ u.IsUnliteral := by
    have hcalls : (Value.list items).calls ≤ room + 1 ↔ ∀ x ∈ items, x.calls ≤ room - 1 := by
      by_cases hne : items = []
      · subst hne
        exact iff_of_true (Nat.succ_le_succ (Nat.zero_le room)) (by simp)
      · exact calls_list_le_iff hne
    rw [← hcalls]
    exact ⟨fun h => ⟨h.1, (forall_partOf_list.mp h.2).2⟩,
      fun h => ⟨h.1, forall_partOf_list.mpr ⟨not_false, h.2⟩⟩⟩
  rw [hsplit, ← forall₂_and]
  exact forall₂_congr fun x _ => ⟨fun h => ⟨h.1, h.2⟩, fun h => ⟨h.1, h.2⟩⟩

theorem hasLiteral_tuple {items : List Value} :
    HasLiteral room (.tuple items) ↔ HasLiteral room (.list items) := by
  have hcalls : (Value.tuple items).calls = (Value.list items).calls := by
    cases items with
    | nil => rfl
    | cons x items => rw [Value.calls, Value.calls] <;> simp
  constructor
  · rintro ⟨hroom, hparts⟩
    exact ⟨hcalls ▸ hroom, forall_partOf_list.mpr ⟨not_false, (forall_partOf_tuple.mp hparts).2⟩⟩
  · rintro ⟨hroom, hparts⟩
    exact ⟨hcalls ▸ hroom, forall_partOf_tuple.mpr ⟨not_false, (forall_partOf_list.mp hparts).2⟩⟩

theorem hasLiteral_dict {entries : List (Key × Value)} (h : HasPlainKeys entries) :
    HasLiteral (room + 1) (.dict entries) ↔
      (∀ e ∈ entries, ∃ s, e.1 = .text s) ∧ ∀ e ∈ entries, HasLiteral room e.2 := by
  rw [h.texts_iff]
  constructor
  · rintro ⟨hcalls, hparts⟩
    rw [calls_dict_le_iff] at hcalls
    obtain ⟨hself, hvalues⟩ := forall_partOf_dict.mp hparts
    exact ⟨hself, fun e he => ⟨hcalls e he, hvalues e he⟩⟩
  · rintro ⟨hint, hentries⟩
    exact ⟨calls_dict_le_iff.mpr fun e he => (hentries e he).calls,
      forall_partOf_dict.mpr ⟨hint, fun e he => (hentries e he).parts⟩⟩

end Room

end Value

namespace Literal

open Value

variable {owner : String} {room depth : Nat}

/-- The line of one entry. -/
def entryLine (owner : String) (room depth : Nat) (e : Key × Value) : Except Failure String :=
  match e.1 with
  | .text name => (value owner room depth e.2).map fun w => key name ++ ": " ++ w
  | other => .error (otherKey owner other)

theorem entryLines_entries (es : List (Key × Value)) :
    entryLines owner (entries owner room depth es) =
      (Key.sortEntries es).mapM (entryLine owner room depth) := by
  rw [entryLines, literal_entries, sortEntries_map, List.mapM_map]
  rfl

/-! ### When a collection has a literal -/

/-- A list is written line by line, and so is a tuple. -/
theorem value_list (xs : List Value) :
    value owner (room + 1) depth (.list xs) = if xs.isEmpty then .ok "[]"
      else (xs.mapM (value owner (room - 1) (depth + 1))).map (block "[" "]" depth) := by
  rw [value.eq_def, if_neg (Nat.succ_ne_zero room), ← literal_items]
  cases xs <;> rfl

theorem value_tuple (xs : List Value) :
    value owner room depth (.tuple xs) = value owner room depth (.list xs) := by
  rw [value.eq_def, value.eq_def]
  cases xs <;> rfl

theorem value_dict (es : List (Key × Value)) :
    value owner (room + 1) depth (.dict es) = if es.isEmpty then .ok "\x7b\x7d"
      else if Key.ordered (es.map Prod.fst) then
        ((Key.sortEntries es).mapM (entryLine owner room (depth + 1))).map (block "\x7b" "\x7d" depth)
      else .error (.fault .wrongKind) := by
  rw [value.eq_def, if_neg (Nat.succ_ne_zero room), ← entryLines_entries]
  cases es <;> rfl

theorem exists_value_list_iff {xs : List Value} :
    (∃ s, value owner (room + 1) depth (.list xs) = .ok s) ↔
      ∀ x ∈ xs, ∃ s, value owner (room - 1) (depth + 1) x = .ok s := by
  rw [value_list]
  cases xs with
  | nil => simp
  | cons x xs => exact exists_map_eq_ok_iff.trans exists_mapM_eq_ok_iff

/-- The line of an entry has a text if the key is one and the value has a literal. -/
theorem exists_entryLine_iff {e : Key × Value} (h : (∃ n, e.1 = .int n) ∨ ∃ s, e.1 = .text s) :
    (∃ s, entryLine owner room depth e = .ok s) ↔
      (∃ s, e.1 = .text s) ∧ ∃ s, value owner room depth e.2 = .ok s := by
  obtain ⟨k, v⟩ := e
  rcases h with ⟨n, rfl⟩ | ⟨name, rfl⟩
  · simp [entryLine]
  · cases hv : value owner room depth v <;> simp [entryLine, Except.map, hv]

theorem exists_value_dict_iff {es : List (Key × Value)} (hkeys : HasPlainKeys es) :
    (∃ s, value owner (room + 1) depth (.dict es) = .ok s) ↔
      (∀ e ∈ es, ∃ s, e.1 = .text s) ∧ ∀ e ∈ es, ∃ s, value owner room (depth + 1) e.2 = .ok s := by
  have hlines : (∃ lines, (Key.sortEntries es).mapM (entryLine owner room (depth + 1)) = .ok lines) ↔
      (∀ e ∈ es, ∃ s, e.1 = .text s) ∧ ∀ e ∈ es, ∃ s, value owner room (depth + 1) e.2 = .ok s := by
    simp only [exists_mapM_eq_ok_iff, mem_sortEntries, ← forall₂_and]
    exact forall₂_congr fun e he => exists_entryLine_iff (hkeys e he)
  rw [value_dict]
  split
  · rename_i hempty
    simp [List.isEmpty_iff.mp hempty]
  · split
    · exact exists_map_eq_ok_iff.trans hlines
    · rename_i hordered
      have hmixed := mt hkeys.ordered_iff.mpr hordered
      refine iff_of_false (by simp) fun h => hmixed fun ⟨⟨n, v, hint⟩, _⟩ => ?_
      obtain ⟨s, hs⟩ := h.1 _ hint
      cases hs

theorem exists_int_iff {n : Int} : (∃ s, int owner n = .ok s) ↔ ¬ IsLong n := by
  rw [← exists_showInt_iff, int]
  cases showInt n <;> simp [Except.mapError]

/-- There is a literal for a value exactly if there is room for it and a literal for everything inside
it. -/
theorem exists_value_iff {v : Value} (h : v.Composed) :
    ∀ room depth, (∃ s, value owner room depth v = .ok s) ↔ v.HasLiteral room := by
  have hzero (v : Value) (depth : Nat) :
      (∃ s, value owner 0 depth v = .ok s) ↔ v.HasLiteral 0 := by
    rw [literal_zero]
    exact iff_of_false (by simp) (not_hasLiteral_zero v)
  induction h with
  | list _ ih =>
      intro room depth
      cases room with
      | zero => exact hzero _ depth
      | succ room =>
          rw [hasLiteral_list, exists_value_list_iff]
          exact forall₂_congr fun x hx => ih x hx (room - 1) (depth + 1)
  | tuple _ ih =>
      intro room depth
      cases room with
      | zero => exact hzero _ depth
      | succ room =>
          rw [hasLiteral_tuple, hasLiteral_list, value_tuple, exists_value_list_iff]
          exact forall₂_congr fun x hx => ih x hx (room - 1) (depth + 1)
  | dict hkeys _ ih =>
      intro room depth
      cases room with
      | zero => exact hzero _ depth
      | succ room =>
          rw [hasLiteral_dict hkeys, exists_value_dict_iff hkeys]
          exact and_congr_right' (forall₂_congr fun e he => ih e he room (depth + 1))
  | int n =>
      intro room depth
      cases room with
      | zero => exact hzero _ depth
      | succ room =>
          rw [hasLiteral_leaf rfl (by simp) (by simp) (by simp), value.eq_def,
            if_neg (Nat.succ_ne_zero room)]
          exact exists_int_iff
  | _ =>
      intro room depth
      cases room with
      | zero => exact hzero _ depth
      | succ room =>
          rw [hasLiteral_leaf rfl (by simp) (by simp) (by simp), value.eq_def,
            if_neg (Nat.succ_ne_zero room)]
          simp [IsUnliteral, RenderError.failure]

/-! ### The failures -/

/-- A failure is reported, by a text that names the owner. -/
def Refuses (owner : String) (e : Failure) : Prop :=
  ∃ rest, e = .reported
    { category := .render, message := "failed to encode value of " ++ owner ++ rest }

theorem Refuses.of_message {owner rest : String} {e : RenderError}
    (h : e.message = "failed to encode value of " ++ owner ++ rest) : Refuses owner e.failure :=
  ⟨rest, by rw [RenderError.failure, h]⟩

theorem refuses_unsupported (owner kind : String) :
    Refuses owner (RenderError.unsupported owner kind).failure :=
  have h (first second : String) :
      first ++ owner ++ second ++ kind = first ++ owner ++ (second ++ kind) := String.append_assoc
  .of_message (h _ _)

theorem refuses_otherKey (owner key : String) :
    Refuses owner (RenderError.otherKey owner key).failure :=
  have h (first second : String) :
      first ++ owner ++ second ++ key = first ++ owner ++ (second ++ key) := String.append_assoc
  .of_message (h _ _)

theorem refuses_unencodable (owner : String) :
    Refuses owner (RenderError.unencodable owner).failure :=
  have h (s : String) : s = s ++ "" := String.append_empty.symm
  .of_message (h _)

/-- A list fails with the first of its items that fails. -/
theorem value_list_eq_error_iff {xs : List Value} {e : Failure} (h : ∀ x ∈ xs, x.Composed) :
    value owner (room + 1) depth (.list xs) = .error e ↔ ∃ before x after, xs = before ++ x :: after ∧
      (∀ b ∈ before, b.HasLiteral (room - 1)) ∧ value owner (room - 1) (depth + 1) x = .error e := by
  have hmap : value owner (room + 1) depth (.list xs) = .error e ↔
      xs.mapM (value owner (room - 1) (depth + 1)) = .error e := by
    rw [value_list]
    cases xs with
    | nil => simp [pure, Except.pure]
    | cons x xs => exact map_eq_error_iff
  rw [hmap, mapM_eq_error_iff]
  refine exists_congr fun before => exists_congr fun x => exists_congr fun after =>
    and_congr_right fun hxs => and_congr_left' (forall₂_congr fun b hb => ?_)
  exact exists_value_iff (h b (hxs ▸ List.mem_append_left _ hb)) _ _

theorem value_of_mixed {es : List (Key × Value)} (hkeys : HasPlainKeys es) (h : Mixed es) :
    value owner (room + 1) depth (.dict es) = .error (.fault .wrongKind) := by
  have hne : ¬ es.isEmpty = true := by
    intro hempty
    simpa [List.isEmpty_iff.mp hempty] using h.two_le_length
  rw [value_dict, if_neg hne, if_neg fun hordered => hkeys.ordered_iff.mp hordered h]

/-- If one key is a number and none is a text, the first one is a number. -/
theorem exists_sortEntries_number {es : List (Key × Value)} (hkeys : HasPlainKeys es)
    (hmixed : ¬ Mixed es) (hint : ∃ n v, (.int n, v) ∈ es) :
    ∃ n v after, Key.sortEntries es = (.int n, v) :: after := by
  cases hsorted : Key.sortEntries es with
  | nil =>
      obtain ⟨n, v, hn⟩ := hint
      rw [← mem_sortEntries, hsorted] at hn
      cases hn
  | cons f after =>
      obtain ⟨k, v⟩ := f
      have hmem : (k, v) ∈ es := mem_sortEntries.mp (hsorted ▸ List.mem_cons_self)
      rcases hkeys _ hmem with ⟨n, rfl⟩ | ⟨s, rfl⟩
      · exact ⟨n, v, after, rfl⟩
      · exact absurd ⟨hint, s, v, hmem⟩ hmixed

theorem value_of_number {es after : List (Key × Value)} {n : Int} {v : Value}
    (hkeys : HasPlainKeys es) (hmixed : ¬ Mixed es)
    (hsorted : Key.sortEntries es = (.int n, v) :: after) :
    value owner (room + 1) depth (.dict es) = .error (otherKey owner (.int n)) := by
  have hne : ¬ es.isEmpty = true := by
    intro hempty
    simp [List.isEmpty_iff.mp hempty, Key.sortEntries] at hsorted
  rw [value_dict, if_neg hne, if_pos (hkeys.ordered_iff.mpr hmixed), map_eq_error_iff, hsorted]
  rfl

/-- A mapping with texts as keys fails with the first of its values that fails, in the order of the
keys. -/
theorem value_dict_eq_error_iff {es : List (Key × Value)} {e : Failure}
    (h : ∀ f ∈ es, f.2.Composed) (htexts : ∀ f ∈ es, ∃ s, f.1 = .text s) :
    value owner (room + 1) depth (.dict es) = .error e ↔ ∃ before k v after,
      Key.sortEntries es = before ++ (k, v) :: after ∧ (∀ f ∈ before, f.2.HasLiteral room) ∧
      value owner room (depth + 1) v = .error e := by
  have hkeys : HasPlainKeys es := fun f hf => .inr (htexts f hf)
  have hordered : Key.ordered (es.map Prod.fst) = true :=
    hkeys.ordered_iff.mpr fun hmixed => hkeys.texts_iff.mp htexts hmixed.1
  have hmap : value owner (room + 1) depth (.dict es) = .error e ↔
      (Key.sortEntries es).mapM (entryLine owner room (depth + 1)) = .error e := by
    rw [value_dict, if_pos hordered]
    cases es with
    | nil => simp [Key.sortEntries, pure, Except.pure]
    | cons f es => exact map_eq_error_iff
  rw [hmap, mapM_eq_error_iff]
  simp only [Prod.exists]
  refine exists_congr fun before => exists_congr fun k => exists_congr fun v =>
    exists_congr fun after => and_congr_right fun hsorted => ?_
  have hmem : ∀ f ∈ before ++ (k, v) :: after, f ∈ es := fun f hf => mem_sortEntries.mp (hsorted ▸ hf)
  refine and_congr (forall₂_congr fun f hf => ?_) ?_
  · have hf' := hmem f (List.mem_append_left _ hf)
    rw [exists_entryLine_iff (hkeys f hf'), and_iff_right (htexts f hf'), exists_value_iff (h f hf')]
  · obtain ⟨name, hname⟩ := htexts _ (hmem (k, v) (by simp))
    rw [entryLine, hname]
    exact map_eq_error_iff

/-- A literal that fails is refused, or a fault is the first thing that stands in its way. -/
theorem refuses_or_meetsFault {v : Value} (h : v.Composed) :
    ∀ room depth e, value owner room depth v = .error e →
      Refuses owner e ∨ ∃ fault, e = .fault fault ∧ v.MeetsFault room fault := by
  have hzero (v : Value) (depth : Nat) (e : Failure) (he : value owner 0 depth v = .error e) :
      Refuses owner e ∨ ∃ fault, e = .fault fault ∧ MeetsFault 0 fault v := by
    rw [literal_zero, Except.error.injEq] at he
    exact .inr ⟨_, he.symm, .deep v⟩
  induction h with
  | list hitems ih =>
      intro room depth e he
      cases room with
      | zero => exact hzero _ depth e he
      | succ room =>
          obtain ⟨before, x, after, rfl, hbefore, hx⟩ := (value_list_eq_error_iff hitems).mp he
          have hcases := ih x (by simp) _ _ e hx
          exact hcases.imp_right (Exists.imp fun _ => And.imp_right (.item hbefore))
  | tuple hitems ih =>
      intro room depth e he
      cases room with
      | zero => exact hzero _ depth e he
      | succ room =>
          rw [value_tuple] at he
          obtain ⟨before, x, after, rfl, hbefore, hx⟩ := (value_list_eq_error_iff hitems).mp he
          have hcases := ih x (by simp) _ _ e hx
          exact hcases.imp_right (Exists.imp fun _ => And.imp_right (.member hbefore))
  | @dict es hkeys hvalues ih =>
      intro room depth e he
      cases room with
      | zero => exact hzero _ depth e he
      | succ room =>
          by_cases hmixed : Mixed es
          · rw [value_of_mixed hkeys hmixed, Except.error.injEq] at he
            exact .inr ⟨_, he.symm, .mixed hmixed⟩
          by_cases hint : ∃ n v, (.int n, v) ∈ es
          · obtain ⟨n, v, after, hsorted⟩ := exists_sortEntries_number hkeys hmixed hint
            rw [value_of_number hkeys hmixed hsorted, Except.error.injEq, otherKey, Key.shown] at he
            by_cases hlong : IsLong n
            · rw [showInt_of_isLong hlong] at he
              exact .inr ⟨_, he.symm, .unshown hmixed hsorted hlong⟩
            · obtain ⟨shown, hshown⟩ := exists_showInt_iff.mpr hlong
              rw [hshown] at he
              exact .inl (he ▸ refuses_otherKey owner shown)
          · have htexts := hkeys.texts_iff.mpr hint
            obtain ⟨before, k, v, after, hsorted, hbefore, hv⟩ :=
              (value_dict_eq_error_iff hvalues htexts).mp he
            have hmem : (k, v) ∈ es := mem_sortEntries.mp (hsorted ▸ by simp)
            have hcases := ih _ hmem _ _ e hv
            exact hcases.imp_right (Exists.imp fun _ => And.imp_right (.entry htexts hsorted hbefore))
  | int n =>
      intro room depth e he
      cases room with
      | zero => exact hzero _ depth e he
      | succ room =>
          rw [value.eq_def, if_neg (Nat.succ_ne_zero room)] at he
          have hint : int owner n = .error e := he
          cases hshown : showInt n with
          | ok s => simp [int, hshown, Except.mapError] at hint
          | error f =>
              rw [int, hshown] at hint
              cases hint
              exact .inl (refuses_unencodable owner)
  | bytes content =>
      intro room depth e he
      cases room with
      | zero => exact hzero _ depth e he
      | succ room => exact .inl (Except.error.inj he ▸ refuses_unsupported owner "bytes")
  | set members =>
      intro room depth e he
      cases room with
      | zero => exact hzero _ depth e he
      | succ room => exact .inl (Except.error.inj he ▸ refuses_unsupported owner "set")
  | foreign kind =>
      intro room depth e he
      cases room with
      | zero => exact hzero _ depth e he
      | succ room => exact .inl (Except.error.inj he ▸ refuses_unsupported owner kind)
  | _ =>
      intro room depth e he
      cases room with
      | zero => exact hzero _ depth e he
      | succ room => cases he

/-- A fault that is met first ends the literal without a report. -/
theorem value_of_meetsFault {room : Nat} {fault : Fault} {v : Value} (h : v.MeetsFault room fault)
    (hv : v.Composed) : ∀ depth, value owner room depth v = .error (.fault fault) := by
  induction h with
  | deep v => exact fun depth => literal_zero owner depth v
  | mixed hmixed =>
      intro depth
      cases hv with
      | dict hkeys _ => exact value_of_mixed hkeys hmixed
  | unshown hmixed hsorted hlong =>
      intro depth
      cases hv with
      | dict hkeys _ =>
          rw [value_of_number hkeys hmixed hsorted, otherKey, Key.shown, showInt_of_isLong hlong]
  | item hbefore _ ih =>
      intro depth
      cases hv with
      | list hitems =>
          have hx := ih (hitems _ (by simp)) (depth + 1)
          exact (value_list_eq_error_iff hitems).mpr ⟨_, _, _, rfl, hbefore, hx⟩
  | member hbefore _ ih =>
      intro depth
      cases hv with
      | tuple hitems =>
          have hx := ih (hitems _ (by simp)) (depth + 1)
          rw [value_tuple]
          exact (value_list_eq_error_iff hitems).mpr ⟨_, _, _, rfl, hbefore, hx⟩
  | @entry room fault es before after k v htexts hsorted hbefore _ ih =>
      intro depth
      cases hv with
      | dict hkeys hvalues =>
          have hmem : (k, v) ∈ es := mem_sortEntries.mp (hsorted ▸ by simp)
          have hx := ih (hvalues _ hmem) (depth + 1)
          exact (value_dict_eq_error_iff hvalues htexts).mpr ⟨_, _, _, _, hsorted, hbefore, hx⟩

end Literal

/-! ## Both encoders -/

open Literal Value

theorem exists_json_iff {owner : String} {v : Value} :
    (∃ s, Cell.json owner v = .ok s) ↔ ∃ s, v.encode callLimit = .ok s := by
  unfold Cell.json
  cases v.encode callLimit <;> simp [Except.mapError]

/-- A value that has no text as JSON is refused, but not if it runs too deep. -/
theorem json_eq_error {owner : String} {v : Value} {e : Failure} (hv : v.Composed)
    (h : Cell.json owner v = .error e) :
    (Refuses owner e ∧ ¬ v.RunsDeep callLimit) ∨
      (e = .fault .tooDeep ∧ v.RunsDeep callLimit) := by
  have hdeep := hv.encode_eq_tooDeep_iff callLimit
  unfold Cell.json at h
  cases hfault : v.encode callLimit with
  | ok s => simp [hfault, Except.mapError] at h
  | error f =>
      rw [hfault] at h hdeep
      cases h
      rcases hv.encode_eq_error callLimit f hfault with rfl | rfl | rfl
      · exact .inr ⟨rfl, hdeep.mp rfl⟩
      · exact .inl ⟨refuses_unencodable owner, fun h => by cases hdeep.mpr h⟩
      · exact .inl ⟨refuses_unencodable owner, fun h => by cases hdeep.mpr h⟩

theorem not_refuses_fault (owner : String) (fault : Fault) : ¬ Refuses owner (.fault fault) := by
  rintro ⟨rest, hrest⟩
  cases hrest

/-- A value is written as JSON exactly if it stands in the room there is and nothing inside it is barred
from JSON, and as a literal exactly if there is room for its calls and everything inside it has a literal;
otherwise it is refused by a report that names the owner. The exceptions are values in which the end of the
room is met first, and literals in which mixed keys, or a number as a key that cannot be shown, are met
first: they fail without a report. -/
theorem refuses_unless_fault {v : Value} (hv : v.Composed) (owner indent : String) :
    ((∃ s, Cell.json owner v = .ok s) ↔
      v.fits callLimit = true ∧ ∀ u, PartOf u v → ¬ u.IsBarred) ∧
    ((∀ e, Cell.json owner v = .error e → Refuses owner e) ↔ ¬ v.RunsDeep callLimit) ∧
    (v.RunsDeep callLimit → Cell.json owner v = .error (.fault .tooDeep)) ∧
    ((∃ s, ofValue owner indent v = .ok s) ↔
      v.calls ≤ callLimit ∧ ∀ u, PartOf u v → ¬ u.IsUnliteral) ∧
    ((∀ e, ofValue owner indent v = .error e → Refuses owner e) ↔
      ∀ fault, ¬ v.MeetsFault callLimit fault) ∧
    ∀ fault, v.MeetsFault callLimit fault → ofValue owner indent v = .error (.fault fault) := by
  have hdeep (h : v.RunsDeep callLimit) : Cell.json owner v = .error (.fault .tooDeep) := by
    rw [Cell.json, (hv.encode_eq_tooDeep_iff callLimit).mpr h]
    rfl
  have hfault (fault : Fault) (h : v.MeetsFault callLimit fault) :
      ofValue owner indent v = .error (.fault fault) :=
    map_eq_error_iff.mpr (value_of_meetsFault h hv 0)
  refine ⟨?_, ⟨fun h hruns => ?_, fun hruns e he => ?_⟩, hdeep, ?_, ⟨fun h fault hmeets => ?_,
    fun h e he => ?_⟩, hfault⟩
  · rw [exists_json_iff, hv.exists_encode_iff]
    exact ⟨fun h => ⟨h.1, h.2⟩, fun h => ⟨h.1, h.2⟩⟩
  · exact not_refuses_fault owner _ (h _ (hdeep hruns))
  · exact ((json_eq_error hv he).resolve_right fun hboth => hruns hboth.2).1
  · have hwritten : (∃ s, value owner callLimit 0 v = .ok s) ↔ v.HasLiteral callLimit :=
      exists_value_iff hv callLimit 0
    rw [ofValue, exists_map_eq_ok_iff, hwritten]
    exact ⟨fun h => ⟨h.1, h.2⟩, fun h => ⟨h.1, h.2⟩⟩
  · exact not_refuses_fault owner _ (h _ (hfault fault hmeets))
  · obtain hrefuses | ⟨fault, -, hmeets⟩ :=
      refuses_or_meetsFault hv callLimit 0 e (map_eq_error_iff.mp he)
    · exact hrefuses
    · exact absurd hmeets (h fault)

/-- A set in front of mixed keys is met first, inside another mapping here, and is refused by both. -/
theorem refuses_unless_fault_set :
    let v : Value := .list
      [.dict [(.text "k", .set [.int 1])], .dict [(.int 1, .null), (.text "b", .null)]]
    v.Composed ∧ (¬ ∃ s, Cell.json "p" v = .ok s) ∧ ∀ fault, ¬ v.MeetsFault callLimit fault := by
  have hmapping : Composed (.dict [(.text "k", .set [.int 1])]) :=
    .dict (by simp [HasPlainKeys]) (by simpa using .set _)
  have hmixed : Composed (.dict [(.int 1, .null), (.text "b", .null)]) :=
    .dict (by simp [HasPlainKeys]) (by simpa using .null)
  have hv := Composed.list (List.forall_mem_cons.mpr
    ⟨hmapping, List.forall_mem_cons.mpr ⟨hmixed, List.forall_mem_nil _⟩⟩)
  have h := refuses_unless_fault hv "p" ""
  have hset : PartOf (.set [.int 1]) (.dict [(.text "k", .set [.int 1])]) :=
    .entry (List.mem_cons_self ..) (.self _)
  refine ⟨hv, fun hjson => (h.1.mp hjson).2 _ (.item (List.mem_cons_self ..) hset) trivial, ?_⟩
  refine h.2.2.2.2.1.mp fun e he => ?_
  have hlimit : callLimit = 984 + 1 := rfl
  have hroom : 984 - 1 = 982 + 1 := rfl
  rw [ofValue, hlimit, value_list, List.mapM_cons, hroom, value_dict, Key.sortEntries,
    List.mergeSort_singleton] at he
  cases he
  exact refuses_unsupported "p" "set"

/-- Mixed keys are refused in JSON, and end the literal without a report. -/
theorem mixed_keys_end_literal :
    let v : Value := .dict [(.int 1, .text "a"), (.text "b", .int 2)]
    v.Composed ∧ Cell.json "x" v = .error (RenderError.unencodable "x").failure ∧
      ofValue "x" "" v = .error (.fault .wrongKind) ∧ ¬ Refuses "x" (.fault .wrongKind) := by
  refine ⟨.dict (by simp [HasPlainKeys]) ?_, by rfl, by rfl, not_refuses_fault _ _⟩
  simpa using ⟨.text "a", .int 2⟩

end TemplateDocs
