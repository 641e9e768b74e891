import TemplateDocs.Text.Order

/-! # Laws of the order of texts

The order is total, and texts that stand in order both ways are the same: halves of pairs have code
units that no character has.
-/

namespace TemplateDocs.Text

/-! ## Numbers -/

theorem unitsInOrder_refl (as : List Nat) : unitsInOrder as as = true := by
  induction as with
  | nil => rfl
  | cons a as ih => simp [unitsInOrder, ih]

theorem unitsInOrder_trans {as bs cs : List Nat} (hab : unitsInOrder as bs = true)
    (hbc : unitsInOrder bs cs = true) : unitsInOrder as cs = true := by
  induction as generalizing bs cs with
  | nil => rfl
  | cons a as ih =>
      cases bs with
      | nil => cases hab
      | cons b bs =>
          cases cs with
          | nil => cases hbc
          | cons c cs =>
              simp only [unitsInOrder, Bool.or_eq_true, Bool.and_eq_true, decide_eq_true_eq,
                beq_iff_eq] at hab hbc ⊢
              rcases hab with hab | ⟨rfl, hab⟩
              · rcases hbc with hbc | ⟨rfl, -⟩
                · exact .inl (Nat.lt_trans hab hbc)
                · exact .inl hab
              · rcases hbc with hbc | ⟨rfl, hbc⟩
                · exact .inl hbc
                · exact .inr ⟨rfl, ih hab hbc⟩

theorem unitsInOrder_total (as bs : List Nat) :
    unitsInOrder as bs = true ∨ unitsInOrder bs as = true := by
  induction as generalizing bs with
  | nil => exact .inl rfl
  | cons a as ih =>
      cases bs with
      | nil => exact .inr rfl
      | cons b bs =>
          simp only [unitsInOrder, Bool.or_eq_true, Bool.and_eq_true, decide_eq_true_eq, beq_iff_eq]
          rcases Nat.lt_trichotomy a b with hab | rfl | hab
          · exact .inl (.inl hab)
          · exact (ih bs).imp (fun h => .inr ⟨rfl, h⟩) fun h => .inr ⟨rfl, h⟩
          · exact .inr (.inl hab)

theorem unitsInOrder_antisymm {as bs : List Nat} (hab : unitsInOrder as bs = true)
    (hba : unitsInOrder bs as = true) : as = bs := by
  induction as generalizing bs with
  | nil =>
      cases bs with
      | nil => rfl
      | cons b bs => cases hba
  | cons a as ih =>
      cases bs with
      | nil => cases hab
      | cons b bs =>
          simp only [unitsInOrder, Bool.or_eq_true, Bool.and_eq_true, decide_eq_true_eq,
            beq_iff_eq] at hab hba
          rcases hab with hab | ⟨rfl, hab⟩
          · rcases hba with hba | ⟨rfl, -⟩
            · omega
            · omega
          · rcases hba with hba | ⟨-, hba⟩
            · omega
            · rw [ih hab hba]

/-! ## Texts -/

theorem isHalf_iff {n : Nat} : isHalf n = true ↔ 0xD800 ≤ n ∧ n < 0xE000 := by
  rw [isHalf, Bool.and_eq_true, decide_eq_true_eq, decide_eq_true_eq]

/-- No character has the code point of half of a pair. -/
theorem not_isHalf_toNat (c : Char) : ¬ isHalf c.toNat = true := by
  have hc := c.valid
  simp only [UInt32.isValidChar, Nat.isValidChar] at hc
  rw [isHalf_iff, Char.toNat]
  omega

theorem toUnit_injective {c d : Char} (h : toUnit c = toUnit d) : c = d := by
  apply Char.toNat_inj.mp
  have hc := not_isHalf_toNat c
  have hd := not_isHalf_toNat d
  unfold toUnit at h
  split at h
  case isTrue hhalf =>
    split at h
    case isTrue hhalf' =>
      rw [isHalf_iff] at hhalf hhalf'
      omega
    case isFalse =>
      rw [h] at hhalf
      exact absurd hhalf hd
  case isFalse =>
    split at h
    case isTrue hhalf' =>
      rw [← h] at hhalf'
      exact absurd hhalf' hc
    case isFalse => exact h

theorem units_injective {s t : String} (h : units s = units t) : s = t := by
  apply String.toList_injective
  exact (List.map_inj_right fun _ _ => toUnit_injective).mp h

theorem inOrder_refl (s : String) : inOrder s s = true :=
  unitsInOrder_refl (units s)

theorem inOrder_trans {s t u : String} (hst : inOrder s t = true) (htu : inOrder t u = true) :
    inOrder s u = true :=
  unitsInOrder_trans hst htu

theorem inOrder_total (s t : String) : inOrder s t = true ∨ inOrder t s = true :=
  unitsInOrder_total (units s) (units t)

theorem inOrder_antisymm {s t : String} (hst : inOrder s t = true) (hts : inOrder t s = true) :
    s = t :=
  units_injective (unitsInOrder_antisymm hst hts)

/-! ## The strict order -/

/-- A text stands before another if it is a proper start of it, or if the first code point in which
they differ is smaller. -/
def Before (s t : String) : Prop :=
  List.Lex (· < ·) (units s) (units t)

theorem unitsInOrder_iff {as bs : List Nat} :
    unitsInOrder as bs = true ↔ as = bs ∨ List.Lex (· < ·) as bs := by
  induction as generalizing bs with
  | nil => cases bs <;> simp [unitsInOrder]
  | cons a as ih =>
      cases bs with
      | nil => simp [unitsInOrder]
      | cons b bs =>
          simp only [unitsInOrder, Bool.or_eq_true, Bool.and_eq_true, decide_eq_true_eq, beq_iff_eq,
            ih, List.cons.injEq, List.cons_lex_cons_iff]
          constructor
          · rintro (hlt | ⟨rfl, rfl | hlex⟩)
            · exact .inr (.inl hlt)
            · exact .inl ⟨rfl, rfl⟩
            · exact .inr (.inr ⟨rfl, hlex⟩)
          · rintro (⟨rfl, rfl⟩ | hlt | ⟨rfl, hlex⟩)
            · exact .inr ⟨rfl, .inl rfl⟩
            · exact .inl hlt
            · exact .inr ⟨rfl, .inr hlex⟩

/-- Different texts in order stand one before the other. -/
theorem before_of_inOrder {s t : String} (h : inOrder s t = true) (hne : s ≠ t) : Before s t := by
  rcases unitsInOrder_iff.mp h with hsame | hlex
  · exact absurd (units_injective hsame) hne
  · exact hlex

end TemplateDocs.Text
