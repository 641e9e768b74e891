import TemplateDocs.Proofs.Text.Unbroken
import TemplateDocs.Proofs.Value.Json

/-! # Values on one line

The JSON text of a document holds no line ends: numbers have none, and those in texts and keys are
written as escapes.
-/

namespace TemplateDocs

open Text

/-! ## Numbers -/

theorem isFileLineEnd_of_isDigit {c : Char} (h : c.isDigit = true) : isFileLineEnd c = false := by
  simp only [Char.isDigit, Bool.and_eq_true, decide_eq_true_eq] at h
  have hlow : 48 ≤ c.toNat := h.1
  exact isFileLineEnd_of_lt (by omega)

theorem unbroken_toDigits (n : Nat) : Unbroken (Nat.toDigits 10 n) := by
  intro c hc
  exact isFileLineEnd_of_isDigit (Nat.isDigit_of_mem_toDigits (by decide) (by decide) hc)

theorem unbroken_int (n : Int) : Unbroken (toString n).toList := by
  cases n with
  | ofNat m => exact (Nat.toList_repr (n := m)) ▸ unbroken_toDigits m
  | negSucc m =>
      change Unbroken ("-" ++ Nat.repr (m + 1)).toList
      rw [String.toList_append, Nat.toList_repr, unbroken_append]
      exact ⟨by decide, unbroken_toDigits (m + 1)⟩

/-- A decimal is written with digits, a point, an exponent and its sign, so that what holds of these
characters holds of all. -/
theorem decimal_forall_mem {p : Char → Prop} (hdigit : ∀ c, c.isDigit = true → p c) (hpoint : p '.')
    (hexponent : p 'e') (hminus : p '-') (hplus : p '+') (d : Decimal) : ∀ c ∈ d.text, p c := by
  have hdigits (n : Nat) : ∀ c ∈ Nat.toDigits 10 n, p c := fun c hc =>
    hdigit c (Nat.isDigit_of_mem_toDigits (by decide) (by decide) hc)
  have hzero : p '0' := hdigit '0' (by decide)
  have hzeros (n : Nat) : ∀ c ∈ List.replicate n '0', p c := by
    intro c hc
    rw [List.eq_of_mem_replicate hc]
    exact hzero
  have hkept : ∀ c ∈ (stripZeros (Nat.toDigits 10 d.digits)).1, p c := by
    intro c hc
    exact hdigits d.digits c
      (List.mem_reverse.mp ((List.dropWhile_sublist _).subset (List.mem_reverse.mp hc)))
  unfold Decimal.text
  generalize stripZeros (Nat.toDigits 10 d.digits) = stripped at hkept
  obtain ⟨digits, zeros⟩ := stripped
  have htake (n : Nat) : ∀ c ∈ digits.take n, p c := fun c hc => hkept c (List.mem_of_mem_take hc)
  have hdrop (n : Nat) : ∀ c ∈ digits.drop n, p c := fun c hc => hkept c (List.mem_of_mem_drop hc)
  have hsign (negative : Prop) [Decidable negative] : p (if negative then '-' else '+') := by
    split
    · exact hminus
    · exact hplus
  split
  · simp [hzero, hpoint]
  · dsimp only
    split
    case isTrue =>
      split_ifs
      · simp only [List.forall_mem_cons, List.forall_mem_append]
        exact ⟨hzero, hpoint, hzeros _, hkept⟩
      · simp only [List.forall_mem_cons, List.forall_mem_append]
        exact ⟨⟨hkept, hzeros _⟩, hpoint, hzero, by simp⟩
      · simp only [List.forall_mem_cons, List.forall_mem_append]
        exact ⟨htake _, hpoint, hdrop _⟩
    case isFalse =>
      simp only [List.forall_mem_append, List.forall_mem_cons]
      refine ⟨⟨htake 1, ?_⟩, hexponent, hsign _, hzeros _, hdigits _⟩
      have hrest := hdrop 1
      split
      · simp
      · exact List.forall_mem_cons.mpr ⟨hpoint, hrest⟩

theorem unbroken_decimal (d : Decimal) : Unbroken d.text :=
  decimal_forall_mem (fun _ => isFileLineEnd_of_isDigit) (by decide) (by decide) (by decide)
    (by decide) d

theorem unbroken_double (x : Double) : Unbroken (x.text jsonWords).toList := by
  cases x with
  | notANumber => decide
  | infinite negative => cases negative <;> decide
  | finite negative mantissa exponent =>
      rw [Double.text, String.toList_append, String.toList_ofList, unbroken_append]
      refine ⟨?_, unbroken_decimal _⟩
      split <;> decide

/-! ## Texts -/

theorem unbroken_unitEscape : ∀ n < 0x20, Unbroken (unitEscape n) := by
  decide +kernel

theorem unbroken_jsonChar (c : Char) : Unbroken (jsonChar c) := by
  unfold jsonChar
  split_ifs with _ _ _ _ _ _ _ hcontrol
  any_goals decide
  · exact unbroken_unitEscape c.toNat hcontrol
  · simpa using isFileLineEnd_of_lt (by omega)

theorem unbroken_jsonString (s : String) : Unbroken (jsonString jsonChar s).toList := by
  rw [jsonString, String.toList_ofList, unbroken_cons, unbroken_append, unbroken_flatMap]
  exact ⟨by decide, fun c _ => unbroken_jsonChar c, by decide⟩

/-! ## Documents -/

theorem unbroken_encoded (doc : Json) : Unbroken (Value.encoded doc).toList := by
  have hcomma : Unbroken ", ".toList := by decide
  induction doc using Json.inductionOn with
  | null => decide
  | bool b => cases b <;> decide
  | int n => exact unbroken_int n
  | float x => exact unbroken_double x
  | text s => exact unbroken_jsonString s
  | array items ih =>
      rw [Value.encoded_array, String.toList_append, String.toList_append, unbroken_append,
        unbroken_append, unbroken_join hcomma, List.forall_mem_map]
      exact ⟨⟨by decide, ih⟩, by decide⟩
  | object entries ih =>
      rw [Value.encoded_object, String.toList_append, String.toList_append, unbroken_append,
        unbroken_append, unbroken_join hcomma, List.forall_mem_map]
      refine ⟨⟨by decide, fun e he => ?_⟩, by decide⟩
      rw [Value.encodedMember, String.toList_append, String.toList_append, unbroken_append,
        unbroken_append]
      exact ⟨⟨unbroken_jsonString e.1, by decide⟩,
        ih e ((sortByName_perm Prod.fst entries).mem_iff.mp he)⟩

end TemplateDocs
