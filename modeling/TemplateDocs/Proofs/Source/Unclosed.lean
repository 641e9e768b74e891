import TemplateDocs.Proofs.Source.Attribution
import TemplateDocs.Proofs.Source.Noise

/-! # Where a scan fails

A scan fails only at its end, when a comment or a description is still open. Its error names the line
that opened it: the lines before can be scanned on their own, and from that line on every longer piece
of the source fails in the same way.
-/

namespace TemplateDocs.Source

variable {c : Bool} {lines : List String} {s : Scan} {e : ScanError} {k : Nat}

/-! ## What is open -/

/-- The error of a scan that ends in this mode. -/
def Mode.unclosed? : Mode → Option ScanError
  | .normal => none
  | .comment opened => some (.unclosedComment opened)
  | .description opened _ _ => some (.unclosedDescription opened)

/-- The line with this number, counted from one, opens what the error says is not closed. -/
inductive Opens (collectVariables : Bool) (lines : List String) : Nat → ScanError → Prop where
  | comment {k : Nat} (h : readingAt collectVariables lines k = some .opensComment) :
      Opens collectVariables lines (k + 1) (.unclosedComment (k + 1))
  | description {k : Nat} {first : String}
      (h : readingAt collectVariables lines k = some (.opensDescription first)) :
      Opens collectVariables lines (k + 1) (.unclosedDescription (k + 1))

/-- From line `k` on, counted from one, the scan fails with one and the same error, which names the line;
the lines before it can be scanned. -/
structure FailsFrom (collectVariables : Bool) (lines : List String) (k : Nat) (e : ScanError) :
    Prop where
  opens : Opens collectVariables lines k e
  message : ∃ what ∈ ["comment", "description"],
    e.message = "multiline " ++ what ++ " was not closed (opened on line " ++ toString k ++ ")"
  first_le : 1 ≤ k
  le_last : k ≤ lines.length
  before : ∃ found, scanLines collectVariables (lines.take (k - 1)) = .ok found
  fails : ∀ j, k ≤ j → j ≤ lines.length → scanLines collectVariables (lines.take j) = .error e

theorem Mode.unclosed?_eq_none_iff {m : Mode} : m.unclosed? = none ↔ m = .normal := by
  cases m <;> simp [Mode.unclosed?]

theorem scanLines_eq_error_iff :
    scanLines c lines = .error e ↔ (Scan.run c lines).mode.unclosed? = some e := by
  unfold scanLines Scan.finish
  cases (Scan.run c lines).mode <;> simp [Mode.unclosed?]

theorem Opens.message (h : Opens c lines k e) : ∃ what ∈ ["comment", "description"],
    e.message = "multiline " ++ what ++ " was not closed (opened on line " ++ toString k ++ ")" := by
  cases h with
  | comment => exact ⟨"comment", by simp, rfl⟩
  | description => exact ⟨"description", by simp, rfl⟩

/-! ## One line -/

theorem startDescription_lineNumber (s : Scan) (cs : List Char) :
    (s.startDescription cs).lineNumber = s.lineNumber := by
  rcases startDescription_cases s cs with ⟨parts, h, -⟩ | ⟨parts, closed, h, -⟩
  · rw [h, Scan.finishDescription]
  · rw [h]

theorem continueDescription_lineNumber (s : Scan) (opened : Nat) (parts : List String) (closed : Bool)
    (cs : List Char) : (s.continueDescription opened parts closed cs).lineNumber = s.lineNumber := by
  unfold Scan.continueDescription Scan.finishDescription
  split
  · split <;> rfl
  · split
    · dsimp only
      split <;> rfl
    · rfl

theorem step_lineNumber (s : Scan) (cs : List Char) :
    (s.step c cs).lineNumber = s.lineNumber + 1 := by
  unfold Scan.step
  dsimp only
  split
  · split <;> rfl
  · rw [continueDescription_lineNumber]
  · generalize Line.ofList c cs = l
    cases l with
    | opensDescription first => rw [Scan.take, startDescription_lineNumber]
    | _ => rfl

/-- What is open stays open, as opened on the same line, or is closed. -/
theorem step_of_unclosed (h : s.mode.unclosed? = some e) (cs : List Char) :
    (s.step c cs).mode = .normal ∨ (s.step c cs).mode.unclosed? = some e := by
  cases hmode : s.mode with
  | normal =>
      rw [hmode] at h
      cases h
  | comment opened =>
      rw [hmode] at h
      simp only [Scan.step, hmode]
      split
      · exact .inl rfl
      · exact .inr h
  | description opened parts closed =>
      rw [hmode] at h
      simp only [Scan.step, hmode]
      unfold Scan.continueDescription
      split
      · split
        · exact .inl rfl
        · exact .inr h
      · split
        · dsimp only
          split
          · exact .inl rfl
          · exact .inr h
        · exact .inr h

/-- Where nothing is open, a line that leaves something open is the one that opens it. -/
theorem take_of_normal (hs : s.mode = .normal) {l : Line} (h : (s.take l).mode.unclosed? = some e) :
    (l = .opensComment ∧ e = .unclosedComment s.lineNumber) ∨
      ∃ first, l = .opensDescription first ∧ e = .unclosedDescription s.lineNumber := by
  cases l with
  | opensComment =>
      cases h
      exact .inl ⟨rfl, rfl⟩
  | opensDescription first =>
      rw [Scan.take] at h
      rcases startDescription_cases s first.toList with ⟨parts, hstart, -⟩ | ⟨parts, closed, hstart, -⟩
      · rw [hstart] at h
        cases h
      · rw [hstart] at h
        cases h
        exact .inr ⟨first, rfl, rfl⟩
  | _ => simp [Scan.take, hs, Mode.unclosed?] at h

/-! ## All lines -/

theorem run_lineNumber (c : Bool) (lines : List String) :
    (Scan.run c lines).lineNumber = lines.length := by
  induction lines using List.reverseRecOn with
  | nil => rfl
  | append_singleton lines line ih =>
      rw [run_concat, step_lineNumber, ih, List.length_append, List.length_singleton]

/-- What is open before a line was opened by an earlier one, and has been open ever since. -/
theorem opened_of_unclosed (hk : k ≤ lines.length)
    (h : (stateBefore c lines k).mode.unclosed? = some e) :
    ∃ i < k, Opens c lines (i + 1) e ∧ (stateBefore c lines i).mode = .normal ∧
      ∀ j, i < j → j ≤ k → (stateBefore c lines j).mode.unclosed? = some e := by
  induction k with
  | zero => cases h
  | succ k ih =>
      obtain ⟨line, hline⟩ : ∃ line, lines[k]? = some line := ⟨_, List.getElem?_eq_getElem hk⟩
      cases hbefore : (stateBefore c lines k).mode.unclosed? with
      | none =>
          have hmode := Mode.unclosed?_eq_none_iff.mp hbefore
          have hreading := readingAt_eq_some_iff.mpr ⟨line, hline, hmode, rfl⟩
          have hnumber : (stateBefore c lines k).advance.lineNumber = k + 1 := by
            have hlength := run_lineNumber c (lines.take k)
            rw [List.length_take, Nat.min_eq_left (Nat.le_of_succ_le hk)] at hlength
            rw [Scan.advance, stateBefore, hlength]
          refine ⟨k, Nat.lt_succ_self k, ?_, hmode, ?_⟩
          · rw [stateBefore_succ_of_reading hreading] at h
            rcases take_of_normal (s := (stateBefore c lines k).advance) hmode h with
              ⟨hl, rfl⟩ | ⟨first, hl, rfl⟩
            · rw [hnumber]
              exact .comment (hl ▸ hreading)
            · rw [hnumber]
              exact .description (hl ▸ hreading)
          · intro j hj hjk
            obtain rfl : j = k + 1 := by omega
            exact h
      | some e' =>
          have hsame : e' = e := by
            rw [stateBefore_succ hline] at h
            rcases step_of_unclosed hbefore (Scan.withoutLineEnd line) with hclosed | hopen
            · rw [Mode.unclosed?_eq_none_iff.mpr hclosed] at h
              cases h
            · exact Option.some.inj (hopen.symm.trans h)
          obtain ⟨i, hik, hopens, hnormal, hall⟩ := ih (Nat.le_of_succ_le hk) (hsame ▸ hbefore)
          refine ⟨i, Nat.lt_succ_of_lt hik, hopens, hnormal, fun j hij hjk => ?_⟩
          rcases Nat.eq_or_lt_of_le hjk with rfl | hjk
          · exact h
          · exact hall j hij (Nat.le_of_lt_succ hjk)

/-- A scan ends outside of comments and descriptions and gives what it found, or it fails, from the line
on that opens what is never closed. -/
theorem scanLines_ok_or_failsFrom (c : Bool) (lines : List String) :
    ((∃ found, scanLines c lines = .ok found) ∧ (Scan.run c lines).mode = .normal) ∨
      ∃ k e, scanLines c lines = .error e ∧ FailsFrom c lines k e := by
  cases hscan : scanLines c lines with
  | ok found => exact .inl ⟨⟨found, rfl⟩, (scanLines_eq_ok_iff.mp hscan).1⟩
  | error e =>
      have hopen : (stateBefore c lines lines.length).mode.unclosed? = some e := by
        rw [stateBefore, List.take_length]
        exact scanLines_eq_error_iff.mp hscan
      obtain ⟨i, hi, hopens, hnormal, hall⟩ := opened_of_unclosed (Nat.le_refl _) hopen
      refine .inr ⟨i + 1, e, rfl, hopens, hopens.message, Nat.le_add_left 1 i, hi, ?_, ?_⟩
      · exact ⟨_, scanLines_eq_ok_iff.mpr ⟨hnormal, rfl⟩⟩
      · exact fun j hij hj => scanLines_eq_error_iff.mpr (hall j hij hj)

end TemplateDocs.Source
