import TemplateDocs.Source.Scan

/-! # Scanning one piece of a source after another

A scan that goes on outside of comments and descriptions, with no description waiting, runs as it
would from the first line of a file: its line numbers move, and what was found before stays in front.
-/

namespace TemplateDocs

/-- What was found in one place and then in another. -/
def Findings.append (before found : Findings) : Findings :=
  { modules := before.modules ++ found.modules
    resources := before.resources ++ found.resources
    vars := before.vars ++ found.vars }

/-- What was found in several places, one after the other. -/
def Findings.join (findings : List Findings) : Findings :=
  { modules := findings.flatMap Findings.modules
    resources := findings.flatMap Findings.resources
    vars := findings.flatMap Findings.vars }

namespace Source

variable {c : Bool} {lines xs ys : List String}

/-! ## The same scan further down -/

/-- The mode in which the lines stand `n` lines further down. -/
def Mode.later (n : Nat) : Mode → Mode
  | .normal => .normal
  | .comment opened => .comment (n + opened)
  | .description opened parts quotesClosed => .description (n + opened) parts quotesClosed

/-- The state of a scan that started where another one ended. -/
def Scan.after (s before : Scan) : Scan :=
  { mode := s.mode.later before.lineNumber
    pending := s.pending
    lineNumber := before.lineNumber + s.lineNumber
    found := before.found.append s.found }

theorem finishDescription_after (s before : Scan) (parts : List String) :
    (s.after before).finishDescription parts = (s.finishDescription parts).after before :=
  rfl

theorem continueDescription_after (s before : Scan) (opened : Nat) (parts : List String)
    (quotesClosed : Bool) (cs : List Char) :
    (s.after before).continueDescription (before.lineNumber + opened) parts quotesClosed cs =
      (s.continueDescription opened parts quotesClosed cs).after before := by
  unfold Scan.continueDescription
  simp only [finishDescription_after]
  cases quotesClosed with
  | true =>
      simp only [if_true]
      split <;> rfl
  | false =>
      simp only [Bool.false_eq_true, if_false]
      cases Text.cutAt? tripleQuote cs with
      | none => rfl
      | some cut =>
          dsimp only
          split <;> rfl

theorem startDescription_after (s before : Scan) (cs : List Char) :
    (s.after before).startDescription cs = (s.startDescription cs).after before := by
  unfold Scan.startDescription
  dsimp only
  split
  · exact continueDescription_after { s with mode := .description s.lineNumber [] false } before
      s.lineNumber [] false cs
  · rfl

theorem take_after (s before : Scan) (l : Line) : (s.after before).take l = (s.take l).after before := by
  cases l with
  | opensDescription text => exact startDescription_after s before text.toList
  | «variable» name value => simp [Scan.take, Scan.after, Findings.append]
  | module name source => simp [Scan.take, Scan.after, Findings.append]
  | resource name type => simp [Scan.take, Scan.after, Findings.append]
  | _ => rfl

theorem step_after (s before : Scan) (cs : List Char) :
    (s.after before).step c cs = (s.step c cs).after before := by
  have hnext : { s.after before with lineNumber := (s.after before).lineNumber + 1 } =
      Scan.after { s with lineNumber := s.lineNumber + 1 } before := rfl
  unfold Scan.step
  dsimp only
  rw [hnext]
  cases hmode : s.mode with
  | normal =>
      have htake := take_after { s with lineNumber := s.lineNumber + 1 } before (Line.ofList c cs)
      simpa only [Scan.after, hmode, Mode.later] using htake
  | comment opened =>
      simp only [Scan.after, hmode, Mode.later]
      split <;> rfl
  | description opened parts quotesClosed =>
      have hcontinue := continueDescription_after { s with lineNumber := s.lineNumber + 1 } before
        opened parts quotesClosed cs
      simpa only [Scan.after, hmode, Mode.later] using hcontinue

/-- From a state further down, all lines do what they do from the start. -/
theorem foldl_step_after (lines : List String) (s before : Scan) :
    lines.foldl (fun s line => s.step c (Scan.withoutLineEnd line)) (s.after before) =
      (lines.foldl (fun s line => s.step c (Scan.withoutLineEnd line)) s).after before := by
  induction lines generalizing s with
  | nil => rfl
  | cons line lines ih =>
      rw [List.foldl_cons, List.foldl_cons, step_after]
      exact ih _

/-! ## Lines that can be scanned on their own -/

theorem run_concat (lines : List String) (line : String) :
    Scan.run c (lines ++ [line]) = (Scan.run c lines).step c (Scan.withoutLineEnd line) := by
  rw [Scan.run, List.foldl_append]
  rfl

theorem scanLines_eq_ok_iff {found : Findings} :
    scanLines c lines = .ok found ↔
      (Scan.run c lines).mode = .normal ∧ found = (Scan.run c lines).found.sorted := by
  unfold scanLines Scan.finish
  cases (Scan.run c lines).mode with
  | normal => simp [eq_comm]
  | comment opened => simp
  | description opened parts quotesClosed => simp

/-- The lines can be scanned on their own, and at their end no description waits for a declaration. -/
structure SelfContained (collectVariables : Bool) (lines : List String) : Prop where
  scanned : ∃ found, scanLines collectVariables lines = .ok found
  settled : (Scan.run collectVariables lines).pending = ""

theorem selfContained_iff :
    SelfContained c lines ↔ (Scan.run c lines).mode = .normal ∧ (Scan.run c lines).pending = "" := by
  constructor
  · rintro ⟨⟨found, hfound⟩, hpending⟩
    exact ⟨(scanLines_eq_ok_iff.mp hfound).1, hpending⟩
  · rintro ⟨hmode, hpending⟩
    exact ⟨⟨_, scanLines_eq_ok_iff.mpr ⟨hmode, rfl⟩⟩, hpending⟩

instance (collectVariables : Bool) (lines : List String) :
    Decidable (SelfContained collectVariables lines) :=
  decidable_of_iff _ selfContained_iff.symm

/-- After lines that can be scanned on their own, a scan starts anew. -/
theorem run_append (h : SelfContained c xs) (ys : List String) :
    Scan.run c (xs ++ ys) = (Scan.run c ys).after (Scan.run c xs) := by
  obtain ⟨hmode, hpending⟩ := selfContained_iff.mp h
  -- What is left of the lines before is their number and what they declare.
  have hstart : Scan.run c xs = Scan.after {} (Scan.run c xs) := by
    generalize Scan.run c xs = s at hmode hpending
    obtain ⟨mode, pending, lineNumber, found⟩ := s
    subst hmode hpending
    simp [Scan.after, Mode.later, Findings.append]
  calc Scan.run c (xs ++ ys)
      = ys.foldl (fun s line => s.step c (Scan.withoutLineEnd line)) (Scan.run c xs) :=
        List.foldl_append
    _ = ys.foldl (fun s line => s.step c (Scan.withoutLineEnd line))
          (Scan.after {} (Scan.run c xs)) := by rw [← hstart]
    _ = (Scan.run c ys).after (Scan.run c xs) := foldl_step_after ys {} (Scan.run c xs)

theorem selfContained_nil : SelfContained c [] :=
  selfContained_iff.mpr ⟨rfl, rfl⟩

theorem SelfContained.append (hx : SelfContained c xs) (hy : SelfContained c ys) :
    SelfContained c (xs ++ ys) := by
  obtain ⟨hmode, hpending⟩ := selfContained_iff.mp hy
  rw [selfContained_iff, run_append hx]
  simp [Scan.after, hmode, hpending, Mode.later]

/-! ## Many pieces -/

theorem SelfContained.flatten {blocks : List (List String)} (h : ∀ b ∈ blocks, SelfContained c b) :
    SelfContained c blocks.flatten := by
  induction blocks with
  | nil => exact selfContained_nil
  | cons b blocks ih =>
      rw [List.flatten_cons]
      exact (h b List.mem_cons_self).append (ih fun b' hb' => h b' (List.mem_cons_of_mem b hb'))

/-- What blocks of lines declare, each of them scanned on its own. -/
def declared (collectVariables : Bool) (blocks : List (List String)) : Findings :=
  .join (blocks.map fun b => (Scan.run collectVariables b).found)

/-- A source made of such pieces declares what they declare, one after the other. -/
theorem found_flatten {blocks : List (List String)} (h : ∀ b ∈ blocks, SelfContained c b) :
    (Scan.run c blocks.flatten).found = declared c blocks := by
  induction blocks with
  | nil => rfl
  | cons b blocks ih =>
      have hrest := ih fun b' hb' => h b' (List.mem_cons_of_mem b hb')
      rw [List.flatten_cons, run_append (h b List.mem_cons_self)]
      simp [Scan.after, hrest, Findings.append, declared, Findings.join]

end Source

end TemplateDocs
