import Mathlib
import TemplateDocs.Proofs.Source.Block

/-! # Which description reaches which declaration

Lines are counted from zero. A line counts as a reading when the scan comes to it outside of comments
and descriptions.
-/

namespace TemplateDocs.Source

open Text

variable {c : Bool} {lines : List String} {i j k : Nat} {text : String}

/-! ## Readings and decorators -/

/-- The state of the scan before a line. -/
def stateBefore (collectVariables : Bool) (lines : List String) (k : Nat) : Scan :=
  Scan.run collectVariables (lines.take k)

/-- What a line says, if the scan comes to it outside of comments and descriptions. -/
def readingAt (collectVariables : Bool) (lines : List String) (k : Nat) : Option Line :=
  (lines[k]?).bind fun line =>
    if (stateBefore collectVariables lines k).mode = .normal then
      some (Line.ofList collectVariables (Scan.withoutLineEnd line))
    else none

/-- Whether a line is the header of a declaration. -/
def Line.declares : Line → Bool
  | .variable _ _ => true
  | .otherDeclaration => true
  | .module _ _ => true
  | .resource _ _ => true
  | _ => false

/-- The line is recognised as the header of a declaration. -/
def Declares (collectVariables : Bool) (lines : List String) (k : Nat) : Prop :=
  ∃ l, readingAt collectVariables lines k = some l ∧ l.declares = true

/-- The lines from `j` on and before `k`, without their ends. -/
def between (lines : List String) (j k : Nat) : List (List Char) :=
  ((lines.take k).drop j).map Scan.withoutLineEnd

/-- A description decorator with this text is completed on the line. -/
inductive Decorator (collectVariables : Bool) (lines : List String) : Nat → String → Prop where
  | inline {k : Nat} {text : String}
      (h : readingAt collectVariables lines k = some (.description text)) :
      Decorator collectVariables lines k text
  | block {j k : Nat} {first text : String} (hjk : j ≤ k) (hk : k < lines.length)
      (hopen : readingAt collectVariables lines j = some (.opensDescription first))
      (h : Complete (first.toList :: between lines (j + 1) (k + 1)) text) :
      Decorator collectVariables lines k text

/-- The decorator completed on line `i` is the last one before line `k`, and no declaration stands
between the two. -/
structure Attached (collectVariables : Bool) (lines : List String) (i k : Nat) (text : String) :
    Prop where
  decorator : Decorator collectVariables lines i text
  before : i < k
  last : ∀ j t, Decorator collectVariables lines j t → j < k → j ≤ i
  undeclared : ∀ m, i < m → m < k → ¬ Declares collectVariables lines m

/-- The text is that of the decorator attached to the line, or empty where none is attached. -/
def DescribedAs (collectVariables : Bool) (lines : List String) (k : Nat) (text : String) : Prop :=
  (∃ i, Attached collectVariables lines i k text) ∨
    (text = "" ∧ ∀ i t, ¬ Attached collectVariables lines i k t)

/-! ## From line to line -/

theorem between_self (lines : List String) (k : Nat) : between lines k k = [] := by
  simp [between]

theorem between_append (lines : List String) (hij : i ≤ j) (hjk : j ≤ k) (hk : k ≤ lines.length) :
    between lines i k = between lines i j ++ between lines j k := by
  have htake : lines.take k = lines.take j ++ (lines.take k).drop j := by
    have hsplit := List.take_append_drop j (lines.take k)
    rw [List.take_take, Nat.min_eq_left hjk] at hsplit
    exact hsplit.symm
  have hlength : i ≤ (lines.take j).length := by
    rw [List.length_take]
    omega
  unfold between
  rw [← List.map_append, ← List.drop_append_of_le_length hlength, ← htake]

theorem between_succ {line : String} (hjk : j ≤ k) (h : lines[k]? = some line) :
    between lines j (k + 1) = between lines j k ++ [Scan.withoutLineEnd line] := by
  have hk : k < lines.length := (List.getElem?_eq_some_iff.mp h).1
  have hlast : between lines k (k + 1) = [Scan.withoutLineEnd line] := by
    have hlength : (lines.take k).length = k := by rw [List.length_take]; omega
    simp only [between, List.take_add_one, h, Option.toList_some]
    rw [List.drop_append_of_le_length (by omega), List.drop_of_length_le (by omega)]
    rfl
  rw [between_append lines hjk (Nat.le_succ k) hk, hlast]

theorem stateBefore_succ {line : String} (h : lines[k]? = some line) :
    stateBefore c lines (k + 1) = (stateBefore c lines k).step c (Scan.withoutLineEnd line) := by
  simp [stateBefore, Scan.run, List.take_add_one, h]

theorem readingAt_eq_some_iff {l : Line} :
    readingAt c lines k = some l ↔ ∃ line, lines[k]? = some line ∧
      (stateBefore c lines k).mode = .normal ∧ Line.ofList c (Scan.withoutLineEnd line) = l := by
  cases h : lines[k]? with
  | none => simp [readingAt, h]
  | some line => simp [readingAt, h]

/-- The state at the start of a line, with the line counted. -/
def Scan.advance (s : Scan) : Scan :=
  { s with lineNumber := s.lineNumber + 1 }

theorem stateBefore_succ_of_reading {l : Line} (h : readingAt c lines k = some l) :
    stateBefore c lines (k + 1) = (stateBefore c lines k).advance.take l := by
  obtain ⟨line, hline, hmode, rfl⟩ := readingAt_eq_some_iff.mp h
  rw [stateBefore_succ hline]
  simp [Scan.step, hmode, Scan.advance]

theorem stateBefore_succ_of_description {line : String} {opened : Nat} {parts : List String}
    {closed : Bool} (h : lines[k]? = some line)
    (hmode : (stateBefore c lines k).mode = .description opened parts closed) :
    stateBefore c lines (k + 1) = (stateBefore c lines k).advance.continueDescription opened parts
      closed (Scan.withoutLineEnd line) := by
  rw [stateBefore_succ h]
  simp [Scan.step, hmode, Scan.advance]

/-! ## Open descriptions -/

/-- Up to the line that completes a description, the scan stands inside of it. -/
theorem open_until_complete {first : String} (hk : k < lines.length)
    (hopen : readingAt c lines j = some (.opensDescription first))
    (h : Complete (first.toList :: between lines (j + 1) (k + 1)) text) :
    ∀ m, j < m → m ≤ k → ∃ opened parts closed,
      (stateBefore c lines m).mode = .description opened parts closed ∧
        Incomplete (first.toList :: between lines (j + 1) m) parts closed := by
  -- No shorter run of lines is complete as well.
  have hnot : ∀ m t, j < m → m ≤ k → ¬ Complete (first.toList :: between lines (j + 1) m) t := by
    intro m t hjm hmk hearly
    have hsplit := between_append lines (Nat.succ_le_of_lt hjm) (Nat.le_succ_of_le hmk) hk
    rw [hsplit, ← List.cons_append] at h
    have hnil := (hearly.unique h).1
    have hlength := congrArg List.length hnil
    simp only [between, List.length_map, List.length_drop, List.length_take, List.length_nil]
      at hlength
    omega
  intro m hjm
  induction m, hjm using Nat.le_induction with
  | base =>
      intro hmk
      have hstate := stateBefore_succ_of_reading hopen
      have hself := between_self lines (j + 1)
      rcases startDescription_cases (stateBefore c lines j).advance first.toList with
        ⟨parts, -, hcomplete⟩ | ⟨parts, closed, hstart, hincomplete⟩
      · exact absurd hcomplete (by simpa [hself] using hnot (j + 1) _ (Nat.lt_succ_self j) hmk)
      · refine ⟨(stateBefore c lines j).advance.lineNumber, parts, closed, ?_,
          by simpa [hself] using hincomplete⟩
        rw [hstate, Scan.take, hstart]
  | succ m hjm ih =>
      intro hmk
      obtain ⟨opened, parts, closed, hmode, hincomplete⟩ := ih (Nat.le_of_succ_le hmk)
      obtain ⟨line, hline⟩ : ∃ line, lines[m]? = some line :=
        ⟨_, List.getElem?_eq_getElem (Nat.lt_trans hmk hk)⟩
      have hstate := stateBefore_succ_of_description hline hmode
      have hbetween := between_succ (j := j + 1) hjm hline
      rcases continueDescription_cases (s := (stateBefore c lines m).advance)
        (Scan.withoutLineEnd line) hmode hincomplete with
        ⟨parts', -, hcomplete⟩ | ⟨parts', closed', hnext, hincomplete'⟩
      · rw [List.cons_append, ← hbetween] at hcomplete
        exact absurd hcomplete (hnot (m + 1) _ (by omega) hmk)
      · rw [List.cons_append, ← hbetween] at hincomplete'
        exact ⟨opened, parts', closed', by rw [hstate, hnext], hincomplete'⟩

/-- The scan stands inside of a description only after a line that opened it. -/
theorem opened_before {opened : Nat} {parts : List String} {closed : Bool} (hk : k ≤ lines.length)
    (hmode : (stateBefore c lines k).mode = .description opened parts closed) :
    ∃ j first, j < k ∧ readingAt c lines j = some (.opensDescription first) ∧
      Incomplete (first.toList :: between lines (j + 1) k) parts closed := by
  induction k generalizing opened parts closed with
  | zero => simp [stateBefore, Scan.run] at hmode
  | succ k ih =>
      obtain ⟨line, hline⟩ : ∃ line, lines[k]? = some line := ⟨_, List.getElem?_eq_getElem hk⟩
      cases hbefore : (stateBefore c lines k).mode with
      | normal =>
          have hreading := readingAt_eq_some_iff.mpr ⟨line, hline, hbefore, rfl⟩
          rw [stateBefore_succ_of_reading hreading] at hmode
          generalize Line.ofList c (Scan.withoutLineEnd line) = l at hreading hmode
          cases l with
          | opensDescription first =>
              refine ⟨k, first, Nat.lt_succ_self k, hreading, ?_⟩
              rw [between_self]
              rcases startDescription_cases (stateBefore c lines k).advance first.toList with
                ⟨parts', hstart, -⟩ | ⟨parts', closed', hstart, hincomplete⟩
              · rw [Scan.take, hstart] at hmode
                cases hmode
              · rw [Scan.take, hstart] at hmode
                cases hmode
                exact hincomplete
          | opensComment => cases hmode
          | _ => simp [Scan.take, Scan.advance, hbefore] at hmode
      | comment o =>
          rw [stateBefore_succ hline] at hmode
          simp only [Scan.step, hbefore] at hmode
          split at hmode <;> simp at hmode
      | description o parts' closed' =>
          obtain ⟨j, first, hjk, hopen, hincomplete⟩ := ih (Nat.le_of_succ_le hk) hbefore
          refine ⟨j, first, Nat.lt_succ_of_lt hjk, hopen, ?_⟩
          rw [between_succ hjk hline]
          rw [stateBefore_succ_of_description hline hbefore] at hmode
          rcases continueDescription_cases (s := (stateBefore c lines k).advance)
            (Scan.withoutLineEnd line) hbefore hincomplete with
            ⟨parts'', hnext, -⟩ | ⟨parts'', closed'', hnext, hincomplete'⟩
          · rw [hnext] at hmode
            cases hmode
          · rw [hnext] at hmode
            cases hmode
            exact hincomplete'

/-! ## What a line does to the pending description -/

/-- A completed decorator leaves its text pending. -/
theorem Decorator.pending_eq (h : Decorator c lines k text) :
    (stateBefore c lines (k + 1)).mode = .normal ∧
      (stateBefore c lines (k + 1)).pending = text := by
  cases h with
  | inline hreading =>
      rw [stateBefore_succ_of_reading hreading]
      obtain ⟨-, -, hmode, -⟩ := readingAt_eq_some_iff.mp hreading
      exact ⟨hmode, rfl⟩
  | @block j _ first _ hjk hk hopen hcomplete =>
      have hfinish (s : Scan) (parts : List String) :
          (s.finishDescription parts).mode = .normal ∧
            (s.finishDescription parts).pending = join "\n" parts := ⟨rfl, rfl⟩
      rcases Nat.eq_or_lt_of_le hjk with rfl | hjk
      · rw [between_self] at hcomplete
        rw [stateBefore_succ_of_reading hopen, Scan.take]
        rcases startDescription_cases (stateBefore c lines j).advance first.toList with
          ⟨parts, hstart, hcomplete'⟩ | ⟨parts, closed, -, hincomplete⟩
        · rw [hstart, hcomplete.text_eq hcomplete']
          exact hfinish _ parts
        · exact absurd hcomplete hincomplete.not_complete
      · obtain ⟨line, hline⟩ : ∃ line, lines[k]? = some line := ⟨_, List.getElem?_eq_getElem hk⟩
        obtain ⟨opened, parts, closed, hmode, hincomplete⟩ :=
          open_until_complete hk hopen hcomplete k hjk (Nat.le_refl k)
        rw [between_succ hjk hline, ← List.cons_append] at hcomplete
        rw [stateBefore_succ_of_description hline hmode]
        rcases continueDescription_cases (s := (stateBefore c lines k).advance)
          (Scan.withoutLineEnd line) hmode hincomplete with
          ⟨parts', hnext, hcomplete'⟩ | ⟨parts', closed', -, hincomplete'⟩
        · rw [hnext, hcomplete.text_eq hcomplete']
          exact hfinish _ parts'
        · exact absurd hcomplete hincomplete'.not_complete

/-- A line that neither completes a decorator nor is a reading keeps the pending description. -/
theorem pending_keep (hk : k < lines.length) (hdecorator : ∀ t, ¬ Decorator c lines k t)
    (hdeclares : ¬ Declares c lines k) :
    (stateBefore c lines (k + 1)).pending = (stateBefore c lines k).pending := by
  obtain ⟨line, hline⟩ : ∃ line, lines[k]? = some line := ⟨_, List.getElem?_eq_getElem hk⟩
  cases hmode : (stateBefore c lines k).mode with
  | normal =>
      have hreading := readingAt_eq_some_iff.mpr ⟨line, hline, hmode, rfl⟩
      rw [stateBefore_succ_of_reading hreading]
      generalize Line.ofList c (Scan.withoutLineEnd line) = l at hreading
      cases l with
      | silent => rfl
      | opensComment => rfl
      | description t => exact absurd (.inline hreading) (hdecorator t)
      | opensDescription first =>
          rw [Scan.take]
          rcases startDescription_cases (stateBefore c lines k).advance first.toList with
            ⟨parts, -, hcomplete⟩ | ⟨parts, closed, hstart, -⟩
          · rw [← between_self lines (k + 1)] at hcomplete
            exact absurd (.block (Nat.le_refl k) hk hreading hcomplete) (hdecorator _)
          · rw [hstart]
            rfl
      | _ => exact absurd ⟨_, hreading, rfl⟩ hdeclares
  | comment opened =>
      rw [stateBefore_succ hline]
      simp only [Scan.step, hmode]
      split <;> rfl
  | description opened parts closed =>
      rw [stateBefore_succ_of_description hline hmode]
      obtain ⟨j, first, hjk, hopen, hincomplete⟩ := opened_before (Nat.le_of_lt hk) hmode
      rcases continueDescription_cases (s := (stateBefore c lines k).advance)
        (Scan.withoutLineEnd line) hmode hincomplete with
        ⟨parts', -, hcomplete⟩ | ⟨parts', closed', hnext, -⟩
      · rw [List.cons_append, ← between_succ hjk hline] at hcomplete
        exact absurd (.block (Nat.le_of_lt hjk) hk hopen hcomplete) (hdecorator _)
      · rw [hnext]
        rfl

theorem pending_of_declares (h : Declares c lines k) :
    (stateBefore c lines (k + 1)).pending = "" := by
  obtain ⟨l, hreading, hl⟩ := h
  rw [stateBefore_succ_of_reading hreading]
  cases l <;> first | rfl | cases hl

/-! ## Attribution -/

theorem attached_succ (h : Decorator c lines k text) : Attached c lines k (k + 1) text where
  decorator := h
  before := Nat.lt_succ_self k
  last j _ _ hj := Nat.le_of_lt_succ hj
  undeclared m hm hm' := absurd hm (by omega)

/-- A line that completes no decorator lets those before it pass unless it declares something. -/
theorem attached_succ_iff (hdecorator : ∀ t, ¬ Decorator c lines k t) :
    Attached c lines i (k + 1) text ↔ Attached c lines i k text ∧ ¬ Declares c lines k := by
  constructor
  · rintro ⟨h, hbefore, hlast, hundeclared⟩
    have hik : i < k := by
      rcases Nat.eq_or_lt_of_le (Nat.le_of_lt_succ hbefore) with rfl | hik
      · exact absurd h (hdecorator text)
      · exact hik
    refine ⟨⟨h, hik, fun j t hj hjk => hlast j t hj (by omega), ?_⟩, ?_⟩
    · exact fun m him hmk => hundeclared m him (by omega)
    · exact hundeclared k hik (Nat.lt_succ_self k)
  · rintro ⟨⟨h, hbefore, hlast, hundeclared⟩, hk⟩
    refine ⟨h, by omega, ?_, ?_⟩
    · intro j t hj hjk
      rcases Nat.eq_or_lt_of_le (Nat.le_of_lt_succ hjk) with rfl | hjk
      · exact absurd hj (hdecorator t)
      · exact hlast j t hj hjk
    · intro m him hmk
      rcases Nat.eq_or_lt_of_le (Nat.le_of_lt_succ hmk) with rfl | hmk
      · exact hk
      · exact hundeclared m him hmk

/-- Before each line, what is pending is the text of the decorator attached to the line. -/
theorem pending_describedAs (hk : k ≤ lines.length) :
    DescribedAs c lines k (stateBefore c lines k).pending := by
  induction k with
  | zero => exact .inr ⟨rfl, fun i t h => absurd h.before (Nat.not_lt_zero i)⟩
  | succ k ih =>
      by_cases hdecorator : ∃ t, Decorator c lines k t
      · obtain ⟨t, ht⟩ := hdecorator
        rw [ht.pending_eq.2]
        exact .inl ⟨k, attached_succ ht⟩
      · have hnone : ∀ t, ¬ Decorator c lines k t := fun t ht => hdecorator ⟨t, ht⟩
        by_cases hdeclares : Declares c lines k
        · refine .inr ⟨pending_of_declares hdeclares, fun i t h => ?_⟩
          exact ((attached_succ_iff hnone).mp h).2 hdeclares
        · rw [pending_keep hk hnone hdeclares]
          rcases ih (Nat.le_of_succ_le hk) with ⟨i, hi⟩ | ⟨hempty, hall⟩
          · exact .inl ⟨i, (attached_succ_iff hnone).mpr ⟨hi, hdeclares⟩⟩
          · refine .inr ⟨hempty, fun i t h => hall i t ?_⟩
            exact ((attached_succ_iff hnone).mp h).1

/-! ## What is found -/

/-- The module that a line declares, with its description. -/
def Line.moduleWith? (description : String) : Line → Option Module
  | .module name source => some { name, source, description }
  | _ => none

/-- The resource that a line declares, with its description. -/
def Line.resourceWith? (description : String) : Line → Option Resource
  | .resource name type => some { name, type, description }
  | _ => none

/-- The variable that a line declares, with its description. -/
def Line.variableWith? (description : String) : Line → Option Variable
  | .variable name value =>
    some { name, value := (value.map Value.text).getD .null, description }
  | _ => none

/-- What the readings of the first `k` lines declare, each with the description of its line. -/
def declaredBefore {α : Type} (collectVariables : Bool) (lines : List String)
    (declared? : String → Line → Option α) (description : Nat → String) (k : Nat) : List α :=
  (List.range k).filterMap fun i =>
    (readingAt collectVariables lines i).bind (declared? (description i))

theorem declaredBefore_succ {α : Type} (declared? : String → Line → Option α)
    (description : Nat → String) :
    declaredBefore c lines declared? description (k + 1) =
      declaredBefore c lines declared? description k ++
        ((readingAt c lines k).bind (declared? (description k))).toList := by
  rw [declaredBefore, List.range_succ, List.filterMap_append, List.filterMap_cons, List.filterMap_nil]
  cases (readingAt c lines k).bind (declared? (description k)) <;> rfl

/-- A line adds to what was found what it declares, with the pending description. -/
theorem take_found (s : Scan) (l : Line) :
    (s.take l).found =
      { modules := s.found.modules ++ (l.moduleWith? s.pending).toList
        resources := s.found.resources ++ (l.resourceWith? s.pending).toList
        vars := s.found.vars ++ (l.variableWith? s.pending).toList } := by
  cases l with
  | opensDescription first =>
      simp only [Line.moduleWith?, Line.resourceWith?, Line.variableWith?, Option.toList_none, List.append_nil]
      rw [Scan.take]
      rcases startDescription_cases s first.toList with ⟨parts, h, -⟩ | ⟨parts, closed, h, -⟩
      · rw [h, Scan.finishDescription]
      · rw [h]
  | _ => simp [Scan.take, Line.moduleWith?, Line.resourceWith?, Line.variableWith?]

theorem continueDescription_found (s : Scan) (opened : Nat) (parts : List String) (closed : Bool)
    (cs : List Char) : (s.continueDescription opened parts closed cs).found = s.found := by
  unfold Scan.continueDescription Scan.finishDescription
  split
  · split <;> rfl
  · split
    · dsimp only
      split <;> rfl
    · rfl

theorem found_of_no_reading (h : readingAt c lines k = none) (hk : k < lines.length) :
    (stateBefore c lines (k + 1)).found = (stateBefore c lines k).found := by
  obtain ⟨line, hline⟩ : ∃ line, lines[k]? = some line := ⟨_, List.getElem?_eq_getElem hk⟩
  cases hmode : (stateBefore c lines k).mode with
  | normal =>
      have hreading := readingAt_eq_some_iff.mpr ⟨line, hline, hmode, rfl⟩
      rw [h] at hreading
      cases hreading
  | comment opened =>
      rw [stateBefore_succ hline]
      simp only [Scan.step, hmode]
      split <;> rfl
  | description opened parts closed =>
      rw [stateBefore_succ_of_description hline hmode, continueDescription_found]
      rfl

/-- Before each line, what is found is what the lines before it declare. -/
theorem found_eq (hk : k ≤ lines.length) :
    (stateBefore c lines k).found =
      { modules := declaredBefore c lines Line.moduleWith? (fun i => (stateBefore c lines i).pending) k
        resources :=
          declaredBefore c lines Line.resourceWith? (fun i => (stateBefore c lines i).pending) k
        vars := declaredBefore c lines Line.variableWith? (fun i => (stateBefore c lines i).pending) k } := by
  induction k with
  | zero => rfl
  | succ k ih =>
      have hbefore := ih (Nat.le_of_succ_le hk)
      simp only [declaredBefore_succ]
      cases hreading : readingAt c lines k with
      | none =>
          rw [found_of_no_reading hreading hk, hbefore]
          simp
      | some l =>
          rw [stateBefore_succ_of_reading hreading, take_found]
          simp only [Scan.advance, hbefore, Option.bind_some]

theorem DescribedAs.unique {text' : String} (h : DescribedAs c lines k text)
    (h' : DescribedAs c lines k text') : text = text' := by
  rcases h with ⟨i, hi⟩ | ⟨rfl, hnone⟩
  · rcases h' with ⟨i', hi'⟩ | ⟨-, hnone⟩
    · have hle := hi.last i' text' hi'.decorator hi'.before
      have hge := hi'.last i text hi.decorator hi.before
      obtain rfl : i = i' := by omega
      rw [← hi.decorator.pending_eq.2, hi'.decorator.pending_eq.2]
    · exact absurd hi (hnone i text)
  · rcases h' with ⟨i', hi'⟩ | ⟨rfl, -⟩
    · exact absurd hi' (hnone i' text')
    · rfl

/-- What a scan found is what the lines declare, with one description for each line, and a decorator
is attached to one declaration at most. -/
structure Attributed (collectVariables : Bool) (lines : List String) (found : Findings)
    (description : Nat → String) : Prop where
  describes : ∀ k ≤ lines.length, ∀ text,
    DescribedAs collectVariables lines k text ↔ text = description k
  modules : found.modules = sortByName Module.name
    (declaredBefore collectVariables lines Line.moduleWith? description lines.length)
  resources : found.resources = sortByName Resource.name
    (declaredBefore collectVariables lines Line.resourceWith? description lines.length)
  vars : found.vars = declaredBefore collectVariables lines Line.variableWith? description lines.length
  once : ∀ i k k' t t', Attached collectVariables lines i k t →
    Attached collectVariables lines i k' t' → Declares collectVariables lines k →
    Declares collectVariables lines k' → k = k'

theorem Attached.declared_once {k' : Nat} {t t' : String} (h : Attached c lines i k t)
    (h' : Attached c lines i k' t') (hk : Declares c lines k) (hk' : Declares c lines k') :
    k = k' := by
  rcases Nat.lt_trichotomy k k' with hlt | heq | hgt
  · exact absurd hk (h'.undeclared k h.before hlt)
  · exact heq
  · exact absurd hk' (h.undeclared k' h'.before hgt)

/-- In every scan that succeeds, each module, resource and variable has the text of the last decorator
completed before its line, unless a declaration stands between the two, and else no description. -/
theorem scanLines_attributed {found : Findings} (h : scanLines c lines = .ok found) :
    ∃ description, Attributed c lines found description := by
  have hfound : found = (stateBefore c lines lines.length).found.sorted := by
    rw [stateBefore, List.take_length]
    unfold scanLines Scan.finish at h
    split at h
    · cases h
      rfl
    · cases h
    · cases h
  rw [found_eq (Nat.le_refl _)] at hfound
  refine ⟨fun k => (stateBefore c lines k).pending, ?_, ?_, ?_, ?_, ?_⟩
  · intro k hk text
    have hpending := pending_describedAs (c := c) hk
    exact ⟨fun htext => htext.unique hpending, fun htext => htext ▸ hpending⟩
  · rw [hfound]
    rfl
  · rw [hfound]
    rfl
  · rw [hfound]
    rfl
  · exact fun i k k' t t' hi hi' => hi.declared_once hi'

/-- A description of two lines, a variable that takes it and a module that is left without one. -/
theorem scanLines_attributed_block :
    ∃ description, Attributed true
      ["@description('''Size", "of all''')", "var size = 3", "module m './m.bicep' = \x7b\x7d"]
      { modules := [{ name := "m", source := "./m.bicep" }]
        vars := [{ name := "size", value := .text "3", description := "Size\nof all" }] }
      description :=
  scanLines_attributed (by cbv)

end TemplateDocs.Source
