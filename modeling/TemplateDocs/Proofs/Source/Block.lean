import Mathlib.Data.List.Basic
import TemplateDocs.Source.Scan

/-! # Descriptions of several lines

A description of several lines is given here by its lines alone: the quotes close on the first line
that has them, and the description is complete on the first line from there on that ends in a
parenthesis. The scan is then shown to keep step with that.
-/

namespace TemplateDocs.Source

open Text

/-! ## The lines of a description -/

/-- What the lines before the closing quotes add to a description. The line that opens it counts only
if it says something. -/
def bodyParts : List (List Char) → List String
  | [] => []
  | first :: middle => Scan.partOf first ++ middle.map fun cs => String.ofList (trim cs)

/-- The quotes close on the first of the lines `rest`, and then the description has these parts. -/
def QuotesClose (lines rest : List (List Char)) (parts : List String) : Prop :=
  ∃ body closing tail before after, lines = body ++ closing :: tail ∧ rest = closing :: tail ∧
    (∀ cs ∈ body, contains tripleQuote cs = false) ∧
    cutAt? tripleQuote closing = some (before, after) ∧
    parts = bodyParts body ++ Scan.partOf before

/-- A description that the last of its lines completes. -/
def Complete (lines : List (List Char)) (text : String) : Prop :=
  ∃ waiting last parts, QuotesClose lines (waiting ++ [last]) parts ∧
    (∀ cs ∈ waiting, Scan.endsInParenthesis cs = false) ∧ Scan.endsInParenthesis last = true ∧
    text = join "\n" parts

/-- A description that is not complete yet, with its parts so far. -/
def Incomplete (lines : List (List Char)) (parts : List String) : (quotesClosed : Bool) → Prop
  | false => lines ≠ [] ∧ (∀ cs ∈ lines, contains tripleQuote cs = false) ∧ parts = bodyParts lines
  | true => ∃ rest, QuotesClose lines rest parts ∧ ∀ cs ∈ rest, Scan.endsInParenthesis cs = false

/-! ## One place only -/

/-- The first item with a property stands in one place only. -/
theorem split_unique {α : Type} {p : α → Bool} {a a' : List α} {x x' : α} {b b' : List α}
    (ha : ∀ y ∈ a, p y = false) (hx : p x = true) (ha' : ∀ y ∈ a', p y = false) (hx' : p x' = true)
    (h : a ++ x :: b = a' ++ x' :: b') : a = a' ∧ x = x' ∧ b = b' := by
  induction a generalizing a' with
  | nil =>
      cases a' with
      | nil => simpa using h
      | cons y a' =>
          simp only [List.nil_append, List.cons_append, List.cons.injEq] at h
          have hy := ha' y List.mem_cons_self
          rw [← h.1, hx] at hy
          cases hy
  | cons y a ih =>
      cases a' with
      | nil =>
          simp only [List.nil_append, List.cons_append, List.cons.injEq] at h
          have hy := ha y List.mem_cons_self
          rw [h.1, hx'] at hy
          cases hy
      | cons y' a' =>
          simp only [List.cons_append, List.cons.injEq] at h
          obtain ⟨hyy, h⟩ := h
          have hrest := ih (fun z hz => ha z (List.mem_cons_of_mem y hz))
            (fun z hz => ha' z (List.mem_cons_of_mem y' hz)) h
          exact ⟨by rw [hyy, hrest.1], hrest.2⟩

theorem contains_of_cutAt? {mark cs before after : List Char}
    (h : cutAt? mark cs = some (before, after)) : contains mark cs = true := by
  simp [contains, h]

theorem QuotesClose.unique {lines more rest rest' : List (List Char)} {parts parts' : List String}
    (h : QuotesClose lines rest parts) (h' : QuotesClose (lines ++ more) rest' parts') :
    rest' = rest ++ more ∧ parts' = parts := by
  obtain ⟨body, closing, tail, before, after, rfl, rfl, hbody, hcut, rfl⟩ := h
  obtain ⟨body', closing', tail', before', after', hlines, rfl, hbody', hcut', rfl⟩ := h'
  rw [List.append_assoc, List.cons_append] at hlines
  obtain ⟨rfl, rfl, rfl⟩ := split_unique hbody (contains_of_cutAt? hcut) hbody'
    (contains_of_cutAt? hcut') hlines
  rw [hcut] at hcut'
  cases hcut'
  exact ⟨rfl, rfl⟩

/-- Lines that go on after a complete description are not the lines of one. -/
theorem Complete.unique {lines more : List (List Char)} {text text' : String}
    (h : Complete lines text) (h' : Complete (lines ++ more) text') : more = [] ∧ text = text' := by
  obtain ⟨init, last, parts, hq, hinit, hlast, rfl⟩ := h
  obtain ⟨init', last', parts', hq', hinit', hlast', rfl⟩ := h'
  obtain ⟨hrest, rfl⟩ := hq.unique hq'
  rw [List.append_assoc, List.singleton_append] at hrest
  obtain ⟨-, -, hmore⟩ := split_unique hinit' hlast' hinit hlast hrest
  exact ⟨hmore.symm, rfl⟩

theorem Complete.text_eq {lines : List (List Char)} {text text' : String} (h : Complete lines text)
    (h' : Complete lines text') : text = text' := by
  rw [← List.append_nil lines] at h'
  exact (h.unique h').2

theorem Incomplete.not_complete {lines : List (List Char)} {parts : List String}
    {quotesClosed : Bool} {text : String} (h : Incomplete lines parts quotesClosed) :
    ¬ Complete lines text := by
  rintro ⟨init, last, parts', hq', -, hlast, -⟩
  cases quotesClosed with
  | false =>
      obtain ⟨-, hnone, -⟩ := h
      obtain ⟨body, closing, tail, before, after, rfl, -, -, hcut, -⟩ := hq'
      have hclosing := hnone closing (by simp)
      rw [contains_of_cutAt? hcut] at hclosing
      cases hclosing
  | true =>
      obtain ⟨rest, hq, hrest⟩ := h
      rw [← List.append_nil lines] at hq'
      have heq := (hq.unique hq').1
      rw [List.append_nil] at heq
      have hlast' := hrest last (by simp [← heq])
      rw [hlast] at hlast'
      cases hlast'

/-! ## One more line -/

/-- The line with the closing quotes completes the description or leaves the parenthesis to come. -/
theorem closing_line {body : List (List Char)} {cs before after : List Char}
    (hbody : ∀ l ∈ body, contains tripleQuote l = false)
    (hcut : cutAt? tripleQuote cs = some (before, after)) :
    (Scan.endsInParenthesis cs = true →
        Complete (body ++ [cs]) (join "\n" (bodyParts body ++ Scan.partOf before))) ∧
      (Scan.endsInParenthesis cs = false →
        Incomplete (body ++ [cs]) (bodyParts body ++ Scan.partOf before) true) := by
  have hq : QuotesClose (body ++ [cs]) [cs] (bodyParts body ++ Scan.partOf before) :=
    ⟨body, cs, [], before, after, rfl, rfl, hbody, hcut, rfl⟩
  refine ⟨fun hend => ?_, fun hend => ?_⟩
  · exact ⟨[], cs, _, hq, by simp, hend, rfl⟩
  · exact ⟨[cs], hq, by simpa using hend⟩

/-- One more line completes an open description or leaves it open with one more line. -/
theorem continueDescription_cases {s : Scan} {opened : Nat} {parts : List String}
    {quotesClosed : Bool} {lines : List (List Char)} (cs : List Char)
    (hmode : s.mode = .description opened parts quotesClosed)
    (h : Incomplete lines parts quotesClosed) :
    (∃ parts', s.continueDescription opened parts quotesClosed cs = s.finishDescription parts' ∧
        Complete (lines ++ [cs]) (join "\n" parts')) ∨
      ∃ parts' closed', s.continueDescription opened parts quotesClosed cs =
          { s with mode := .description opened parts' closed' } ∧
        Incomplete (lines ++ [cs]) parts' closed' := by
  cases quotesClosed with
  | true =>
      obtain ⟨rest, ⟨body, closing, tail, before, after, rfl, rfl, hbody, hcut, hparts⟩, hrest⟩ := h
      have hq : QuotesClose (body ++ closing :: tail ++ [cs]) (closing :: tail ++ [cs]) parts :=
        ⟨body, closing, tail ++ [cs], before, after, by simp, rfl, hbody, hcut, hparts⟩
      cases hend : Scan.endsInParenthesis cs with
      | true =>
          refine .inl ⟨parts, by simp [Scan.continueDescription, hend], ?_⟩
          exact ⟨_, cs, parts, hq, hrest, hend, rfl⟩
      | false =>
          refine .inr ⟨parts, true, ?_, _, hq, ?_⟩
          · simp [Scan.continueDescription, hend, ← hmode]
          · intro l hl
            rcases List.mem_append.mp hl with hl | hl
            · exact hrest l hl
            · rw [List.mem_singleton.mp hl, hend]
  | false =>
      obtain ⟨hne, hnone, rfl⟩ := h
      cases hcut : cutAt? tripleQuote cs with
      | some cut =>
          obtain ⟨before, after⟩ := cut
          have hclosing := closing_line hnone hcut
          cases hend : Scan.endsInParenthesis cs with
          | true =>
              refine .inl ⟨_, ?_, hclosing.1 hend⟩
              simp [Scan.continueDescription, hcut, hend]
          | false =>
              refine .inr ⟨_, true, ?_, hclosing.2 hend⟩
              simp [Scan.continueDescription, hcut, hend]
      | none =>
          refine .inr ⟨_, false, by simp only [Scan.continueDescription, hcut]; rfl, ?_⟩
          refine ⟨by simp, ?_, ?_⟩
          · intro l hl
            rcases List.mem_append.mp hl with hl | hl
            · exact hnone l hl
            · rw [List.mem_singleton.mp hl]
              simp [contains, hcut]
          · obtain ⟨first, middle, rfl⟩ := List.exists_cons_of_ne_nil hne
            simp [bodyParts]

/-- The line that opens a description may complete it. -/
theorem startDescription_cases (s : Scan) (cs : List Char) :
    (∃ parts, s.startDescription cs = s.finishDescription parts ∧
        Complete [cs] (join "\n" parts)) ∨
      ∃ parts closed, s.startDescription cs =
          { s with mode := .description s.lineNumber parts closed } ∧
        Incomplete [cs] parts closed := by
  cases hcut : cutAt? tripleQuote cs with
  | none =>
      have hnot : contains tripleQuote cs = false := by simp [contains, hcut]
      refine .inr ⟨Scan.partOf cs, false, by simp [Scan.startDescription, hnot], ?_⟩
      exact ⟨by simp, by simpa using hnot, by simp [bodyParts]⟩
  | some cut =>
      obtain ⟨before, after⟩ := cut
      have hnone : ∀ l ∈ ([] : List (List Char)), contains tripleQuote l = false := by simp
      have hclosing := closing_line hnone hcut
      have hcontains := contains_of_cutAt? hcut
      cases hend : Scan.endsInParenthesis cs with
      | true =>
          refine .inl ⟨Scan.partOf before, ?_, hclosing.1 hend⟩
          simp [Scan.startDescription, Scan.continueDescription, Scan.finishDescription, hcontains,
            hcut, hend]
      | false =>
          refine .inr ⟨Scan.partOf before, true, ?_, hclosing.2 hend⟩
          simp [Scan.startDescription, Scan.continueDescription, hcontains, hcut, hend]

end TemplateDocs.Source
