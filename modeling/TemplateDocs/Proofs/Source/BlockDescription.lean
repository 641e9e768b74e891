import TemplateDocs.Proofs.Source.Block
import TemplateDocs.Proofs.Source.InlineDescription

/-! # Descriptions over several lines

A description over several lines is written as a decorator with three opening quotes, lines between, a
line with the closing quotes, and lines up to the closing parenthesis where that is missing. The scan is
inside of the description up to its last line, and then the text waits for its declaration: stripped
lines, of which the first and the last count only if they say something.
-/

namespace TemplateDocs.Source

open Text

variable {c : Bool} {pre further : List String} {first : String}

/-! ## A description as it is written -/

/-- A text without its blanks at both ends, if anything is left. -/
def stated (text : String) : List String :=
  if strip text = "" then [] else [strip text]

/-- The text of a description from its first line, the lines between and its last one. -/
def blockText (first : String) (body : List String) (last : String) : String :=
  join "\n" (stated first ++ body.map strip ++ stated last)

/-- A text without the quotes at its end. -/
def withoutEndQuotes (text : String) : String :=
  String.ofList (dropEnd (· == '\'') text.toList)

/-- The lines behind the one that closes the quotes, up to the one with the closing parenthesis. -/
inductive ClosedBy (closing : String) : List String → Prop where
  | here (h : Scan.endsInParenthesis closing.toList = true) : ClosedBy closing []
  | later {waiting : List String} {last : String}
      (h : Scan.endsInParenthesis closing.toList = false)
      (hwaiting : ∀ line ∈ waiting, Scan.endsInParenthesis line.toList = false)
      (hlast : Scan.endsInParenthesis last.toList = true) : ClosedBy closing (waiting ++ [last])

/-- A description over several lines. The first line does not end the decorator, the quotes stay open
up to the closing line, and the last line has the closing parenthesis. -/
structure BlockDescription where
  start : String
  first : String
  body : List String
  before : String
  after : String
  further : List String
  decorator : start ∈ decorators
  oneLine : '\n' ∉ Scan.withoutLineEnd first
  unended : ¬ decoratorEnd <:+: tripleQuote ++ first.toList
  first_open : ¬ tripleQuote <:+: first.toList
  body_open : ∀ line ∈ body, ¬ tripleQuote <:+: line.toList
  before_open : ¬ tripleQuote <:+: before.toList
  closed : ClosedBy (before ++ "'''" ++ after) further

namespace BlockDescription

/-- The line with the decorator and the opening quotes. -/
def opening (b : BlockDescription) : String :=
  b.start ++ "'''" ++ b.first

/-- The lines after the first one. -/
def rest (b : BlockDescription) : List String :=
  b.body ++ (b.before ++ "'''" ++ b.after) :: b.further

/-- All lines of a description. -/
def lines (b : BlockDescription) : List String :=
  b.opening :: b.rest

/-- The text of a description. Quotes right before the closing ones are no part of it. -/
def text (b : BlockDescription) : String :=
  blockText b.first b.body (withoutEndQuotes b.before)

end BlockDescription

/-! ## Line ends -/

theorem endsInParenthesis_withoutLineEnd (line : String) :
    Scan.endsInParenthesis (Scan.withoutLineEnd line) = Scan.endsInParenthesis line.toList := by
  obtain ⟨tail, hline, htail⟩ := exists_dropEnd isFileLineEnd line.toList
  have htrim : trimRight line.toList = trimRight (Scan.withoutLineEnd line) := by
    conv_lhs => rw [hline]
    exact dropEnd_append fun ch hch => isBlank_of_isFileLineEnd (htail ch hch)
  rw [Scan.endsInParenthesis, Scan.endsInParenthesis, htrim]

theorem withoutLineEnd_prefix_toList (line : String) : Scan.withoutLineEnd line <+: line.toList := by
  obtain ⟨tail, hline, -⟩ := exists_dropEnd isFileLineEnd line.toList
  exact ⟨tail, hline.symm⟩

theorem ofList_trim_withoutLineEnd (line : String) :
    String.ofList (trim (Scan.withoutLineEnd line)) = strip line := by
  rw [trim_withoutLineEnd, strip]

theorem partOf_eq_stated {cs : List Char} {text : String} (h : String.ofList (trim cs) = strip text) :
    Scan.partOf cs = stated text := by
  have hempty : (trim cs).isEmpty = true ↔ strip text = "" := by
    rw [← h, List.isEmpty_iff, ← String.toList_inj, String.toList_ofList]
    rfl
  simp only [Scan.partOf, stated, hempty, h]

/-! ## The closing quotes -/

theorem quotes_append_tripleQuote {tail : List Char} (h : ∀ ch ∈ tail, (ch == '\'') = true) :
    tail ++ tripleQuote = tripleQuote ++ tail := by
  have htail := List.eq_replicate_of_mem fun ch hch => beq_iff_eq.mp (h ch hch)
  have htriple : tripleQuote = List.replicate 3 '\'' := rfl
  rw [htail, htriple, List.replicate_append_replicate, List.replicate_append_replicate, Nat.add_comm]

/-- The quotes close at the first place that has three of them, so quotes right before the closing ones
do not count for the text. -/
theorem cutAt?_closing {before : List Char} (h : ¬ tripleQuote <:+: before) (after : List Char) :
    ∃ rest, cutAt? tripleQuote (before ++ (tripleQuote ++ after)) =
      some (dropEnd (· == '\'') before, rest) := by
  obtain ⟨tail, hbefore, htail⟩ := exists_dropEnd (· == '\'') before
  refine ⟨tail ++ after, cutAt?_eq_some_iff.mpr ⟨?_, fun q hq hne hstarts => ?_⟩⟩
  · conv_lhs => rw [hbefore]
    rw [List.append_assoc, ← List.append_assoc tail, quotes_append_tripleQuote htail, List.append_assoc]
  · -- The mark would take in the last character before the quotes, or stand before it.
    have hlast : ∀ ch, q.getLast? = some ch → (ch == '\'') = false := by
      obtain ⟨front, hfront⟩ := hq
      intro ch hch
      have hlast : (dropEnd (· == '\'') before).getLast? = some ch := by
        rw [← hfront, List.getLast?_append_of_ne_nil _ hne, hch]
      exact getLast?_dropEnd (p := (· == '\'')) hlast
    match q with
    | [] => exact hne rfl
    | [a] =>
        simp only [tripleQuote, List.cons_append, List.cons_prefix_cons] at hstarts
        exact absurd (hlast a rfl) (by simp [← hstarts.1])
    | [a, b] =>
        simp only [tripleQuote, List.cons_append, List.cons_prefix_cons] at hstarts
        exact absurd (hlast b rfl) (by simp [← hstarts.2.1])
    | a :: b :: d :: q =>
        have hstart : tripleQuote <+: a :: b :: d :: q := by
          simp only [tripleQuote, List.cons_append, List.cons_prefix_cons] at hstarts ⊢
          exact ⟨hstarts.1, hstarts.2.1, hstarts.2.2.1, List.nil_prefix⟩
        have hfront : dropEnd (· == '\'') before <+: before := ⟨tail, hbefore.symm⟩
        exact h (hstart.isInfix.trans (hq.isInfix.trans hfront.isInfix))

/-! ## The lines of a description -/

theorem withoutLineEnd_tripleQuote (front back : String) :
    Scan.withoutLineEnd (front ++ "'''" ++ back) =
      front.toList ++ (tripleQuote ++ Scan.withoutLineEnd back) := by
  have hline : (front ++ "'''" ++ back).toList =
      (front.toList ++ ['\'', '\'']) ++ '\'' :: back.toList := by
    simp [String.toList_append]
  rw [Scan.withoutLineEnd, hline, dropEnd_append_cons (by decide)]
  simp [tripleQuote, Scan.withoutLineEnd]

theorem inlineBody?_eq_none {cs : List Char} (h : ¬ decoratorEnd <:+: cs) : inlineBody? cs = none := by
  induction cs with
  | nil => rfl
  | cons ch cs ih =>
      rw [List.infix_cons_iff, not_or] at h
      have hopen : closesDecorator (ch :: cs) = false := by
        rw [← Bool.not_eq_true, closesDecorator_iff, not_or]
        refine ⟨?_, h.1⟩
        rintro ⟨rest, heq⟩
        obtain ⟨rfl, rfl⟩ := List.cons.inj heq
        exact h.2 ⟨['\''], rest, rfl⟩
      rw [inlineBody?, hopen, ih h.2]
      simp

theorem BlockDescription.ofList_opening (b : BlockDescription) :
    Line.ofList c (Scan.withoutLineEnd b.opening) =
      .opensDescription (String.ofList (Scan.withoutLineEnd b.first)) := by
  have hfront : tripleQuote ++ Scan.withoutLineEnd b.first <+: tripleQuote ++ b.first.toList :=
    (List.prefix_append_right_inj _).mpr (withoutLineEnd_prefix_toList b.first)
  have hrest : ¬ decoratorEnd <:+: tripleQuote ++ Scan.withoutLineEnd b.first := fun hend =>
    b.unended (hend.trans hfront.isInfix)
  have hthree : dropStart? tripleQuote (tripleQuote ++ Scan.withoutLineEnd b.first) =
      some (Scan.withoutLineEnd b.first) := dropStart?_eq_some_iff.mpr rfl
  have hinline :
      inlineDescription? (b.start.toList ++ (tripleQuote ++ Scan.withoutLineEnd b.first)) = none := by
    have hone : dropStart? ['\''] (tripleQuote ++ Scan.withoutLineEnd b.first) =
        some ('\'' :: '\'' :: Scan.withoutLineEnd b.first) := rfl
    have hinside (cs : List Char) (hcs : cs <:+ tripleQuote ++ Scan.withoutLineEnd b.first) :
        inlineBody? cs = none := inlineBody?_eq_none fun hend => hrest (hend.trans hcs.isInfix)
    have hafterThree := hinside (Scan.withoutLineEnd b.first) (List.suffix_append _ _)
    have hafterOne := hinside ('\'' :: '\'' :: Scan.withoutLineEnd b.first) ⟨['\''], rfl⟩
    rw [inlineDescription?, decorated?_append b.decorator, Option.bind_some, hthree, hone,
      Option.bind_some, Option.bind_some, hafterThree, hafterOne]
    rfl
  have hopen : openDescription? (b.start.toList ++ (tripleQuote ++ Scan.withoutLineEnd b.first)) =
      some (Scan.withoutLineEnd b.first) := by
    have hall : (Scan.withoutLineEnd b.first).takeWhile (· != '\n') = Scan.withoutLineEnd b.first :=
      List.takeWhile_eq_self_iff.mpr fun ch hch => bne_iff_ne.mpr fun heq => b.oneLine (heq ▸ hch)
    rw [openDescription?, decorated?_append b.decorator, Option.bind_some, hthree, Option.map_some, hall]
  rw [opening, withoutLineEnd_tripleQuote, ofList_decorator b.decorator, Line.ofCode, hinline, hopen]

theorem contains_eq_false_of_prefix {cs ds : List Char} (h : ¬ tripleQuote <:+: ds) (hcs : cs <+: ds) :
    contains tripleQuote cs = false := by
  rw [← Bool.not_eq_true, contains_eq_true_iff]
  exact fun hmark => h (hmark.trans hcs.isInfix)

theorem ClosedBy.exists_last {closing : String} (h : ClosedBy closing further) :
    ∃ waiting last, (closing :: further).map Scan.withoutLineEnd = waiting ++ [last] ∧
      (∀ cs ∈ waiting, Scan.endsInParenthesis cs = false) ∧ Scan.endsInParenthesis last = true := by
  cases h with
  | here h => exact ⟨[], _, rfl, by simp, by rwa [endsInParenthesis_withoutLineEnd]⟩
  | @later waiting last h hwaiting hlast =>
      refine ⟨(closing :: waiting).map Scan.withoutLineEnd, Scan.withoutLineEnd last, by simp, ?_,
        by rwa [endsInParenthesis_withoutLineEnd]⟩
      intro cs hcs
      obtain ⟨line, hline, rfl⟩ := List.mem_map.mp hcs
      rw [endsInParenthesis_withoutLineEnd]
      rcases List.mem_cons.mp hline with rfl | hline
      · exact h
      · exact hwaiting line hline

/-- The lines of a description complete it, with their text. -/
theorem BlockDescription.complete (b : BlockDescription) :
    Complete (Scan.withoutLineEnd b.first :: b.rest.map Scan.withoutLineEnd) b.text := by
  obtain ⟨waiting, last, hrest, hwaiting, hlast⟩ := b.closed.exists_last
  obtain ⟨tail, hcut⟩ := cutAt?_closing b.before_open (Scan.withoutLineEnd b.after)
  rw [← withoutLineEnd_tripleQuote] at hcut
  have hopen : ∀ cs ∈ Scan.withoutLineEnd b.first :: b.body.map Scan.withoutLineEnd,
      contains tripleQuote cs = false := by
    intro cs hcs
    rcases List.mem_cons.mp hcs with rfl | hcs
    · exact contains_eq_false_of_prefix b.first_open (withoutLineEnd_prefix_toList b.first)
    · obtain ⟨line, hline, rfl⟩ := List.mem_map.mp hcs
      exact contains_eq_false_of_prefix (b.body_open line hline) (withoutLineEnd_prefix_toList line)
  have hquotes : QuotesClose (Scan.withoutLineEnd b.first :: b.rest.map Scan.withoutLineEnd)
      (waiting ++ [last]) _ :=
    ⟨_, _, b.further.map Scan.withoutLineEnd, _, tail, by simp [rest], by rw [← hrest]; rfl, hopen, hcut,
      rfl⟩
  refine ⟨waiting, last, _, hquotes, hwaiting, hlast, ?_⟩
  have hbody : (b.body.map Scan.withoutLineEnd).map (fun cs => String.ofList (trim cs)) =
      b.body.map strip := by
    rw [List.map_map]
    exact List.map_congr_left fun line _ => ofList_trim_withoutLineEnd line
  have hbefore : String.ofList (trim (dropEnd (· == '\'') b.before.toList)) =
      strip (withoutEndQuotes b.before) := by rw [strip, withoutEndQuotes, String.toList_ofList]
  rw [text, blockText, bodyParts, hbody, partOf_eq_stated (ofList_trim_withoutLineEnd b.first),
    partOf_eq_stated hbefore]

/-! ## The scan of a description -/

theorem step_of_description {s : Scan} {opened : Nat} {parts : List String} {closed : Bool}
    (hs : s.mode = .description opened parts closed) (cs : List Char) :
    s.step c cs = (s.skip 1).continueDescription opened parts closed cs := by
  obtain ⟨mode, pending, lineNumber, found⟩ := s
  cases hs
  rfl

/-- The lines that complete an open description keep the scan inside of it up to the last one. -/
theorem foldl_description {s : Scan} {opened : Nat} {parts : List String} {closed : Bool}
    {lines : List (List Char)} {rest : List String} {text : String}
    (hs : s.mode = .description opened parts closed) (h : Incomplete lines parts closed)
    (hcomplete : Complete (lines ++ rest.map Scan.withoutLineEnd) text) :
    rest.foldl (fun s line => s.step c (Scan.withoutLineEnd line)) s =
        { s.skip rest.length with mode := .normal, pending := text } ∧
      ∀ j < rest.length, ((rest.take j).foldl
        (fun s line => s.step c (Scan.withoutLineEnd line)) s).mode ≠ .normal := by
  induction rest generalizing s parts closed lines with
  | nil =>
      rw [List.map_nil, List.append_nil] at hcomplete
      exact absurd hcomplete h.not_complete
  | cons line rest ih =>
      rw [List.map_cons, List.append_cons] at hcomplete
      rcases continueDescription_cases (s := s.skip 1) (Scan.withoutLineEnd line) hs h with
        ⟨parts', hnext, hdone⟩ | ⟨parts', closed', hnext, hopen⟩
      · obtain ⟨hnil, rfl⟩ := hdone.unique hcomplete
        rw [List.map_eq_nil_iff] at hnil
        subst hnil
        refine ⟨?_, fun j hj => ?_⟩
        · rw [List.foldl_cons, step_of_description hs, hnext]
          rfl
        · obtain rfl : j = 0 := by simpa using hj
          simp [hs]
      · obtain ⟨hlast, hinside⟩ := ih (s := { s.skip 1 with mode := .description opened parts' closed' })
          rfl hopen hcomplete
        have hstep : s.step c (Scan.withoutLineEnd line) =
            { s.skip 1 with mode := .description opened parts' closed' } := by
          rw [step_of_description hs, hnext]
        refine ⟨?_, fun j hj => ?_⟩
        · rw [List.foldl_cons, hstep, hlast]
          simp [Scan.skip, Nat.add_assoc, Nat.add_comm 1]
        · cases j with
          | zero => simp [hs]
          | succ j =>
              rw [List.take_succ_cons, List.foldl_cons, hstep]
              exact hinside j (by simpa using hj)

/-- From the line that opens a description to the one that completes it. -/
theorem run_description {opening text : String} {rest : List String}
    (hpre : (Scan.run c pre).mode = .normal)
    (hopening : Line.ofList c (Scan.withoutLineEnd opening) = .opensDescription first)
    (hcomplete : Complete (first.toList :: rest.map Scan.withoutLineEnd) text) :
    Scan.run c (pre ++ opening :: rest) =
        { (Scan.run c pre).skip (rest.length + 1) with pending := text } ∧
      ∀ j, 0 < j → j ≤ rest.length →
        (Scan.run c (pre ++ (opening :: rest).take j)).mode ≠ .normal := by
  have hrun (rest : List String) : Scan.run c (pre ++ opening :: rest) =
      rest.foldl (fun s line => s.step c (Scan.withoutLineEnd line))
        (((Scan.run c pre).skip 1).startDescription first.toList) := by
    have hstep : (Scan.run c pre).step c (Scan.withoutLineEnd opening) =
        ((Scan.run c pre).skip 1).startDescription first.toList := by
      rw [step_of_normal hpre, hopening]
      rfl
    rw [← hstep, Scan.run, List.foldl_append]
    rfl
  rcases startDescription_cases ((Scan.run c pre).skip 1) first.toList with
    ⟨parts, hstart, hdone⟩ | ⟨parts, closed, hstart, hopen⟩
  · obtain ⟨hnil, rfl⟩ := hdone.unique hcomplete
    rw [List.map_eq_nil_iff] at hnil
    subst hnil
    refine ⟨?_, fun j hj hle => absurd hj (by simpa using hle)⟩
    rw [hrun, hstart]
    simp [Scan.finishDescription, Scan.skip, hpre]
  · obtain ⟨hlast, hinside⟩ := foldl_description (c := c)
      (s := { (Scan.run c pre).skip 1 with mode := .description _ parts closed }) rfl hopen hcomplete
    refine ⟨?_, fun j hj hle => ?_⟩
    · rw [hrun, hstart, hlast]
      simp [Scan.skip, hpre, Nat.add_assoc, Nat.add_comm 1]
    · obtain ⟨j, rfl⟩ := Nat.exists_eq_succ_of_ne_zero (Nat.ne_of_gt hj)
      rw [List.take_succ_cons, hrun, hstart]
      exact hinside j hle

theorem run_append_of_silent {between : List String} (hpre : (Scan.run c pre).mode = .normal)
    (h : ∀ line ∈ between, Line.ofList c (Scan.withoutLineEnd line) = .silent) :
    Scan.run c (pre ++ between) = (Scan.run c pre).skip between.length := by
  induction between using List.reverseRecOn with
  | nil => simp [Scan.skip]
  | append_singleton between line ih =>
      have hbetween := ih fun l hl => h l (List.mem_append_left _ hl)
      have hmode : (Scan.run c (pre ++ between)).mode = .normal := by
        rw [hbetween]
        exact hpre
      rw [← List.append_assoc, run_concat_of_silent hmode (h line (by simp)), hbetween, Scan.skip_skip,
        List.length_append, List.length_singleton]

/-- A description over several lines keeps the scan inside of it up to its last line and changes nothing
else; its text then waits, over lines that say nothing, for the next module. -/
theorem block_description_captured (hpre : (Scan.run c pre).mode = .normal) (b : BlockDescription) :
    (∀ j, 0 < j → j < b.lines.length → (Scan.run c (pre ++ b.lines.take j)).mode ≠ .normal) ∧
    Scan.run c (pre ++ b.lines) =
      { (Scan.run c pre).skip b.lines.length with pending := b.text } ∧
    ∀ between header name source,
      (∀ line ∈ between, Line.ofList c (Scan.withoutLineEnd line) = .silent) →
      Line.ofList c (Scan.withoutLineEnd header) = .module name source →
      (Scan.run c (pre ++ b.lines ++ between ++ [header])).found.modules =
        (Scan.run c pre).found.modules ++ [{ name, source, description := b.text }] := by
  have hcomplete : Complete ((String.ofList (Scan.withoutLineEnd b.first)).toList ::
      b.rest.map Scan.withoutLineEnd) b.text := by
    rw [String.toList_ofList]
    exact b.complete
  obtain ⟨hrun, hinside⟩ := run_description hpre b.ofList_opening hcomplete
  have hlength : b.lines.length = b.rest.length + 1 := List.length_cons
  have hlines : Scan.run c (pre ++ b.lines) =
      { (Scan.run c pre).skip b.lines.length with pending := b.text } := by
    rw [hlength]
    exact hrun
  refine ⟨fun j hj hlt => hinside j hj (by omega), hlines, ?_⟩
  intro between header name source hsilent hheader
  have hmode : (Scan.run c (pre ++ b.lines)).mode = .normal := by
    rw [hlines]
    exact hpre
  have hbetween := run_append_of_silent hmode hsilent
  have hmode' : (Scan.run c (pre ++ b.lines ++ between)).mode = .normal := by
    rw [hbetween]
    exact hmode
  rw [run_concat_of_module hmode' hheader, hbetween, hlines]
  simp only [Scan.withModule, Scan.skip]

/-- Lines that look like a comment and a module, and quotes once more before the parenthesis comes. -/
def scattered : BlockDescription where
  start := "@sys.description("
  first := " Key"
  body := ["// 'x')", "", "module a 'b'"]
  before := "end "
  after := " lost"
  further := ["''' as well", " ) "]
  decorator := by decide
  oneLine := by decide
  unended := by decide
  first_open := by decide
  body_open := by decide
  before_open := by decide
  closed := @ClosedBy.later _ ["''' as well"] " ) " (by decide) (by decide) (by decide)

theorem block_description_captured_scattered :
    (Scan.run true []).mode = .normal ∧
      (Scan.run true ([] ++ scattered.lines ++ ["@batchSize(1)"] ++ ["module m 'n'"])).found.modules =
        (Scan.run true []).found.modules ++
          [{ name := "m", source := "n", description := "Key\n// 'x')\n\nmodule a 'b'\nend" }] := by
  have hpre : (Scan.run true []).mode = .normal := rfl
  have htext : scattered.text = "Key\n// 'x')\n\nmodule a 'b'\nend" := by decide
  obtain ⟨-, -, hmodule⟩ := block_description_captured hpre scattered
  refine ⟨hpre, ?_⟩
  rw [← htext]
  exact hmodule ["@batchSize(1)"] "module m 'n'" "m" "n" (by decide) (by decide)

/-- A description whose text ends in a quote. -/
def endQuoted : BlockDescription where
  start := "@description("
  first := ""
  body := []
  before := "a'"
  after := ")"
  further := []
  decorator := by decide
  oneLine := by decide
  unended := by decide
  first_open := by decide
  body_open := by decide
  before_open := by decide
  closed := .here (by decide)

/-- A quote right before the closing ones counts for these, so it is lost. -/
theorem block_description_end_quote_lost :
    blockText endQuoted.first endQuoted.body endQuoted.before = "a'" ∧
    (Scan.run true (endQuoted.lines ++ ["module m 'n'"])).found.modules =
      [{ name := "m", source := "n", description := "a" }] := by
  decide

end TemplateDocs.Source
