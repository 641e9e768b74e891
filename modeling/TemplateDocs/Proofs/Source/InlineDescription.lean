import TemplateDocs.Proofs.Source.Header

/-! # Descriptions on one line

A description on one line stands in one or in three quotes. It is taken to end at the first quote that a
closing parenthesis follows, whichever quotes opened it and whether or not the quote is escaped. So it
is kept whole exactly if no such place stands inside of it, and is cut off there otherwise.
-/

namespace TemplateDocs.Source

open Text

variable {c : Bool} {pre : List String} {start quotes body : String}

/-! ## The decorator -/

/-- How a description decorator starts. -/
def decorators : List String := ["@description(", "@sys.description("]

/-- The end of a decorator: a quote and the closing parenthesis. -/
def decoratorEnd : List Char := ['\'', ')']

/-- A description decorator on one line. -/
def descriptionLine (start quotes body : String) : String :=
  start ++ quotes ++ body ++ quotes ++ ")"

/-- Every quote stands behind a backslash that escapes it; `escaped` tells whether one stands before
the first character. -/
def quotesEscaped (escaped : Bool) : List Char → Bool
  | [] => true
  | ch :: cs => (ch != '\'' || escaped) && quotesEscaped (!escaped && ch == '\\') cs

/-- The text may stand between these quotes. -/
inductive Quotable (body : String) : (quotes : String) → Prop where
  | single (h : quotesEscaped false body.toList = true) : Quotable body "'"
  | triple (h : ¬ tripleQuote <:+: body.toList) : Quotable body "'''"

/-- The part of a text before the first end of a decorator in it, or the whole text. -/
def beforeEnd (body : String) : String :=
  match cutAt? decoratorEnd body.toList with
  | some (before, _) => String.ofList before
  | none => body

theorem beforeEnd_eq_self_iff : beforeEnd body = body ↔ ¬ decoratorEnd <:+: body.toList := by
  rw [← contains_eq_true_iff, contains, beforeEnd]
  cases hcut : cutAt? decoratorEnd body.toList with
  | none => simp
  | some cut =>
      simp only [Option.isSome_some, not_true_eq_false, iff_false]
      intro heq
      have hbody := (cutAt?_eq_some_iff.mp hcut).1
      rw [← heq, String.toList_ofList] at hbody
      have hlength := congrArg List.length hbody
      simp [decoratorEnd] at hlength

theorem decorated?_append (hstart : start ∈ decorators) (rest : List Char) :
    decorated? (start.toList ++ rest) = some rest := by
  rcases List.mem_cons.mp hstart with rfl | hstart
  · rfl
  · rw [List.mem_singleton.mp hstart]
    rfl

/-- A decorator starts in the first column, so its line is no comment. -/
theorem ofList_decorator (hstart : start ∈ decorators) (rest : List Char) :
    Line.ofList c (start.toList ++ rest) = Line.ofCode c (start.toList ++ rest) := by
  rcases List.mem_cons.mp hstart with rfl | hstart
  · exact ofList_eq_ofCode (by decide) (by decide)
  · rw [List.mem_singleton.mp hstart]
    exact ofList_eq_ofCode (by decide) (by decide)

/-! ## Quotes in a body -/

theorem not_twoQuotes_of_quotesEscaped {escaped : Bool} {cs : List Char}
    (h : quotesEscaped escaped cs = true) : ¬ ['\'', '\''] <:+: cs := by
  induction cs generalizing escaped with
  | nil => simp
  | cons ch cs ih =>
      rw [quotesEscaped, Bool.and_eq_true] at h
      rw [List.infix_cons_iff, not_or]
      refine ⟨?_, ih h.2⟩
      rintro ⟨rest, heq⟩
      obtain ⟨rfl, rfl⟩ := List.cons.inj heq
      simp [quotesEscaped] at h

theorem not_quote_prefix_of_quotesEscaped {cs : List Char} (h : quotesEscaped false cs = true) :
    ¬ ['\''] <+: cs := by
  rintro ⟨rest, rfl⟩
  simp [quotesEscaped] at h

/-! ## Where a description ends -/

theorem closesDecorator_iff {cs : List Char} :
    closesDecorator cs = true ↔ tripleQuote ++ [')'] <+: cs ∨ decoratorEnd <+: cs := by
  rw [closesDecorator, Bool.or_eq_true, isSome_dropStart?_iff, isSome_dropStart?_iff]
  rfl

theorem not_decoratorEnd_prefix_append {q rest : List Char} (hne : q ≠ [])
    (hq : ¬ decoratorEnd <:+: q) (hrest : ['\''] <+: rest) : ¬ decoratorEnd <+: q ++ rest := by
  obtain ⟨r, rfl⟩ := hrest
  match q with
  | [] => exact absurd rfl hne
  | [a] => simp [decoratorEnd]
  | a :: b :: q =>
      intro h
      simp only [decoratorEnd, List.cons_append, List.cons_prefix_cons] at h
      obtain ⟨rfl, rfl, -⟩ := h
      exact hq ⟨[], q, rfl⟩

/-- In front of an end, characters close nothing unless they hold an end themselves, or are two quotes
that make three with the one that follows. -/
theorem not_closes_append {q rest : List Char} (hne : q ≠ []) (hq : ¬ decoratorEnd <:+: q)
    (hrest : (decoratorEnd <+: rest ∧ q ≠ ['\'', '\'']) ∨ tripleQuote ++ [')'] <+: rest) :
    closesDecorator (q ++ rest) = false := by
  have hquote : ['\''] <+: rest := by
    rcases hrest with ⟨⟨r, rfl⟩, -⟩ | ⟨r, rfl⟩
    · exact ⟨')' :: r, rfl⟩
    · exact ⟨'\'' :: '\'' :: ')' :: r, rfl⟩
  rw [← Bool.not_eq_true, closesDecorator_iff, not_or]
  refine ⟨fun h => ?_, not_decoratorEnd_prefix_append hne hq hquote⟩
  -- The four characters of the longer mark reach into `rest` after at most three.
  match q with
  | [] => exact absurd rfl hne
  | [a] =>
      rcases hrest with ⟨⟨r, rfl⟩, -⟩ | ⟨r, rfl⟩
      · simp [tripleQuote, decoratorEnd] at h
      · simp [tripleQuote] at h
  | [a, b] =>
      rcases hrest with ⟨⟨r, rfl⟩, htwo⟩ | ⟨r, rfl⟩
      · simp only [tripleQuote, List.cons_append, List.cons_prefix_cons] at h
        exact htwo (by rw [← h.1, ← h.2.1])
      · simp [tripleQuote] at h
  | [a, b, d] =>
      obtain ⟨r, rfl⟩ := hquote
      simp [tripleQuote] at h
  | a :: b :: d :: e :: q =>
      simp only [tripleQuote, List.cons_append, List.nil_append, List.cons_prefix_cons] at h
      obtain ⟨rfl, rfl, rfl, rfl, -⟩ := h
      exact hq ⟨['\'', '\''], q, rfl⟩

theorem inlineBody?_append {body rest : List Char} (hline : '\n' ∉ body)
    (hrest : closesDecorator rest = true)
    (hfirst : ∀ q, q <:+ body → q ≠ [] → closesDecorator (q ++ rest) = false) :
    inlineBody? (body ++ rest) = some body := by
  induction body with
  | nil =>
      cases rest with
      | nil => cases hrest
      | cons ch rest => rw [List.nil_append, inlineBody?, if_pos hrest]
  | cons b body ih =>
      rw [List.mem_cons, not_or] at hline
      have hopen := hfirst (b :: body) List.suffix_rfl (by simp)
      have hbreak : ¬ (b == '\n') = true := by simpa using Ne.symm hline.1
      have hbody := ih hline.2 fun q hq hne => hfirst q (hq.trans (List.suffix_cons b body)) hne
      rw [List.cons_append] at hopen ⊢
      rw [inlineBody?, hopen, if_neg hbreak, hbody]
      rfl

theorem not_decoratorEnd_infix_of_cut {body before after : List Char}
    (h : cutAt? decoratorEnd body = some (before, after)) : ¬ decoratorEnd <:+: before := by
  rintro ⟨front, back, rfl⟩
  have hfirst := (cutAt?_eq_some_iff.mp h).2
  refine hfirst (decoratorEnd ++ back) ⟨front, by simp⟩ (by simp [decoratorEnd]) ?_
  rw [List.append_assoc]
  exact List.prefix_append _ _

/-- Two quotes in front of an end would be three. -/
theorem Quotable.not_twoQuotes_suffix (h : Quotable body quotes) {before after : List Char}
    (hbody : body.toList = before ++ (decoratorEnd ++ after)) : ¬ ['\'', '\''] <:+ before := by
  intro hbefore
  cases h with
  | single h =>
      refine not_twoQuotes_of_quotesEscaped h (hbefore.isInfix.trans ?_)
      rw [hbody]
      exact (List.prefix_append _ _).isInfix
  | triple h =>
      obtain ⟨front, rfl⟩ := hbefore
      refine h ⟨front, ')' :: after, ?_⟩
      rw [hbody]
      simp [tripleQuote, decoratorEnd]

/-- A body between its quotes is read up to the first end of a decorator. -/
theorem inlineBody?_quotable (h : Quotable body quotes) (hline : '\n' ∉ body.toList) :
    inlineBody? (body.toList ++ (quotes.toList ++ [')'])) = some (beforeEnd body).toList := by
  cases hcut : cutAt? decoratorEnd body.toList with
  | none =>
      have hend : ¬ decoratorEnd <:+: body.toList := by simp [← contains_eq_true_iff, contains, hcut]
      rw [beforeEnd_eq_self_iff.mpr hend]
      refine inlineBody?_append hline ?_ fun q hq hne => ?_
      · cases h <;> rfl
      · refine not_closes_append hne (fun hinside => hend (hinside.trans hq.isInfix)) ?_
        cases h with
        | single h =>
            refine .inl ⟨List.prefix_rfl, ?_⟩
            rintro rfl
            exact not_twoQuotes_of_quotesEscaped h hq.isInfix
        | triple => exact .inr List.prefix_rfl
  | some cut =>
      obtain ⟨before, after⟩ := cut
      have hbody := (cutAt?_eq_some_iff.mp hcut).1
      have hbefore : (beforeEnd body).toList = before := by simp [beforeEnd, hcut]
      have hsplit : body.toList ++ (quotes.toList ++ [')']) =
          before ++ (decoratorEnd ++ (after ++ (quotes.toList ++ [')']))) := by
        rw [hbody]
        simp
      have hfront : before ⊆ body.toList := by
        rw [hbody]
        exact List.subset_append_left _ _
      rw [hbefore, hsplit]
      refine inlineBody?_append (fun hbreak => hline (hfront hbreak)) ?_ fun q hq hne => ?_
      · exact closesDecorator_iff.mpr (.inr (List.prefix_append _ _))
      · have hend : ¬ decoratorEnd <:+: q := fun hinside =>
          not_decoratorEnd_infix_of_cut hcut (hinside.trans hq.isInfix)
        refine not_closes_append hne hend (.inl ⟨List.prefix_append _ _, ?_⟩)
        rintro rfl
        exact h.not_twoQuotes_suffix hbody hq

theorem inlineDescription?_descriptionLine (hstart : start ∈ decorators) (h : Quotable body quotes)
    (hline : '\n' ∉ body.toList) :
    inlineDescription? (start.toList ++ (quotes.toList ++ (body.toList ++ (quotes.toList ++ [')'])))) =
      some (beforeEnd body).toList := by
  have hbody := inlineBody?_quotable h hline
  rw [inlineDescription?, decorated?_append hstart, Option.bind_some]
  cases h with
  | single h =>
      -- Only a body that starts with a quote could make the one that opens it three.
      have hthree :
          dropStart? tripleQuote ("'".toList ++ (body.toList ++ ("'".toList ++ [')']))) = none := by
        rw [dropStart?_eq_none_iff]
        cases hcs : body.toList with
        | nil => decide
        | cons ch cs =>
            have hch : '\'' ≠ ch := by
              rintro rfl
              exact not_quote_prefix_of_quotesEscaped h (hcs ▸ ⟨cs, rfl⟩)
            simp [tripleQuote, hch]
      have hone : dropStart? ['\''] ("'".toList ++ (body.toList ++ ("'".toList ++ [')']))) =
          some (body.toList ++ ("'".toList ++ [')'])) := dropStart?_eq_some_iff.mpr rfl
      rw [hthree, hone, Option.bind_none, Option.none_or, Option.bind_some, hbody]
  | triple =>
      have hthree : dropStart? tripleQuote ("'''".toList ++ (body.toList ++ ("'''".toList ++ [')']))) =
          some (body.toList ++ ("'''".toList ++ [')'])) := dropStart?_eq_some_iff.mpr rfl
      rw [hthree, Option.bind_some, hbody]
      rfl

theorem withoutLineEnd_descriptionLine (start quotes body : String) :
    Scan.withoutLineEnd (descriptionLine start quotes body) =
      start.toList ++ (quotes.toList ++ (body.toList ++ (quotes.toList ++ [')']))) := by
  have hline : (descriptionLine start quotes body).toList =
      (start.toList ++ (quotes.toList ++ (body.toList ++ quotes.toList))) ++ ')' :: [] := by
    simp [descriptionLine, String.toList_append]
  rw [Scan.withoutLineEnd, hline, dropEnd_append_cons (by decide)]
  simp [dropEnd]

theorem ofList_descriptionLine (hstart : start ∈ decorators) (h : Quotable body quotes)
    (hline : '\n' ∉ body.toList) :
    Line.ofList c (Scan.withoutLineEnd (descriptionLine start quotes body)) =
      .description (beforeEnd body) := by
  rw [withoutLineEnd_descriptionLine, ofList_decorator hstart, Line.ofCode,
    inlineDescription?_descriptionLine hstart h hline]
  exact congrArg Line.description String.ofList_toList

/-! ## What reaches the next module -/

/-- A description on one line reaches the module after it up to the first quote that a closing
parenthesis follows: whole, if there is none in it, and only then. -/
theorem inline_description_kept_iff (hpre : (Scan.run c pre).mode = .normal)
    (hstart : start ∈ decorators) (h : Quotable body quotes) (hline : '\n' ∉ body.toList)
    {header name source : String}
    (hheader : Line.ofList c (Scan.withoutLineEnd header) = .module name source) :
    ((Scan.run c (pre ++ [descriptionLine start quotes body, header])).found.modules =
        (Scan.run c pre).found.modules ++ [{ name, source, description := body }] ↔
      ¬ decoratorEnd <:+: body.toList) ∧
    (Scan.run c (pre ++ [descriptionLine start quotes body, header])).found.modules =
      (Scan.run c pre).found.modules ++
        [{ name, source, description := beforeEnd body }] := by
  have hstep : Scan.run c (pre ++ [descriptionLine start quotes body]) =
      { (Scan.run c pre).skip 1 with pending := beforeEnd body } := by
    rw [run_concat, step_of_normal hpre, ofList_descriptionLine hstart h hline]
    rfl
  have hmode : (Scan.run c (pre ++ [descriptionLine start quotes body])).mode = .normal := by
    rw [hstep]
    exact hpre
  have hmodules : (Scan.run c (pre ++ [descriptionLine start quotes body, header])).found.modules =
      (Scan.run c pre).found.modules ++
        [{ name, source, description := beforeEnd body }] := by
    rw [List.append_cons, run_concat_of_module hmode hheader, hstep]
    rfl
  refine ⟨?_, hmodules⟩
  rw [hmodules, ← beforeEnd_eq_self_iff]
  simp

/-- A body with an escaped quote, an escaped backslash and parentheses. -/
theorem inline_description_kept_iff_escaped :
    Quotable "it\\'s (\\\\)" "'" ∧
      (Scan.run true ([] ++ [descriptionLine "@sys.description(" "'" "it\\'s (\\\\)",
        "module m 'n'"])).found.modules =
        (Scan.run true []).found.modules ++
          [{ name := "m", source := "n", description := "it\\'s (\\\\)" }] := by
  have hbody : Quotable "it\\'s (\\\\)" "'" := .single (by decide)
  have hpre : (Scan.run true []).mode = .normal := rfl
  have hstart : "@sys.description(" ∈ decorators := by decide
  have hheader : Line.ofList true (Scan.withoutLineEnd "module m 'n'") = .module "m" "n" := by decide
  have hkept := inline_description_kept_iff hpre hstart hbody (by decide) hheader
  exact ⟨hbody, hkept.1.mpr (by decide)⟩

/-- Quotes before a parenthesis cut a description off, escaped or between three quotes. -/
theorem inline_description_cut_off :
    Quotable "(\\'a\\')" "'" ∧
    (Scan.run true [descriptionLine "@description(" "'" "(\\'a\\')", "module m 'n'"]).found.modules =
      [{ name := "m", source := "n", description := "(\\'a\\" }] ∧
    Quotable "f('x') y" "'''" ∧
    (Scan.run true [descriptionLine "@description(" "'''" "f('x') y", "module m 'n'"]).found.modules =
      [{ name := "m", source := "n", description := "f('x" }] :=
  ⟨.single (by decide), by decide, .triple (by decide), by decide⟩

end TemplateDocs.Source
