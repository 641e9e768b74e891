import Mathlib.Data.List.Infix
import TemplateDocs.Proofs.Page.LiteralReader

/-! # Texts inside of their quotes

A text is escaped in two passes: first the marks one by one, then every interpolation in what came out.
Runs of backslashes keep their parity in both, so that inside of the quotes no quote and no interpolation
is open, and reading the escapes from left to right gives the text back.
-/

namespace TemplateDocs.Literal

/-! ## The two passes -/

/-- A character with its escape, if it has one. -/
def escapeMark : Char → List Char
  | '\\' => ['\\', '\\']
  | '\'' => ['\\', '\'']
  | '\n' => ['\\', 'n']
  | '\r' => ['\\', 'r']
  | '\t' => ['\\', 't']
  | c => [c]

/-- A backslash before every interpolation. -/
def guardDollars : List Char → List Char
  | [] => []
  | '$' :: '{' :: rest => '\\' :: '$' :: '{' :: guardDollars rest
  | c :: rest => c :: guardDollars rest

/-- An interpolation stands at the front. -/
def Interpolates (cs : List Char) : Prop :=
  ∃ rest, cs = '$' :: '\x7b' :: rest

theorem not_interpolates {c : Char} {rest : List Char}
    (h : ∀ others, c = '$' → rest = '\x7b' :: others → False) : ¬ Interpolates (c :: rest) := by
  rintro ⟨others, heq⟩
  obtain ⟨hc, hrest⟩ := List.cons.inj heq
  exact h others hc hrest

theorem escape_cons {c : Char} {cs : List Char} (h : ¬ Interpolates (c :: cs)) :
    escape (c :: cs) = escapeMark c ++ escape cs := by
  generalize hall : c :: cs = all
  fun_cases escape all with
  | case1 => cases hall
  | case2 rest => exact absurd ⟨rest, hall⟩ h
  | case3 d rest =>
      obtain ⟨rfl, rfl⟩ := List.cons.inj hall
      rfl

theorem guardDollars_cons {c : Char} {cs : List Char} (h : ¬ Interpolates (c :: cs)) :
    guardDollars (c :: cs) = c :: guardDollars cs := by
  rw [guardDollars]
  rintro rest rfl rfl
  exact h ⟨rest, rfl⟩

/-- What becomes of a character is the character itself, or a backslash and a letter or mark that is no
dollar sign. -/
theorem escapeMark_cases (c : Char) :
    (escapeMark c = [c] ∧ c ∉ ['\\', '\'', '\n', '\r', '\t']) ∨
      ∃ e ∈ ['\\', '\'', 'n', 'r', 't'], escapeMark c = ['\\', e] ∧ escaped? e = some c := by
  unfold escapeMark
  split
  case h_6 hbackslash hquote hfeed hreturn htab =>
    exact .inl ⟨rfl, by simpa using ⟨hbackslash, hquote, hfeed, hreturn, htab⟩⟩
  all_goals simp [escaped?]

/-- A character that is kept was there before. -/
theorem brace_of_flatMap {cs tail : List Char} (h : cs.flatMap escapeMark = '\x7b' :: tail) :
    ∃ others, cs = '\x7b' :: others := by
  cases cs with
  | nil => cases h
  | cons c cs =>
      rw [List.flatMap_cons] at h
      rcases escapeMark_cases c with ⟨hc, -⟩ | ⟨e, -, hc, -⟩
      · rw [hc, List.singleton_append, List.cons.injEq] at h
        exact ⟨cs, by rw [h.1]⟩
      · rw [hc, List.cons_append, List.cons.injEq] at h
        exact absurd h.1 (by decide)

/-- Escaping is escaping the marks one by one, and then the interpolations in what came out. -/
theorem escape_eq_guardDollars (cs : List Char) : escape cs = guardDollars (cs.flatMap escapeMark) := by
  induction cs using escape.induct with
  | case1 => rfl
  | case2 rest ih => simp [escape, escapeMark, guardDollars, ih]
  | case3 c rest hne ih =>
      rw [escape_cons (not_interpolates hne), List.flatMap_cons, ih]
      rcases escapeMark_cases c with ⟨hc, -⟩ | ⟨e, he, hc, -⟩
      · rw [hc, List.singleton_append, List.singleton_append, guardDollars_cons]
        rintro ⟨tail, heq⟩
        obtain ⟨rfl, htail⟩ := List.cons.inj heq
        obtain ⟨others, rfl⟩ := brace_of_flatMap htail
        exact hne others rfl rfl
      · -- Neither the backslash nor what follows it is a dollar sign.
        have hdollar : e ≠ '$' := by
          rintro rfl
          exact absurd he (by decide)
        rw [hc, List.cons_append, List.cons_append, List.cons_append, List.cons_append,
          guardDollars_cons, guardDollars_cons] <;>
          simp [Interpolates, hdollar]

/-! ## No quote and no interpolation is open -/

/-- How many backslashes stand at the end of a text. -/
def backslashes (before : List Char) : Nat :=
  (before.reverse.takeWhile (· == '\\')).length

/-- A quote or an interpolation stands at the front. -/
def Opens (cs : List Char) : Prop :=
  (∃ rest, cs = '\'' :: rest) ∨ Interpolates cs

theorem backslashes_concat (before : List Char) :
    backslashes (before ++ ['\\']) = backslashes before + 1 := by
  simp [backslashes]

theorem backslashes_concat_of_ne {c : Char} (h : c ≠ '\\') (before : List Char) :
    backslashes (before ++ [c]) = 0 := by
  simp [backslashes, h]

/-- Whether a backslash waits for the next character, after one more character. -/
def waitsAfter (waits : Bool) (c : Char) : Bool :=
  c == '\\' && !waits

/-- Where a quote or an interpolation stands, a backslash waits for it. -/
def Guarded (waits : Bool) : List Char → Prop
  | [] => True
  | c :: cs => (Opens (c :: cs) → waits = true) ∧ Guarded (waitsAfter waits c) cs

/-- A backslash waits after an odd number of them. -/
theorem foldl_waitsAfter (before : List Char) :
    before.foldl waitsAfter false = decide (backslashes before % 2 = 1) := by
  induction before using List.reverseRecOn with
  | nil => rfl
  | append_singleton before c ih =>
      rw [List.foldl_append, ih, List.foldl_cons, List.foldl_nil, waitsAfter]
      by_cases hc : c = '\\'
      · subst hc
        rw [backslashes_concat]
        rcases Nat.mod_two_eq_zero_or_one (backslashes before) with hmod | hmod <;>
          simp [Nat.add_mod, hmod]
      · simp [hc, backslashes_concat_of_ne hc]

theorem Guarded.waits {waits : Bool} {before after : List Char} (h : Guarded waits (before ++ after))
    (hopens : Opens after) : before.foldl waitsAfter waits = true := by
  induction before generalizing waits with
  | nil =>
      cases after with
      | nil => rcases hopens with ⟨rest, hrest⟩ | ⟨rest, hrest⟩ <;> cases hrest
      | cons c cs => exact h.1 hopens
  | cons c before ih => exact ih h.2

theorem not_opens_cons {c : Char} (hquote : c ≠ '\'') (hdollar : c ≠ '$') (cs : List Char) :
    ¬ Opens (c :: cs) := by
  rintro (⟨rest, h⟩ | ⟨rest, h⟩)
  · exact hquote (List.cons.inj h).1
  · exact hdollar (List.cons.inj h).1

/-- Only an interpolation that was there to begin with is one in front of an escaped text. -/
theorem not_opens_escape {c : Char} {rest : List Char} (hquote : c ≠ '\'')
    (h : ¬ Interpolates (c :: rest)) : ¬ Opens (c :: escape rest) := by
  rintro (⟨tail, heq⟩ | ⟨tail, heq⟩)
  · exact hquote (List.cons.inj heq).1
  · obtain ⟨rfl, hbrace⟩ := List.cons.inj heq
    have hquoted : escape rest ++ ['\''] = '\x7b' :: (tail ++ ['\'']) := by rw [hbrace]; rfl
    obtain ⟨others, rfl⟩ := brace_of_escape hquoted
    exact h ⟨others, rfl⟩

/-- No backslash waits at the end of what one character becomes, so that the induction can go on. -/
theorem guarded_escape (cs : List Char) : Guarded false (escape cs) := by
  induction cs using escape.induct with
  | case1 => trivial
  | case2 rest ih =>
      have hfirst := not_opens_cons (c := '\\') (by decide) (by decide) ('$' :: '\x7b' :: escape rest)
      have hbrace := not_opens_cons (c := '\x7b') (by decide) (by decide) (escape rest)
      simpa [escape, Guarded, waitsAfter, hfirst, hbrace] using ih
  | case3 c rest hne ih =>
      rw [escape_cons (not_interpolates hne)]
      rcases escapeMark_cases c with ⟨hc, hplain⟩ | ⟨e, he, hc, -⟩
      · simp only [List.mem_cons, List.not_mem_nil, or_false, not_or] at hplain
        rw [hc]
        have hfirst := not_opens_escape hplain.2.1 (not_interpolates hne)
        have hwaits : waitsAfter false c = false := by simp [waitsAfter, hplain.1]
        simpa [Guarded, hwaits, hfirst] using ih
      · rw [hc]
        have hfirst := not_opens_cons (c := '\\') (by decide) (by decide) (e :: escape rest)
        simpa [Guarded, waitsAfter, hfirst] using ih

/-! ## Reading the escapes -/

/-- The text that is read from left to right, escape by escape; none if a backslash stands before
anything else. -/
def unescape : List Char → Option (List Char)
  | [] => some []
  | '\\' :: c :: rest =>
    match escaped? c, unescape rest with
    | some e, some cs => some (e :: cs)
    | _, _ => none
  | c :: rest => if c == '\\' then none else (unescape rest).map (c :: ·)

theorem unescape_cons {c : Char} (h : c ≠ '\\') (rest : List Char) :
    unescape (c :: rest) = (unescape rest).map (c :: ·) := by
  rw [unescape]
  · simp [h]
  · exact fun _ _ hc _ => h hc

theorem unescape_escape (cs : List Char) : unescape (escape cs) = some cs := by
  induction cs using escape.induct with
  | case1 => rfl
  | case2 rest ih =>
      rw [escape, unescape, unescape_cons (by decide), ih]
      rfl
  | case3 c rest hne ih =>
      rw [escape_cons (not_interpolates hne)]
      rcases escapeMark_cases c with ⟨hc, hplain⟩ | ⟨e, -, hc, hback⟩
      · rw [hc, List.singleton_append, unescape_cons (fun h => hplain (by simp [h])), ih]
        rfl
      · rw [hc, List.cons_append, List.cons_append, unescape, hback, List.nil_append, ih]

/-- The ends of lines and the tab are written as letters. -/
theorem not_mem_escape {c : Char} (hc : c ∈ ['\n', '\r', '\t']) (cs : List Char) : c ∉ escape cs := by
  have hsub : ['\\', '\'', 'n', 'r', 't'] ⊆ ['\\', '\'', 'n', 'r', 't', '$', '\x7b'] := by simp
  have hmarks : ∀ d ∈ ['\\', '\'', 'n', 'r', 't', '$', '\x7b'], c ≠ d := by
    simp only [List.mem_cons, List.not_mem_nil, or_false] at hc
    rcases hc with rfl | rfl | rfl <;> simp
  induction cs using escape.induct with
  | case1 => exact List.not_mem_nil
  | case2 rest ih =>
      simpa [escape, ih] using ⟨hmarks _ (by simp), hmarks _ (by simp), hmarks _ (by simp)⟩
  | case3 d rest hne ih =>
      rw [escape_cons (not_interpolates hne), List.mem_append, not_or]
      refine ⟨?_, ih⟩
      rcases escapeMark_cases d with ⟨hd, hplain⟩ | ⟨e, he, hd, -⟩
      · rw [hd, List.mem_singleton]
        rintro rfl
        exact hplain (List.mem_cons_of_mem _ (List.mem_cons_of_mem _ hc))
      · rw [hd]
        have hletter : c ≠ e := hmarks e (hsub he)
        simpa using ⟨hmarks _ (by simp), hletter⟩

/-- A text stands between two quotes, and what is between them is escaped in two passes. It has no end of
a line and no tab, every quote and every interpolation in it stands after an odd number of backslashes,
and reading its escapes from left to right gives the text back. -/
theorem text_escaped (s : String) :
    ∃ inside, (text s).toList = '\'' :: (inside ++ ['\'']) ∧
      inside = guardDollars (s.toList.flatMap escapeMark) ∧
      '\n' ∉ inside ∧ '\r' ∉ inside ∧ '\t' ∉ inside ∧
      (∀ before after, inside = before ++ after → Opens after → backslashes before % 2 = 1) ∧
      unescape inside = some s.toList := by
  refine ⟨escape s.toList, String.toList_ofList, escape_eq_guardDollars _, not_mem_escape (by simp) _,
    not_mem_escape (by simp) _, not_mem_escape (by simp) _, ?_, unescape_escape _⟩
  intro before after hinside hopens
  have hguarded : Guarded false (before ++ after) := hinside ▸ guarded_escape s.toList
  have hwaits := hguarded.waits hopens
  rwa [foldl_waitsAfter, decide_eq_true_eq] at hwaits

/-- Two dollar signs, a backslash before an interpolation, and two backslashes before a quote. -/
example : text "$$\x7b\\$\x7b\\\\'" = "'$\\$\x7b\\\\\\$\x7b\\\\\\\\\\''" := by decide

end TemplateDocs.Literal
