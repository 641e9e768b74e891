import TemplateDocs.Proofs.Text.Search
import TemplateDocs.Source.Line

/-! # The first character of a line

Decorators and declarations start in the first column, so the first character of a line rules out most
of what it could be.
-/

namespace TemplateDocs.Source

open Text

variable {c : Bool} {d : Char} {cs : List Char}

theorem dropStart?_cons_of_ne {k : Char} {start : List Char} (h : k ≠ d) :
    dropStart? (k :: start) (d :: cs) = none := by
  simp [dropStart?, h]

theorem decorated?_of_ne (h : '@' ≠ d) : decorated? (d :: cs) = none := by
  have hdescription : dropStart? "@description(".toList (d :: cs) = none := dropStart?_cons_of_ne h
  have hsys : dropStart? "@sys.description(".toList (d :: cs) = none := dropStart?_cons_of_ne h
  rw [decorated?, hdescription, hsys]
  rfl

theorem afterKeyword?_of_ne {keyword : String} (h : (keyword.toList.head?.any (· != d)) = true) :
    afterKeyword? keyword (d :: cs) = none := by
  cases hkeyword : keyword.toList with
  | nil =>
      rw [hkeyword] at h
      cases h
  | cons k rest =>
      rw [hkeyword, List.head?_cons, Option.any_some] at h
      rw [afterKeyword?, hkeyword, dropStart?_cons_of_ne (bne_iff_ne.mp h)]

theorem afterKeyword?_append {keyword : String} (hd : isBlank d = true) (rest : List Char) :
    afterKeyword? keyword (keyword.toList ++ d :: rest) = some (trimLeft rest) := by
  rw [afterKeyword?, dropStart?_eq_some_iff.mpr rfl]
  exact if_pos hd

theorem isOtherDeclaration_of_ne
    (h : ∀ keyword ∈ describedElsewhere, (keyword.toList.head?.any (· != d)) = true) :
    isOtherDeclaration (d :: cs) = false := by
  rw [isOtherDeclaration, List.any_eq_false]
  intro keyword hkeyword
  rw [afterKeyword?_of_ne (h keyword hkeyword)]
  decide

theorem trim_cons (h : isBlank d = false) (cs : List Char) : trim (d :: cs) = d :: trimRight cs := by
  have hleft : trimLeft (d :: cs) = d :: cs := by rw [trimLeft, List.dropWhile_cons, h]; rfl
  rw [trim, hleft]
  exact dropEnd_append_cons h [] cs

/-- A line that starts with neither a blank nor a stroke is no comment. -/
theorem ofList_eq_ofCode (hblank : isBlank d = false) (hstroke : '/' ≠ d) :
    Line.ofList c (d :: cs) = Line.ofCode c (d :: cs) := by
  simp [Line.ofList, trim_cons hblank, dropStart?_cons_of_ne hstroke]

end TemplateDocs.Source
