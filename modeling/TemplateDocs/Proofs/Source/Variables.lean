import Mathlib.Data.List.Basic
import TemplateDocs.Proofs.Source.Concatenation
import TemplateDocs.Proofs.Source.Reading

/-! # Scanning with and without variables

A variable is a declaration like any other to a scan that does not collect variables: the line that
declares it drops the description that waits, whether the variable is kept or not. So both scans stand
in the same state after every line, up to the variables that one of them has kept.
-/

namespace TemplateDocs

/-- What was found, without the variables. -/
def Findings.bare (found : Findings) : Findings :=
  { found with vars := [] }

namespace Source

open Text

variable {cs : List Char} {keyword : String} {p : Char → Bool}

/-! ## Words after a keyword -/

/-- The line starts with the keyword, blanks, and a word of characters of a class. -/
def WordFollows (p : Char → Bool) (keyword : String) (cs : List Char) : Prop :=
  ∃ blanks word rest, cs = keyword.toList ++ (blanks ++ (word ++ rest)) ∧
    blanks ≠ [] ∧ (∀ ch ∈ blanks, isBlank ch = true) ∧ word ≠ [] ∧ ∀ ch ∈ word, p ch = true

theorem WordFollows.mono {q : Char → Bool} (hpq : ∀ ch, p ch = true → q ch = true)
    (h : WordFollows p keyword cs) : WordFollows q keyword cs := by
  obtain ⟨blanks, word, rest, hcs, hblanks, hblank, hword, hclass⟩ := h
  exact ⟨blanks, word, rest, hcs, hblanks, hblank, hword, fun ch hch => hpq ch (hclass ch hch)⟩

/-- The code points of the blanks. -/
def blankCodes : List Nat :=
  List.range' 0x09 5 ++ List.range' 0x1C 5 ++ [0x85, 0xA0, 0x1680] ++ List.range' 0x2000 11 ++
    [0x2028, 0x2029, 0x202F, 0x205F, 0x3000]

theorem mem_blankCodes_of_isBlank {ch : Char} (h : isBlank ch = true) : ch.toNat ∈ blankCodes := by
  simp only [isBlank, Bool.or_eq_true, Bool.and_eq_true, decide_eq_true_eq, beq_iff_eq] at h
  simp only [blankCodes, List.mem_append, List.mem_range'_1, List.mem_cons, List.not_mem_nil, or_false]
  omega

/-- No blank, of whatever script, is part of a word. -/
theorem isBlank_of_isWord {ch : Char} (h : isWord ch = true) : isBlank ch = false := by
  have hcodes : ∀ n ∈ blankCodes, isWord (Char.ofNat n) = false := by decide +kernel
  by_contra hblank
  have hcode := hcodes ch.toNat (mem_blankCodes_of_isBlank (by simpa using hblank))
  rw [Char.ofNat_toNat, h] at hcode
  cases hcode

theorem afterKeyword?_eq_some_iff {rest : List Char} :
    afterKeyword? keyword cs = some rest ↔
      ∃ d tail, cs = keyword.toList ++ d :: tail ∧ isBlank d = true ∧ rest = trimLeft tail := by
  constructor
  · intro h
    unfold afterKeyword? at h
    split at h
    case h_1 d tail htail =>
      split at h
      case isTrue hd => exact ⟨d, tail, dropStart?_eq_some_iff.mp htail, hd, (Option.some.inj h).symm⟩
      case isFalse => cases h
    case h_2 => cases h
  · rintro ⟨d, tail, rfl, hd, rfl⟩
    exact afterKeyword?_append hd tail

/-- Blanks end where a word starts that holds none, so there is one way only to read the line. -/
theorem wordFollows_iff (hp : ∀ ch, p ch = true → isBlank ch = false) :
    WordFollows p keyword cs ↔ ∃ d rest, afterKeyword? keyword cs = some (d :: rest) ∧ p d = true := by
  constructor
  · rintro ⟨blanks, word, rest, rfl, hblanks, hblank, hword, hclass⟩
    obtain ⟨b, blanks, rfl⟩ := List.exists_cons_of_ne_nil hblanks
    obtain ⟨d, word, rfl⟩ := List.exists_cons_of_ne_nil hword
    have hd := hclass d List.mem_cons_self
    have htrim : trimLeft (blanks ++ (d :: word ++ rest)) = d :: (word ++ rest) := by
      rw [trimLeft, List.dropWhile_append_of_pos fun ch hch => hblank ch (List.mem_cons_of_mem b hch)]
      simp [hp d hd]
    refine ⟨d, word ++ rest, ?_, hd⟩
    rw [List.cons_append, afterKeyword?_append (hblank b List.mem_cons_self), htrim]
  · rintro ⟨d, rest, hafter, hd⟩
    obtain ⟨b, tail, rfl, hb, htail⟩ := afterKeyword?_eq_some_iff.mp hafter
    refine ⟨b :: tail.takeWhile isBlank, [d], rest, ?_, by simp, ?_, by simp, by simpa using hd⟩
    · have hsplit : tail = tail.takeWhile isBlank ++ (d :: rest) := by
        rw [htail, trimLeft, List.takeWhile_append_dropWhile]
      conv_lhs => rw [hsplit]
      simp
    · intro ch hch
      rcases List.mem_cons.mp hch with rfl | hch
      · exact hb
      · exact List.mem_takeWhile_imp hch

theorem isOtherDeclaration_iff : isOtherDeclaration cs = true ↔
    ∃ keyword ∈ describedElsewhere, WordFollows (fun ch => !isBlank ch) keyword cs := by
  rw [isOtherDeclaration, List.any_eq_true]
  refine exists_congr fun keyword => and_congr_right fun _ => ?_
  rw [wordFollows_iff fun ch hch => by simpa using hch]
  cases hafter : afterKeyword? keyword cs with
  | none => simp
  | some rest =>
      cases rest with
      | nil => simp
      | cons d rest =>
          -- Behind the keyword all blanks have been skipped.
          obtain ⟨b, tail, -, -, htail⟩ := afterKeyword?_eq_some_iff.mp hafter
          have hd := List.head?_dropWhile_not isBlank tail
          rw [← trimLeft, ← htail] at hd
          simpa using hd

theorem wordFollows_of_readVariable? {found : String × Option String} (h : readVariable? cs = some found) :
    WordFollows isWord "var" cs := by
  obtain ⟨rest, hafter, hname⟩ := Option.bind_eq_some_iff.mp h
  rw [wordFollows_iff fun ch hch => isBlank_of_isWord hch]
  cases rest with
  | nil => cases hname
  | cons d rest =>
      refine ⟨d, rest, hafter, ?_⟩
      by_contra hd
      simp [hd] at hname

/-- Whatever is read as a variable is a declaration also where variables are not collected. -/
theorem isOtherDeclaration_of_readVariable? {found : String × Option String}
    (h : readVariable? cs = some found) : isOtherDeclaration cs = true := by
  have hword := (wordFollows_of_readVariable? h).mono (q := fun ch => !isBlank ch) fun ch hch => by
    simp [isBlank_of_isWord hch]
  exact isOtherDeclaration_iff.mpr ⟨"var", by decide, hword⟩

/-! ## One line -/

/-- What a line says where variables are not collected. -/
def Line.bare : Line → Line
  | .variable _ _ => .otherDeclaration
  | l => l

theorem ofCode_bare (cs : List Char) : Line.ofCode false cs = (Line.ofCode true cs).bare := by
  unfold Line.ofCode
  cases inlineDescription? cs with
  | some text => rfl
  | none =>
  cases openDescription? cs with
  | some text => rfl
  | none =>
  simp only [if_true, Bool.false_eq_true, if_false]
  cases hvar : readVariable? cs with
  | some found => simp [isOtherDeclaration_of_readVariable? hvar, Line.bare]
  | none =>
  cases isOtherDeclaration cs with
  | true => rfl
  | false =>
  cases readModule? cs with
  | some found => rfl
  | none => cases readResource? cs <;> rfl

theorem ofList_bare (cs : List Char) : Line.ofList false cs = (Line.ofList true cs).bare := by
  unfold Line.ofList
  dsimp only
  split
  · rfl
  · split
    · split <;> rfl
    · exact ofCode_bare cs

/-! ## The scan -/

/-- The state of a scan that has kept no variables. -/
def Scan.bare (s : Scan) : Scan :=
  { s with found := s.found.bare }

theorem continueDescription_bare (s : Scan) (opened : Nat) (parts : List String) (quotesClosed : Bool)
    (cs : List Char) :
    s.bare.continueDescription opened parts quotesClosed cs =
      (s.continueDescription opened parts quotesClosed cs).bare := by
  unfold Scan.continueDescription
  split
  · split <;> rfl
  · split
    · dsimp only
      split <;> rfl
    · rfl

theorem startDescription_bare (s : Scan) (cs : List Char) :
    s.bare.startDescription cs = (s.startDescription cs).bare := by
  unfold Scan.startDescription
  dsimp only
  split
  · exact continueDescription_bare { s with mode := .description s.lineNumber [] false } s.lineNumber []
      false cs
  · rfl

/-- Both scans keep the same description and the same findings, variables aside. -/
theorem take_bare (s : Scan) (l : Line) : s.bare.take l.bare = (s.take l).bare := by
  cases l with
  | opensDescription text => exact startDescription_bare s text.toList
  | _ => rfl

theorem step_bare (s : Scan) (cs : List Char) : s.bare.step false cs = (s.step true cs).bare := by
  cases hmode : s.mode with
  | normal =>
      have htake := take_bare { s with lineNumber := s.lineNumber + 1 } (Line.ofList true cs)
      rw [← ofList_bare] at htake
      simpa only [Scan.step, Scan.bare, hmode] using htake
  | comment opened =>
      simp only [Scan.step, Scan.bare, hmode]
      split <;> rfl
  | description opened parts quotesClosed =>
      have hcontinue := continueDescription_bare { s with lineNumber := s.lineNumber + 1 } opened parts
        quotesClosed cs
      simpa only [Scan.step, Scan.bare, hmode] using hcontinue

theorem run_bare (lines : List String) : Scan.run false lines = (Scan.run true lines).bare := by
  induction lines using List.reverseRecOn with
  | nil => rfl
  | append_singleton lines line ih => rw [run_concat, run_concat, ih, step_bare]

theorem finish_bare (s : Scan) : s.bare.finish = s.finish.map Findings.bare := by
  unfold Scan.finish
  cases hmode : s.mode <;> simp only [Scan.bare, hmode] <;> rfl

/-- Whether variables are collected makes no difference but for the variables: both scans fail with the
same error, or both find the same modules and resources with the same descriptions in the same order,
and without collecting there are no variables. -/
theorem scanLines_without_variables (lines : List String) :
    (∃ e, scanLines true lines = .error e ∧ scanLines false lines = .error e) ∨
      ∃ found bare, scanLines true lines = .ok found ∧ scanLines false lines = .ok bare ∧
        bare.modules = found.modules ∧ bare.resources = found.resources ∧ bare.vars = [] := by
  have hbare : scanLines false lines = (scanLines true lines).map Findings.bare := by
    rw [scanLines, run_bare, finish_bare, scanLines]
  rw [hbare]
  cases scanLines true lines with
  | error e => exact .inl ⟨e, rfl, rfl⟩
  | ok found => exact .inr ⟨found, found.bare, rfl, rfl, rfl, rfl, rfl⟩

end Source

end TemplateDocs
