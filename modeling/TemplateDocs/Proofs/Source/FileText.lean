import TemplateDocs.Proofs.Source.Concatenation
import TemplateDocs.Proofs.Text.Search
import TemplateDocs.Proofs.Text.Unbroken
import TemplateDocs.Proofs.Text.Utf8
import TemplateDocs.Template.Parse

/-! # Texts in memory and in files

A text in memory is cut into lines at the line ends of every script. A file is read line by line: each
line feed, carriage return or pair of both is read as one line feed, and the scan strips it off. Where no
other line ends stand in a text, both cut it at the same places, so the text declares the same whether it
is held in memory or in a file.
-/

namespace TemplateDocs

namespace Text

variable {cs rest : List Char} {c : Char}

/-! ## Line ends -/

/-- The line ends of a text in memory that end no line of a file: vertical tab, form feed, the separators
of files, groups and records, next line, and the separators of lines and paragraphs. -/
def otherLineEnds : List Char :=
  ['\x0b', '\x0c', '\x1c', '\x1d', '\x1e', '\x85', '\u2028', '\u2029']

theorem isLineEnd_iff : isLineEnd c = true ↔ isFileLineEnd c = true ∨ c ∈ otherLineEnds := by
  have hcode (d : Char) : c = d ↔ c.toNat = d.toNat :=
    ⟨fun h => h ▸ rfl, fun h => Char.ext (UInt32.toNat_inj.mp h)⟩
  simp only [isLineEnd, isFileLineEnd, otherLineEnds, Bool.or_eq_true, Bool.and_eq_true,
    decide_eq_true_eq, beq_iff_eq, List.mem_cons, List.not_mem_nil, or_false, hcode]
  simp only [Char.reduceToNat]
  omega

theorem splitLines_congr {p q : Char → Bool} (h : ∀ c ∈ cs, p c = q c) :
    splitLines p cs = splitLines q cs := by
  fun_induction splitLines p cs with
  | case1 => rfl
  | case2 rest ih =>
      rw [splitLines, ih fun c hc => h c (by simp [hc])]
  | case3 c rest hne hc ih =>
      rw [splitLines, ih fun d hd => h d (List.mem_cons_of_mem c hd), ← h c List.mem_cons_self, if_pos hc]
      exact hne
  | case4 c rest hne hc hrest ih =>
      rw [splitLines, ← h c List.mem_cons_self, if_neg hc,
        ← ih fun d hd => h d (List.mem_cons_of_mem c hd), hrest]
      exact hne
  | case5 c rest hne hc line lines hrest ih =>
      rw [splitLines, ← h c List.mem_cons_self, if_neg hc,
        ← ih fun d hd => h d (List.mem_cons_of_mem c hd), hrest]
      exact hne

/-- Without other line ends a text has the same lines in memory and in a file. -/
theorem lines_eq_fileLines {text : String} (h : ∀ c ∈ text.toList, c ∉ otherLineEnds) :
    lines text = fileLines text := by
  unfold lines fileLines
  rw [splitLines_congr]
  intro c hc
  rw [Bool.eq_iff_iff, isLineEnd_iff]
  exact or_iff_left (h c hc)

/-! ## Lines as a file gives them -/

theorem dropEnd_eq_self {p : Char → Bool} (h : ∀ c ∈ cs, p c = false) : dropEnd p cs = cs := by
  have hfirst : cs.reverse.dropWhile p = cs.reverse := by
    rw [List.dropWhile_eq_self_iff]
    intro hlength
    simpa using h _ (List.mem_reverse.mp (List.getElem_mem hlength))
  rw [dropEnd, hfirst, List.reverse_reverse]

/-- The lines of a text, each with the line feed that ends it. -/
def terminatedLines : List Char → List (List Char)
  | [] => []
  | c :: rest =>
    if c == '\n' then [c] :: terminatedLines rest
    else
      match terminatedLines rest with
      | [] => [[c]]
      | line :: lines => (c :: line) :: lines

/-- The lines that are read from a file one after the other. Every line end is read as a line feed, which
stays with its line. -/
def readLines (text : String) : List String :=
  (terminatedLines (fileText text.toList)).map String.ofList

theorem fileText_cons_of_end (hc : isFileLineEnd c = true)
    (hne : ∀ tail, c = '\r' → rest = '\n' :: tail → False) :
    fileText (c :: rest) = '\n' :: fileText rest := by
  rcases Bool.or_eq_true_iff.mp hc with hc | hc
  · rw [beq_iff_eq.mp hc]
    simp [fileText]
  · obtain rfl := beq_iff_eq.mp hc
    rw [fileText]
    exact fun tail htail => hne tail rfl htail

theorem fileText_cons_of_not_end (hc : isFileLineEnd c = false) :
    fileText (c :: rest) = c :: fileText rest := by
  obtain ⟨-, hreturn⟩ := isFileLineEnd_eq_false_iff.mp hc
  simp [fileText, hreturn]

theorem terminatedLines_lineFeed (cs : List Char) :
    terminatedLines ('\n' :: cs) = ['\n'] :: terminatedLines cs :=
  rfl

/-- A character that ends no line goes in front of the line that follows it. -/
theorem terminatedLines_fileText_cons (hc : isFileLineEnd c = false) :
    terminatedLines (fileText (c :: rest)) =
      match terminatedLines (fileText rest) with
      | [] => [[c]]
      | line :: lines => (c :: line) :: lines := by
  have hfeed := (isFileLineEnd_eq_false_iff.mp hc).1
  rw [fileText_cons_of_not_end hc, terminatedLines, if_neg (by simpa using hfeed)]

/-- Reading a file as lines with line feeds, and stripping them off, cuts the text at its line ends. -/
theorem map_dropEnd_terminatedLines (cs : List Char) :
    (terminatedLines (fileText cs)).map (dropEnd isFileLineEnd) = splitLines isFileLineEnd cs := by
  fun_induction splitLines isFileLineEnd cs with
  | case1 => rfl
  | case2 rest ih =>
      rw [fileText, terminatedLines_lineFeed, List.map_cons, ih]
      rfl
  | case3 c rest hne hc ih =>
      rw [fileText_cons_of_end hc hne, terminatedLines_lineFeed, List.map_cons, ih]
      rfl
  | case4 c rest hne hc hrest ih =>
      have hc : isFileLineEnd c = false := by simpa using hc
      rw [hrest, List.map_eq_nil_iff] at ih
      rw [terminatedLines_fileText_cons hc, ih, List.map_singleton]
      exact congrArg (fun l => [l]) (dropEnd_append_cons hc [] [])
  | case5 c rest hne hc line lines hrest ih =>
      have hc : isFileLineEnd c = false := by simpa using hc
      rw [hrest] at ih
      rw [terminatedLines_fileText_cons hc]
      cases hread : terminatedLines (fileText rest) with
      | nil =>
          rw [hread] at ih
          cases ih
      | cons first others =>
          rw [hread, List.map_cons, List.cons.injEq] at ih
          rw [List.map_cons, ih.2, ← ih.1]
          exact congrArg (· :: lines) (dropEnd_append_cons hc [] first)

end Text

namespace Source

open Text

variable {c : Bool}

/-! ## Scanning -/

/-- A scan sees the lines without their line ends. -/
theorem run_congr {lines others : List String}
    (h : lines.map Scan.withoutLineEnd = others.map Scan.withoutLineEnd) :
    Scan.run c lines = Scan.run c others := by
  have hfold (lines : List String) :
      Scan.run c lines = (lines.map Scan.withoutLineEnd).foldl (fun s cs => s.step c cs) {} :=
    List.foldl_map.symm
  rw [hfold, h, hfold others]

theorem map_withoutLineEnd_readLines (text : String) :
    (readLines text).map Scan.withoutLineEnd = splitLines isFileLineEnd text.toList := by
  rw [readLines, List.map_map, ← map_dropEnd_terminatedLines]
  refine List.map_congr_left fun line _ => ?_
  rw [Function.comp_apply, Scan.withoutLineEnd, String.toList_ofList]

theorem map_withoutLineEnd_fileLines (text : String) :
    (fileLines text).map Scan.withoutLineEnd = splitLines isFileLineEnd text.toList := by
  rw [fileLines, List.map_map]
  conv_rhs => rw [← List.map_id (splitLines isFileLineEnd text.toList)]
  refine List.map_congr_left fun line hline => ?_
  rw [Function.comp_apply, Scan.withoutLineEnd, String.toList_ofList, id]
  exact dropEnd_eq_self (unbroken_of_mem_splitLines hline)

theorem scanLines_readLines (text : String) : scanLines c (readLines text) = scanFileText c text := by
  unfold scanFileText scanLines
  rw [run_congr ((map_withoutLineEnd_readLines text).trans (map_withoutLineEnd_fileLines text).symm)]

theorem ofFile_encode (name text : String) :
    Findings.ofFile c name (.ok (encode text)) =
      (scanFileText c text).mapError fun e => .reported e.report := by
  unfold Findings.ofFile
  simp only [decode?_encode]
  cases scanFileText c text with
  | error e => rfl
  | ok found => rfl

/-- A text whose only line ends are those of files declares the same in memory and in a file that holds
its bytes, or is refused with the same message; and so do the lines as they are read from the file. -/
theorem scanText_agrees_ofFile (c : Bool) (name : String) {text : String}
    (h : ∀ ch ∈ text.toList, ch ∉ otherLineEnds) :
    ((∃ found, scanText c text = .ok found ∧
        Findings.ofFile c name (.ok (encode text)) = .ok found) ∨
      ∃ e, scanText c text = .error e ∧
        Findings.ofFile c name (.ok (encode text)) =
          .error (.reported { category := .scan, message := e.message })) ∧
    scanLines c (readLines text) = scanText c text := by
  have hscan : scanText c text = scanFileText c text := by
    rw [scanText, lines_eq_fileLines h, scanFileText]
  rw [hscan, ofFile_encode]
  refine ⟨?_, scanLines_readLines text⟩
  cases scanFileText c text with
  | ok found => exact .inl ⟨found, rfl, rfl⟩
  | error e => exact .inr ⟨e, rfl, rfl⟩

/-- A return, a return with a line feed, and a line feed end three lines; on the fourth a comment is
opened that is never closed. -/
theorem scanText_agrees_ofFile_mixture :
    (∀ ch ∈ "module m 'n'\r\r\nvar v = 1\n/* open".toList, ch ∉ otherLineEnds) ∧
      Findings.ofFile true "main.bicep" (.ok (encode "module m 'n'\r\r\nvar v = 1\n/* open")) =
        .error (.reported
          { category := .scan
            message := "multiline comment was not closed (opened on line 4)" }) := by
  have hends : ∀ ch ∈ "module m 'n'\r\r\nvar v = 1\n/* open".toList, ch ∉ otherLineEnds := by
    simp [otherLineEnds]
  have herror : scanText true "module m 'n'\r\r\nvar v = 1\n/* open" = .error (.unclosedComment 4) := by
    rfl
  refine ⟨hends, ?_⟩
  rcases (scanText_agrees_ofFile true "main.bicep" hends).1 with ⟨found, hok, -⟩ | ⟨e, he, hfile⟩
  · rw [herror] at hok
    cases hok
  · rw [herror] at he
    cases he
    exact hfile

end Source

end TemplateDocs
