import TemplateDocs.Proofs.Source.Concatenation
import TemplateDocs.Proofs.Source.Reading

/-! # Lines that a scan passes over

Blank lines, remarks, lines that are set in and comments leave a scan as it was, up to the number of
lines. They may be put between any two lines outside of comments and descriptions: the scan then gives
the same, and a description that waits for its declaration is still waiting after them.
-/

namespace TemplateDocs.Source

open Text

variable {c : Bool} {line : String} {lines pre inserted post : List String}

/-! ## Quiet lines and comments -/

/-- The mark that opens a comment. -/
def commentStart : List Char := ['/', '*']

/-- The mark that closes a comment. -/
def commentEnd : List Char := ['*', '/']

/-- A line that says nothing, whatever is written on it. -/
inductive Quiet (line : String) : Prop where
  | blank (h : trim line.toList = [])
  | remark (h : ['/', '/'] <+: trim line.toList)
  | indented (hstart : ∃ b ∈ line.toList.head?, isBlank b = true)
      (h : ¬ commentStart <+: trim line.toList)
  | comment {rest : List Char} (h : trim line.toList = commentStart ++ rest)
      (hend : commentEnd <:+: rest)

/-- A line that opens a comment and does not close it. -/
def OpensComment (line : String) : Prop :=
  ∃ rest, trim line.toList = commentStart ++ rest ∧ ¬ commentEnd <:+: rest

/-- Quiet lines, and comments from the line that opens them to the first one that closes them. -/
inductive Noise : List String → Prop where
  | nil : Noise []
  | quiet {line : String} {lines : List String} (h : Quiet line) (rest : Noise lines) :
      Noise (line :: lines)
  | comment {opening closing : String} {inside lines : List String} (hopen : OpensComment opening)
      (hinside : ∀ line ∈ inside, ¬ commentEnd <:+: line.toList)
      (hclose : commentEnd <:+: closing.toList) (rest : Noise lines) :
      Noise (opening :: (inside ++ closing :: lines))

/-! ## What such a line says -/

theorem trim_withoutLineEnd (line : String) : trim (Scan.withoutLineEnd line) = trim line.toList := by
  obtain ⟨tail, hline, htail⟩ := exists_dropEnd isFileLineEnd line.toList
  rw [Scan.withoutLineEnd]
  conv_rhs => rw [hline]
  exact (trim_append_of_blank fun c hc => isBlank_of_isFileLineEnd (htail c hc)).symm

theorem commentEnd_infix_withoutLineEnd_iff (line : String) :
    commentEnd <:+: Scan.withoutLineEnd line ↔ commentEnd <:+: line.toList := by
  obtain ⟨tail, hline, htail⟩ := exists_dropEnd isFileLineEnd line.toList
  rw [Scan.withoutLineEnd]
  conv_rhs => rw [hline]
  refine (infix_append_iff_of_not_mem (by decide) fun c hc hmark => ?_).symm
  have hend := htail c hc
  simp only [commentEnd, List.mem_cons, List.not_mem_nil, or_false] at hmark
  rcases hmark with rfl | rfl
  · exact absurd hend (by decide)
  · exact absurd hend (by decide)

/-- Nothing that is looked for starts with a blank. -/
theorem ofCode_of_isBlank {b : Char} {cs : List Char} (hb : isBlank b = true) :
    Line.ofCode c (b :: cs) = .silent := by
  have hkeyword {keyword : String} (hk : (keyword.toList.head?.any fun k => !isBlank k) = true) :
      (keyword.toList.head?.any (· != b)) = true := by
    obtain ⟨k, hhead, hk⟩ := (Option.any_eq_true _ _).mp hk
    refine (Option.any_eq_true _ _).mpr ⟨k, hhead, bne_iff_ne.mpr ?_⟩
    rintro rfl
    simp [hb] at hk
  have hat : '@' ≠ b := by
    rintro rfl
    cases hb
  have hall : ∀ k ∈ describedElsewhere, (k.toList.head?.any fun d => !isBlank d) = true := by decide
  have hother : isOtherDeclaration (b :: cs) = false :=
    isOtherDeclaration_of_ne fun keyword hmem => hkeyword (hall keyword hmem)
  have hvar : afterKeyword? "var" (b :: cs) = none := afterKeyword?_of_ne (hkeyword (by decide))
  have hmodule : afterKeyword? "module" (b :: cs) = none := afterKeyword?_of_ne (hkeyword (by decide))
  have hresource : afterKeyword? "resource" (b :: cs) = none :=
    afterKeyword?_of_ne (hkeyword (by decide))
  simp [Line.ofCode, inlineDescription?, openDescription?, readVariable?, readModule?, readResource?,
    header?, decorated?_of_ne hat, hother, hvar, hmodule, hresource]

/-- A line that starts with a comment is judged by what follows the mark. -/
theorem ofList_of_commentStart {cs rest : List Char} (h : trim cs = commentStart ++ rest) :
    Line.ofList c cs = if contains commentEnd rest then .silent else .opensComment := by
  have hremark : dropStart? ['/', '/'] (commentStart ++ rest) = none := rfl
  have hstart : dropStart? ['/', '*'] (commentStart ++ rest) = some rest := rfl
  simp only [Line.ofList, h, hremark, hstart]
  rfl

theorem ofList_of_isBlank {b : Char} {cs : List Char} (hb : isBlank b = true)
    (h : ¬ commentStart <+: trim (b :: cs)) : Line.ofList c (b :: cs) = .silent := by
  have hstart : dropStart? ['/', '*'] (trim (b :: cs)) = none := dropStart?_eq_none_iff.mpr h
  simp only [Line.ofList, hstart, ofCode_of_isBlank hb, ite_self]

/-- Whatever is written on a quiet line, it says nothing. -/
theorem Quiet.ofList_eq (h : Quiet line) : Line.ofList c (Scan.withoutLineEnd line) = .silent := by
  cases h with
  | blank h => simp [Line.ofList, trim_withoutLineEnd, h]
  | remark h =>
      have hremark := isSome_dropStart?_iff.mpr h
      simp [Line.ofList, trim_withoutLineEnd, hremark]
  | indented hstart h =>
      obtain ⟨b, hb, hblank⟩ := hstart
      rw [← trim_withoutLineEnd] at h
      cases hline : Scan.withoutLineEnd line with
      | nil => rfl
      | cons d cs =>
          -- Cutting off the line end leaves the first character where it is.
          have hd : d = b := by
            obtain ⟨tail, heq, -⟩ := exists_dropEnd isFileLineEnd line.toList
            rw [Scan.withoutLineEnd] at hline
            rw [heq, hline] at hb
            simpa using hb
          rw [hline] at h
          exact ofList_of_isBlank (hd ▸ hblank) h
  | comment h hend =>
      rw [ofList_of_commentStart ((trim_withoutLineEnd line).trans h), contains_eq_true_iff.mpr hend,
        if_pos rfl]

theorem OpensComment.ofList_eq (h : OpensComment line) :
    Line.ofList c (Scan.withoutLineEnd line) = .opensComment := by
  obtain ⟨rest, htrim, hend⟩ := h
  rw [ofList_of_commentStart ((trim_withoutLineEnd line).trans htrim), if_neg]
  exact fun hcontains => hend (contains_eq_true_iff.mp hcontains)

/-! ## Passing over lines -/

/-- The scan some lines later, with nothing read in between. -/
def Scan.skip (s : Scan) (n : Nat) : Scan :=
  { s with lineNumber := s.lineNumber + n }

theorem Scan.skip_skip (s : Scan) (m n : Nat) : (s.skip m).skip n = s.skip (m + n) := by
  simp [Scan.skip, Nat.add_assoc]

theorem step_of_normal {s : Scan} (hs : s.mode = .normal) (cs : List Char) :
    s.step c cs = (s.skip 1).take (Line.ofList c cs) := by
  obtain ⟨mode, pending, lineNumber, found⟩ := s
  cases hs
  rfl

theorem Quiet.step_eq (h : Quiet line) {s : Scan} (hs : s.mode = .normal) :
    s.step c (Scan.withoutLineEnd line) = s.skip 1 := by
  rw [step_of_normal hs, h.ofList_eq]
  rfl

theorem OpensComment.step_eq (h : OpensComment line) {s : Scan} (hs : s.mode = .normal) :
    s.step c (Scan.withoutLineEnd line) = { s.skip 1 with mode := .comment (s.lineNumber + 1) } := by
  rw [step_of_normal hs, h.ofList_eq]
  rfl

theorem step_of_comment {s : Scan} {opened : Nat} (hs : s.mode = .comment opened) :
    s.step c (Scan.withoutLineEnd line) =
      if commentEnd <:+: line.toList then { s.skip 1 with mode := .normal } else s.skip 1 := by
  have hcontains : contains ['*', '/'] (Scan.withoutLineEnd line) = true ↔ commentEnd <:+: line.toList :=
    contains_eq_true_iff.trans (commentEnd_infix_withoutLineEnd_iff line)
  obtain ⟨mode, pending, lineNumber, found⟩ := s
  cases hs
  simp only [Scan.step, hcontains]
  rfl

/-- The lines inside of a comment are passed over. -/
theorem foldl_inside {s : Scan} {opened : Nat} (hs : s.mode = .comment opened)
    (h : ∀ line ∈ lines, ¬ commentEnd <:+: line.toList) :
    lines.foldl (fun s line => s.step c (Scan.withoutLineEnd line)) s = s.skip lines.length := by
  induction lines generalizing s with
  | nil => rfl
  | cons line lines ih =>
      have hline := h line List.mem_cons_self
      have hrest := ih (s := s.skip 1) hs fun l hl => h l (List.mem_cons_of_mem line hl)
      rw [List.foldl_cons, step_of_comment hs, if_neg hline, hrest, Scan.skip_skip, List.length_cons,
        Nat.add_comm]

/-- Outside of comments and descriptions, noise is passed over. -/
theorem Noise.foldl_eq (h : Noise lines) {s : Scan} (hs : s.mode = .normal) :
    lines.foldl (fun s line => s.step c (Scan.withoutLineEnd line)) s = s.skip lines.length := by
  induction h generalizing s with
  | nil => rfl
  | @quiet line lines h _ ih =>
      have hrest := ih (s := s.skip 1) hs
      rw [List.foldl_cons, h.step_eq hs, hrest, Scan.skip_skip, List.length_cons, Nat.add_comm]
  | @comment opening closing inside lines hopen hinside hclose _ ih =>
      have hcomment := foldl_inside (c := c)
        (s := { s.skip 1 with mode := .comment (s.lineNumber + 1) }) rfl hinside
      rw [List.foldl_cons, hopen.step_eq hs, List.foldl_append, hcomment, List.foldl_cons,
        step_of_comment rfl, if_pos hclose, ih rfl]
      simp only [Scan.skip, hs, List.length_cons, List.length_append, Scan.mk.injEq, true_and, and_true]
      omega

/-! ## Putting noise into a source -/

/-- The error of a scan whose lines stand further down. -/
def ScanError.later (n : Nat) : ScanError → ScanError
  | .unclosedComment line => .unclosedComment (n + line)
  | .unclosedDescription line => .unclosedDescription (n + line)
  | other => other

theorem run_noise (hpre : (Scan.run c pre).mode = .normal) (h : Noise inserted) :
    Scan.run c (pre ++ inserted) = (Scan.run c pre).skip inserted.length := by
  rw [Scan.run, List.foldl_append]
  exact h.foldl_eq hpre

/-- After noise the scan of the other lines is the same one, further down. -/
theorem run_insert (hpre : (Scan.run c pre).mode = .normal) (h : Noise inserted) :
    Scan.run c (pre ++ inserted ++ post) =
      (Scan.run c (pre ++ post)).after { lineNumber := inserted.length } := by
  have hskip : (Scan.run c pre).skip inserted.length =
      (Scan.run c pre).after { lineNumber := inserted.length } := by
    simp [Scan.skip, Scan.after, hpre, Mode.later, Findings.append, Nat.add_comm]
  calc Scan.run c (pre ++ inserted ++ post)
      = post.foldl (fun s line => s.step c (Scan.withoutLineEnd line)) (Scan.run c (pre ++ inserted)) :=
        List.foldl_append
    _ = post.foldl (fun s line => s.step c (Scan.withoutLineEnd line))
          ((Scan.run c pre).after { lineNumber := inserted.length }) := by
        rw [run_noise hpre h, hskip]
    _ = (post.foldl (fun s line => s.step c (Scan.withoutLineEnd line)) (Scan.run c pre)).after
          { lineNumber := inserted.length } := foldl_step_after post _ _
    _ = (Scan.run c (pre ++ post)).after { lineNumber := inserted.length } := by
        rw [Scan.run, Scan.run, List.foldl_append]

theorem finish_after (s : Scan) (n : Nat) :
    (s.after { lineNumber := n }).finish = s.finish.mapError (ScanError.later n) := by
  unfold Scan.finish
  cases hmode : s.mode with
  | normal => simp [Scan.after, hmode, Mode.later, Findings.append, Except.mapError]
  | comment opened => simp [Scan.after, hmode, Mode.later, Except.mapError, ScanError.later]
  | description opened parts closed =>
      simp [Scan.after, hmode, Mode.later, Except.mapError, ScanError.later]

/-- Noise put between two lines of a source, where the lines before it can be scanned on their own, is
invisible: the source declares the same, or is refused for the same reason further down. After the noise
the scan stands where it stood before, with the description that was waiting. -/
theorem scanLines_insert_noise (hpre : ∃ found, scanLines c pre = .ok found) (h : Noise inserted)
    (post : List String) :
    (∀ found, scanLines c (pre ++ inserted ++ post) = .ok found ↔
      scanLines c (pre ++ post) = .ok found) ∧
    (∀ e, scanLines c (pre ++ post) = .error e →
      scanLines c (pre ++ inserted ++ post) = .error (e.later inserted.length)) ∧
    Scan.run c (pre ++ inserted) =
      { Scan.run c pre with lineNumber := (Scan.run c pre).lineNumber + inserted.length } := by
  obtain ⟨found, hfound⟩ := hpre
  have hmode := (scanLines_eq_ok_iff.mp hfound).1
  have hscan : scanLines c (pre ++ inserted ++ post) =
      (scanLines c (pre ++ post)).mapError (ScanError.later inserted.length) := by
    rw [scanLines, run_insert hmode h, finish_after, scanLines]
  refine ⟨fun found => ?_, fun e he => ?_, run_noise hmode h⟩
  · rw [hscan]
    cases scanLines c (pre ++ post) with
    | ok found' => simp [Except.mapError]
    | error e => simp [Except.mapError]
  · rw [hscan, he]
    rfl

/-- Lines that look like declarations and decorators: set in, in a comment that a stroke after its mark
does not close, behind the mark that closes it, and after a comment on one line. -/
def disguised : List String :=
  ["  module x 'y'\n", "/*/", "@description('lost')", "*/ module a 'b'", "\t", "// var v = 1",
    "/* */ resource r 's'"]

theorem noise_disguised : Noise disguised := by
  have hcomment : Quiet "/* */ resource r 's'" :=
    @Quiet.comment _ " */ resource r 's'".toList (by decide) (by decide)
  have hafter : Noise ["\t", "// var v = 1", "/* */ resource r 's'"] :=
    .quiet (.blank (by decide)) (.quiet (.remark (by decide)) (.quiet hcomment .nil))
  refine .quiet (.indented ⟨' ', rfl, by decide⟩ (by decide)) ?_
  exact @Noise.comment _ _ ["@description('lost')"] _ ⟨['/'], by decide, by decide⟩ (by decide)
    (by decide) hafter

theorem scanLines_insert_noise_disguised :
    (∃ found, scanLines true ["@description('kept')"] = .ok found) ∧ Noise disguised ∧
      scanLines true (["@description('kept')"] ++ disguised ++ ["module m 'n'"]) =
        .ok { modules := [{ name := "m", source := "n", description := "kept" }] } := by
  have hpre : ∃ found, scanLines true ["@description('kept')"] = .ok found :=
    ⟨_, scanLines_eq_ok_iff.mpr ⟨by decide, rfl⟩⟩
  have hfound : (Scan.run true (["@description('kept')"] ++ ["module m 'n'"])).found =
      { modules := [{ name := "m", source := "n", description := "kept" }] } := by rfl
  have hplain : scanLines true (["@description('kept')"] ++ ["module m 'n'"]) =
      .ok { modules := [{ name := "m", source := "n", description := "kept" }] } :=
    scanLines_eq_ok_iff.mpr ⟨by decide, by rw [hfound]; simp [Findings.sorted, sortByName]⟩
  obtain ⟨hiff, -⟩ := scanLines_insert_noise hpre noise_disguised ["module m 'n'"]
  exact ⟨hpre, noise_disguised, (hiff _).mpr hplain⟩

end TemplateDocs.Source
