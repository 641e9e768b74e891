import TemplateDocs.Proofs.Source.Noise

/-! # Headers of modules and resources

A header names what is declared and gives a quoted text, the source of a module or the type of a
resource. The quoted text is taken to reach to the last quote before a blank: a text with a blank is not
found at all, and a tail that goes on without a blank and has further quotes runs on into the text.
-/

namespace TemplateDocs.Source

open Text

variable {c : Bool} {pre : List String} {keyword name text tail : String}

/-! ## The parts of a header -/

/-- The header of a declaration with a quoted text. -/
def headerLine (keyword name text tail : String) : String :=
  keyword ++ " " ++ name ++ " '" ++ text ++ "'" ++ tail

/-- No blank stands in the text. -/
def Solid (text : String) : Prop :=
  ∀ ch ∈ text.toList, isBlank ch = false

instance (text : String) : Decidable (Solid text) :=
  List.decidableBAll (fun ch => isBlank ch = false) text.toList

/-- A name, a text to be quoted, and a tail that a blank or an equals sign sets off. -/
structure HeaderParts (name text tail : String) : Prop where
  name_ne : name ≠ ""
  name_solid : Solid name
  text_ne : text ≠ ""
  text_unquoted : '\'' ∉ text.toList
  tail_start : ∀ ch ∈ tail.toList.head?, isBlank ch = true ∨ ch = '='

/-- The characters of a tail before its first blank. -/
def firstRun (tail : String) : List Char :=
  tail.toList.takeWhile fun ch => !isBlank ch

/-- What a tail adds to the quoted text: all before the last quote of its first run, quotes left out. -/
def runOn (tail : String) : String :=
  String.ofList ((dropEnd (· != '\'') (firstRun tail)).dropLast.filter (· != '\''))

/-- The part of a text before its first at sign. -/
def beforeVersion (text : String) : String :=
  String.ofList (text.toList.takeWhile (· != '@'))

/-- The scan one line later, with one more module and no description waiting. -/
def Scan.withModule (s : Scan) (name source : String) : Scan :=
  { s with
    pending := ""
    lineNumber := s.lineNumber + 1
    found := { s.found with
      modules := s.found.modules ++ [{ name, source, description := s.pending }] } }

/-- The scan one line later, with one more resource and no description waiting. -/
def Scan.withResource (s : Scan) (name type : String) : Scan :=
  { s with
    pending := ""
    lineNumber := s.lineNumber + 1
    found := { s.found with
      resources := s.found.resources ++ [{ name, type, description := s.pending }] } }

/-! ## Up to the last quote -/

theorem untilLastQuote?_eq (run : List Char) :
    untilLastQuote? run = if (dropEnd (· != '\'') run).length ≤ 1 then none
      else some (dropEnd (· != '\'') run).dropLast := by
  unfold untilLastQuote? dropEnd
  generalize run.reverse.dropWhile (· != '\'') = back
  match back with
  | [] => rfl
  | [_] => rfl
  | _ :: _ :: _ => simp

theorem dropEnd_of_no_quote {run : List Char} (h : '\'' ∉ run) : dropEnd (· != '\'') run = [] := by
  rw [dropEnd, List.reverse_eq_nil_iff, List.dropWhile_eq_nil_iff]
  intro ch hch
  exact bne_iff_ne.mpr fun heq => h (heq ▸ List.mem_reverse.mp hch)

theorem untilLastQuote?_of_no_quote {run : List Char} (h : '\'' ∉ run) : untilLastQuote? run = none := by
  rw [untilLastQuote?_eq, dropEnd_of_no_quote h]
  rfl

theorem untilLastQuote?_append {front : List Char} (hne : front ≠ []) (run : List Char) :
    untilLastQuote? (front ++ '\'' :: run) =
      some (front ++ ('\'' :: dropEnd (· != '\'') run).dropLast) := by
  have hlength := List.length_pos_iff.mpr hne
  rw [untilLastQuote?_eq, dropEnd_append_cons (by decide), List.dropLast_append_cons, if_neg]
  rw [List.length_append, List.length_cons]
  omega

/-! ## The tail -/

theorem runOn_of_no_quote (h : '\'' ∉ firstRun tail) : runOn tail = "" := by
  rw [runOn, dropEnd_of_no_quote h]
  rfl

/-- A tail that runs on brings its equals sign into the text. -/
theorem runOn_of_quote (hstart : ∀ ch ∈ tail.toList.head?, isBlank ch = true ∨ ch = '=')
    (h : '\'' ∈ firstRun tail) : ∃ more, (runOn tail).toList = '=' :: more := by
  rw [runOn, String.toList_ofList]
  unfold firstRun at h ⊢
  cases htail : tail.toList with
  | nil =>
      rw [htail] at h
      cases h
  | cons ch rest =>
      rw [htail] at h hstart
      rcases hstart ch rfl with hblank | rfl
      · simp [hblank] at h
      · have hrun : ('=' :: rest).takeWhile (fun ch => !isBlank ch) =
            '=' :: rest.takeWhile fun ch => !isBlank ch := rfl
        rw [hrun] at h ⊢
        obtain ⟨front, back, hsplit⟩ := List.append_of_mem (List.mem_of_ne_of_mem (by decide) h)
        rw [hsplit, ← List.cons_append, dropEnd_append_cons (by decide), List.dropLast_append_cons,
          List.cons_append, List.filter_cons_of_pos (by decide)]
        exact ⟨_, rfl⟩

/-! ## What a header says -/

theorem withoutLineEnd_headerLine (keyword name text tail : String) :
    Scan.withoutLineEnd (headerLine keyword name text tail) =
      keyword.toList ++ ' ' :: (name.toList ++ ' ' :: '\'' ::
        (text.toList ++ '\'' :: dropEnd isFileLineEnd tail.toList)) := by
  have hline : (headerLine keyword name text tail).toList =
      (keyword.toList ++ ' ' :: (name.toList ++ ' ' :: '\'' :: text.toList)) ++ '\'' :: tail.toList := by
    simp [headerLine, String.toList_append]
  rw [Scan.withoutLineEnd, hline, dropEnd_append_cons (by decide)]
  simp

theorem header?_append {name : List Char} (hne : name ≠ []) (hname : ∀ ch ∈ name, isBlank ch = false)
    (rest : List Char) :
    header? keyword (keyword.toList ++ ' ' :: (name ++ ' ' :: '\'' :: rest)) =
      (untilLastQuote? (rest.takeWhile fun ch => !isBlank ch)).map fun body => (name, body) := by
  have hsolid : ∀ ch ∈ name, (!isBlank ch) = true := by simpa using hname
  have hfront : trimLeft (name ++ ' ' :: '\'' :: rest) = name ++ ' ' :: '\'' :: rest := by
    obtain ⟨first, more, rfl⟩ := List.exists_cons_of_ne_nil hne
    have hfirst := hname first List.mem_cons_self
    rw [List.cons_append, trimLeft, List.dropWhile_cons_of_neg (by simp [hfirst])]
  have htake : (name ++ ' ' :: '\'' :: rest).takeWhile (fun ch => !isBlank ch) = name := by
    rw [List.takeWhile_append_of_pos hsolid]
    exact List.append_nil name
  have hdrop : (name ++ ' ' :: '\'' :: rest).dropWhile (fun ch => !isBlank ch) = ' ' :: '\'' :: rest :=
    List.dropWhile_append_of_pos hsolid
  have htrim : trimLeft (' ' :: '\'' :: rest) = '\'' :: rest := rfl
  rw [header?, afterKeyword?_append rfl, hfront, Option.bind_some]
  simp only [htake, hdrop, htrim, List.isEmpty_eq_false_iff.mpr hne]
  rfl

theorem header?_headerLine (h : HeaderParts name text tail) :
    header? keyword (Scan.withoutLineEnd (headerLine keyword name text tail)) =
      if Solid text then
        some (name.toList, text.toList ++ ('\'' :: dropEnd (· != '\'') (firstRun tail)).dropLast)
      else none := by
  have hname : name.toList ≠ [] := by simpa using h.name_ne
  have htext : text.toList ≠ [] := by simpa using h.text_ne
  rw [withoutLineEnd_headerLine, header?_append hname h.name_solid]
  split
  case isTrue hsolid =>
    have hrun : (dropEnd isFileLineEnd tail.toList).takeWhile (fun ch => !isBlank ch) = firstRun tail :=
      takeWhile_dropEnd (fun ch hch => by simp [isBlank_of_isFileLineEnd hch]) _
    have hsolid' : ∀ ch ∈ text.toList, (!isBlank ch) = true := by simpa [Solid] using hsolid
    rw [List.takeWhile_append_of_pos hsolid', List.takeWhile_cons_of_pos (by decide), hrun,
      untilLastQuote?_append htext]
    rfl
  case isFalse hsolid =>
    have hshort : (text.toList.takeWhile fun ch => !isBlank ch).length ≠ text.toList.length := by
      intro hlength
      have hall := (List.takeWhile_prefix _).eq_of_length hlength
      exact hsolid (by simpa [Solid] using List.takeWhile_eq_self_iff.mp hall)
    have hnone : '\'' ∉ text.toList.takeWhile fun ch => !isBlank ch := fun hquote =>
      h.text_unquoted ((List.takeWhile_prefix _).subset hquote)
    rw [List.takeWhile_append, if_neg hshort, untilLastQuote?_of_no_quote hnone]
    rfl

theorem filter_body (h : '\'' ∉ text.toList) :
    (text.toList ++ ('\'' :: dropEnd (· != '\'') (firstRun tail)).dropLast).filter (· != '\'') =
      (text ++ runOn tail).toList := by
  have htext : text.toList.filter (· != '\'') = text.toList :=
    List.filter_eq_self.mpr fun ch hch => bne_iff_ne.mpr fun heq => h (heq ▸ hch)
  rw [String.toList_append, runOn, String.toList_ofList, List.filter_append, htext]
  cases dropEnd (· != '\'') (firstRun tail) <;> rfl

theorem readModule?_headerLine (h : HeaderParts name text tail) :
    readModule? (Scan.withoutLineEnd (headerLine "module" name text tail)) =
      if Solid text then some (name, text ++ runOn tail) else none := by
  rw [readModule?, header?_headerLine h]
  split
  · simp only [Option.map_some, unquoted, filter_body h.text_unquoted, String.ofList_toList]
  · rfl

theorem readResource?_headerLine (h : HeaderParts name text tail) :
    readResource? (Scan.withoutLineEnd (headerLine "resource" name text tail)) =
      if Solid text then some (name, beforeVersion (text ++ runOn tail)) else none := by
  rw [readResource?, header?_headerLine h]
  split
  · have hswap (cs : List Char) : (cs.takeWhile (· != '@')).filter (· != '\'') =
        (cs.filter (· != '\'')).takeWhile (· != '@') := by
      rw [List.takeWhile_filter]
      congr 2
      funext ch
      by_cases hch : ch = '\'' <;> simp [hch]
    simp only [Option.map_some, unquoted, hswap, filter_body h.text_unquoted, String.ofList_toList,
      beforeVersion]
  · rfl

/-- A line with the first letter of a header is a header or says nothing. -/
theorem ofList_of_initial {d : Char} (hd : d ∈ ['m', 'r']) (cs : List Char) :
    Line.ofList c (d :: cs) =
      match readModule? (d :: cs) with
      | some (name, source) => .module name source
      | none =>
        match readResource? (d :: cs) with
        | some (name, type) => .resource name type
        | none => .silent := by
  have hinitial : d = 'm' ∨ d = 'r' := by simpa using hd
  obtain ⟨hblank, hstroke, hat⟩ : isBlank d = false ∧ '/' ≠ d ∧ '@' ≠ d := by
    rcases hinitial with rfl | rfl <;> decide
  have hkeywords : ∀ keyword ∈ describedElsewhere, (keyword.toList.head?.any (· != d)) = true := by
    rcases hinitial with rfl | rfl <;> decide
  have hvar : afterKeyword? "var" (d :: cs) = none := afterKeyword?_of_ne (hkeywords "var" (by decide))
  rw [ofList_eq_ofCode hblank hstroke]
  simp only [Line.ofCode, inlineDescription?, openDescription?, readVariable?, decorated?_of_ne hat,
    hvar, isOtherDeclaration_of_ne hkeywords, Option.bind_none, Option.map_none, ite_self]
  rfl

theorem ofList_moduleLine (h : HeaderParts name text tail) :
    Line.ofList c (Scan.withoutLineEnd (headerLine "module" name text tail)) =
      if Solid text then .module name (text ++ runOn tail) else .silent := by
  obtain ⟨cs, hcs⟩ : ∃ cs, Scan.withoutLineEnd (headerLine "module" name text tail) = 'm' :: cs :=
    ⟨_, withoutLineEnd_headerLine "module" name text tail⟩
  have hmodule := readModule?_headerLine h
  rw [hcs] at hmodule ⊢
  have hresource : readResource? ('m' :: cs) = none := by
    rw [readResource?, header?, afterKeyword?_of_ne (by decide)]
    rfl
  rw [ofList_of_initial (by simp), hmodule, hresource]
  by_cases hsolid : Solid text
  · simp only [hsolid, if_true]
  · simp only [hsolid, if_false]

theorem ofList_resourceLine (h : HeaderParts name text tail) :
    Line.ofList c (Scan.withoutLineEnd (headerLine "resource" name text tail)) =
      if Solid text then .resource name (beforeVersion (text ++ runOn tail)) else .silent := by
  obtain ⟨cs, hcs⟩ : ∃ cs, Scan.withoutLineEnd (headerLine "resource" name text tail) = 'r' :: cs :=
    ⟨_, withoutLineEnd_headerLine "resource" name text tail⟩
  have hresource := readResource?_headerLine h
  rw [hcs] at hresource ⊢
  have hmodule : readModule? ('r' :: cs) = none := by
    rw [readModule?, header?, afterKeyword?_of_ne (by decide)]
    rfl
  rw [ofList_of_initial (by simp), hmodule, hresource]
  by_cases hsolid : Solid text
  · simp only [hsolid, if_true]
  · simp only [hsolid, if_false]

/-! ## What a header does to a scan -/

theorem run_concat_of_module {header source : String} (hpre : (Scan.run c pre).mode = .normal)
    (h : Line.ofList c (Scan.withoutLineEnd header) = .module name source) :
    Scan.run c (pre ++ [header]) = (Scan.run c pre).withModule name source := by
  rw [run_concat, step_of_normal hpre, h]
  rfl

theorem run_concat_of_resource {header type : String} (hpre : (Scan.run c pre).mode = .normal)
    (h : Line.ofList c (Scan.withoutLineEnd header) = .resource name type) :
    Scan.run c (pre ++ [header]) = (Scan.run c pre).withResource name type := by
  rw [run_concat, step_of_normal hpre, h]
  rfl

theorem run_concat_of_silent {line : String} (hpre : (Scan.run c pre).mode = .normal)
    (h : Line.ofList c (Scan.withoutLineEnd line) = .silent) :
    Scan.run c (pre ++ [line]) = (Scan.run c pre).skip 1 := by
  rw [run_concat, step_of_normal hpre, h]
  rfl

theorem withModule_inj {s : Scan} {source source' : String} :
    s.withModule name source = s.withModule name source' ↔ source = source' := by
  simp [Scan.withModule]

theorem withResource_inj {s : Scan} {type type' : String} :
    s.withResource name type = s.withResource name type' ↔ type = type' := by
  simp [Scan.withResource]

theorem skip_ne_withModule {s : Scan} {source : String} : s.skip 1 ≠ s.withModule name source := by
  intro h
  have hlength := congrArg (fun s => s.found.modules.length) h
  simp [Scan.skip, Scan.withModule] at hlength

theorem skip_ne_withResource {s : Scan} {type : String} : s.skip 1 ≠ s.withResource name type := by
  intro h
  have hlength := congrArg (fun s => s.found.resources.length) h
  simp [Scan.skip, Scan.withResource] at hlength

theorem append_runOn_eq_iff (hstart : ∀ ch ∈ tail.toList.head?, isBlank ch = true ∨ ch = '=') :
    text ++ runOn tail = text ↔ '\'' ∉ firstRun tail := by
  refine ⟨fun heq hquote => ?_, fun hquote => ?_⟩
  · obtain ⟨more, hmore⟩ := runOn_of_quote hstart hquote
    have hlength := congrArg (fun s => s.toList.length) heq
    simp [String.toList_append, hmore] at hlength
  · rw [runOn_of_no_quote hquote, String.append_empty]

/-- The version ends the type, so nothing behind it matters; without one, all that is taken does. -/
theorem beforeVersion_append_runOn_eq_iff
    (hstart : ∀ ch ∈ tail.toList.head?, isBlank ch = true ∨ ch = '=') :
    beforeVersion (text ++ runOn tail) = beforeVersion text ↔
      '@' ∈ text.toList ∨ '\'' ∉ firstRun tail := by
  by_cases hat : '@' ∈ text.toList
  · have hshort : (text.toList.takeWhile (· != '@')).length ≠ text.toList.length := by
      intro hlength
      have hall := List.takeWhile_eq_self_iff.mp ((List.takeWhile_prefix _).eq_of_length hlength)
      exact absurd (hall '@' hat) (by decide)
    have hsame : beforeVersion (text ++ runOn tail) = beforeVersion text := by
      rw [beforeVersion, String.toList_append, List.takeWhile_append, if_neg hshort, beforeVersion]
    exact ⟨fun _ => .inl hat, fun _ => hsame⟩
  · have hall : ∀ ch ∈ text.toList, (ch != '@') = true := fun ch hch =>
      bne_iff_ne.mpr fun heq => hat (heq ▸ hch)
    have htext : beforeVersion text = text := by
      rw [beforeVersion, List.takeWhile_eq_self_iff.mpr hall, String.ofList_toList]
    rw [or_iff_right hat, htext]
    refine ⟨fun heq hquote => ?_, fun hquote => ?_⟩
    · obtain ⟨more, hmore⟩ := runOn_of_quote hstart hquote
      have hlength := congrArg (fun s => s.toList.length) heq
      rw [beforeVersion, String.toList_append, List.takeWhile_append_of_pos hall, hmore] at hlength
      simp at hlength
    · rw [runOn_of_no_quote hquote, String.append_empty, htext]

/-- A header gives back its quoted text exactly if the text has no blank and no quote stands in the tail
before a blank; the type of a resource also if it has a version. Otherwise a header with a blank in its
text is passed over, and the description that waits for it is left to the next one; and any other header
takes in what the tail has before its last quote. -/
theorem header_recovered_iff (hpre : (Scan.run c pre).mode = .normal) (h : HeaderParts name text tail) :
    (Scan.run c (pre ++ [headerLine "module" name text tail]) = (Scan.run c pre).withModule name text ↔
      Solid text ∧ '\'' ∉ firstRun tail) ∧
    (Scan.run c (pre ++ [headerLine "resource" name text tail]) =
        (Scan.run c pre).withResource name (beforeVersion text) ↔
      Solid text ∧ ('@' ∈ text.toList ∨ '\'' ∉ firstRun tail)) ∧
    (Solid text →
      Scan.run c (pre ++ [headerLine "module" name text tail]) =
        (Scan.run c pre).withModule name (text ++ runOn tail) ∧
      Scan.run c (pre ++ [headerLine "resource" name text tail]) =
        (Scan.run c pre).withResource name (beforeVersion (text ++ runOn tail))) ∧
    (¬ Solid text →
      Scan.run c (pre ++ [headerLine "module" name text tail]) = (Scan.run c pre).skip 1 ∧
      Scan.run c (pre ++ [headerLine "resource" name text tail]) = (Scan.run c pre).skip 1) := by
  have hmodule := ofList_moduleLine (c := c) h
  have hresource := ofList_resourceLine (c := c) h
  by_cases hsolid : Solid text
  · rw [if_pos hsolid] at hmodule hresource
    rw [run_concat_of_module hpre hmodule, run_concat_of_resource hpre hresource, withModule_inj,
      withResource_inj, append_runOn_eq_iff h.tail_start, beforeVersion_append_runOn_eq_iff h.tail_start]
    simp [hsolid]
  · rw [if_neg hsolid] at hmodule hresource
    rw [run_concat_of_silent hpre hmodule, run_concat_of_silent hpre hresource]
    simp [hsolid, skip_ne_withModule, skip_ne_withResource]

/-- A header that goes on without a blank, behind a description. -/
theorem header_recovered_iff_close :
    (Scan.run true ["@description('d')"]).mode = .normal ∧ HeaderParts "m" "./m.bicep" "=\x7b 'x'" ∧
      Scan.run true (["@description('d')"] ++ [headerLine "module" "m" "./m.bicep" "=\x7b 'x'"]) =
        (Scan.run true ["@description('d')"]).withModule "m" "./m.bicep" := by
  have hpre : (Scan.run true ["@description('d')"]).mode = .normal := by decide
  have hparts : HeaderParts "m" "./m.bicep" "=\x7b 'x'" :=
    ⟨by decide, by decide, by decide, by decide, by simp⟩
  exact ⟨hpre, hparts, (header_recovered_iff hpre hparts).1.mpr ⟨by decide, by decide⟩⟩

/-- A source with a blank is lost, and its description goes to the next module; a tail with quotes that
goes on without a blank becomes part of the source. -/
theorem header_blank_lost_tail_taken :
    HeaderParts "m" "a b" "" ∧
    Scan.run true (["@description('d')"] ++ [headerLine "module" "m" "a b" ""]) ≠
      (Scan.run true ["@description('d')"]).withModule "m" "a b" ∧
    (Scan.run true ["@description('d')", headerLine "module" "m" "a b" "",
      headerLine "module" "n" "c" ""]).found.modules =
        [{ name := "n", source := "c", description := "d" }] ∧
    HeaderParts "m" "a" "=\x7bname:'x'\x7d" ∧
    (Scan.run true [headerLine "module" "m" "a" "=\x7bname:'x'\x7d"]).found.modules =
      [{ name := "m", source := "a=\x7bname:x" }] := by
  refine ⟨⟨by decide, by decide, by decide, by decide, by simp⟩, fun h => ?_, by decide,
    ⟨by decide, by decide, by decide, by decide, by simp⟩, by decide⟩
  have hlength := congrArg (fun s => s.found.modules.length) h
  exact absurd hlength (by decide)

end TemplateDocs.Source
