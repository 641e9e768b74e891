import TemplateDocs.Page.Document
import TemplateDocs.Proofs.Page.Columns
import TemplateDocs.Proofs.Page.Tables
import TemplateDocs.Proofs.Text.Split

/-! # How a document is put together

The text of every section that is not empty starts with a heading and ends in exactly one line feed. So
nothing of a section is lost where the line feeds at the end of the document are cut off, and the
document is the title and the texts of the sections, each after an empty line.
-/

namespace TemplateDocs

open List Text

/-! ## Texts with one line feed at their end -/

/-- The text ends in exactly one line feed. -/
def EndsOnce (s : String) : Prop :=
  ∃ cs c, s.toList = cs ++ [c, '\n'] ∧ c ≠ '\n'

theorem EndsOnce.of_suffix {s part : String} (h : EndsOnce part) (hsuffix : part.toList <:+ s.toList) :
    EndsOnce s := by
  obtain ⟨cs, c, hpart, hc⟩ := h
  obtain ⟨front, hfront⟩ := hsuffix
  exact ⟨front ++ cs, c, by rw [← hfront, hpart, List.append_assoc], hc⟩

theorem endsOnce_append_newline {s : String} (hne : s ≠ "") (hlast : s.toList.getLast? ≠ some '\n') :
    EndsOnce (s ++ "\n") := by
  obtain ⟨cs, c, hs⟩ := List.eq_nil_or_concat' s.toList |>.resolve_left (by simpa using hne)
  rw [hs, List.getLast?_concat] at hlast
  refine ⟨cs, c, ?_, fun hc => hlast (by rw [hc])⟩
  rw [String.toList_append, hs]
  simp

/-- Cutting off the line feeds at the end and adding one changes nothing. -/
theorem EndsOnce.trimmed {s : String} (h : EndsOnce s) :
    String.ofList ((s.toList.reverse.dropWhile (· == '\n')).reverse ++ ['\n']) = s := by
  obtain ⟨cs, c, hs, hc⟩ := h
  have hdrop : (s.toList.reverse.dropWhile (· == '\n')).reverse = cs ++ [c] := by
    simp [hs, hc]
  rw [hdrop, ← String.toList_inj, String.toList_ofList, hs]
  simp

/-- Lines of which the last one is empty, and the one before it says something. -/
theorem endsOnce_join {front : List String} {last : String} (hne : last ≠ "")
    (hlast : last.toList.getLast? ≠ some '\n') : EndsOnce (join "\n" (front ++ [last, ""])) := by
  refine (endsOnce_append_newline hne hlast).of_suffix ?_
  have hsuffix : ['\n'].intercalate [last.toList, []] <:+
      ['\n'].intercalate (front.map String.toList ++ [last.toList, []]) :=
    intercalate_suffix _ _ (by simp)
  rw [join, String.toList_intercalate, List.map_append]
  simpa using hsuffix

/-! ## Sections -/

/-- The text of a section: a heading at its start and one line feed at its end. -/
structure IsPart (text : String) : Prop where
  starts : "## ".toList <+: text.toList
  ends : EndsOnce text

theorem getLast?_row (cells : List String) : (Table.row cells).toList.getLast? = some '|' := by
  rw [Table.row, String.toList_append, List.getLast?_append]
  rfl

theorem endsOnce_table (t : Table) : EndsOnce t.text := by
  -- The last row that says something is that of the dashes if nothing is listed.
  have hlines : ∃ front cells, t.lines = front ++ [Table.row cells, ""] := by
    rcases List.eq_nil_or_concat' t.rows with hrows | ⟨rows, cells, hrows⟩
    · exact ⟨[t.heading, "", Table.row t.headers], t.headers.map fun _ => "---", by
        simp [Table.lines, hrows]⟩
    · exact ⟨[t.heading, "", Table.row t.headers, Table.row (t.headers.map fun _ => "---")] ++
        rows.map Table.row, cells, by simp [Table.lines, hrows]⟩
  obtain ⟨front, cells, hlines⟩ := hlines
  have hlast := getLast?_row cells
  rw [Table.text, hlines]
  refine endsOnce_join (fun hempty => ?_) (by simp [hlast])
  simp [hempty] at hlast

theorem starts_table {t : Table} (h : t.level = 2) : "## ".toList <+: t.text.toList := by
  have hheading : "## ".toList <+: t.heading.toList := by
    simp [Table.heading, h, List.replicate]
  rw [Table.text, join, String.toList_intercalate, Table.lines]
  exact hheading.trans (prefix_intercalate _ _ _)

theorem lineFeed_not_mem_oneLine (s : String) : '\n' ∉ (Cell.oneLine s).toList := by
  rw [Cell.oneLine, String.toList_ofList]
  intro hmem
  obtain ⟨c, -, hc⟩ := List.mem_flatMap.mp hmem
  split at hc
  case isTrue => exact absurd hc (by decide)
  case isFalse hne => exact hne (by simp [← List.mem_singleton.mp hc])

namespace Page

variable {t : Template} {w : Bool} {s : Section} {text : String}

theorem isPart_descriptionText (h : descriptionText t ≠ "") : IsPart (descriptionText t) := by
  unfold descriptionText at h ⊢
  generalize hdescription : Cell.description t.metadata = description at h ⊢
  have hfeed : '\n' ∉ description.toList := hdescription ▸ lineFeed_not_mem_oneLine _
  dsimp only at h ⊢
  split at h
  case isTrue => exact absurd rfl h
  case isFalse hne =>
    rw [if_neg hne]
    constructor
    · simp
    · refine (endsOnce_append_newline (s := description) (by simpa using hne) ?_).of_suffix ?_
      · exact fun hlast => hfeed (List.mem_of_getLast? hlast)
      · exact ⟨"## Description\n\n".toList, by simp⟩

theorem isPart_usageText (h : usageText t = .ok text) : IsPart text := by
  obtain ⟨optional, -, h⟩ := bind_eq_ok_iff.mp h
  cases h
  constructor
  · rw [join, String.toList_intercalate]
    exact List.IsPrefix.trans (by decide) (prefix_intercalate _ "## Usage".toList _)
  · have hnote : ["  \x7d", "\x7d", "```", "", usageNote, ""] =
        ["  \x7d", "\x7d", "```", ""] ++ [usageNote, ""] := rfl
    rw [hnote, ← List.append_assoc]
    exact endsOnce_join (by decide) (by decide +kernel)

theorem isPart_tables {ts : List Table} (h : tables t w s = .ok ts) (hne : ts ≠ []) :
    IsPart (join "\n" (ts.map Table.text)) := by
  constructor
  · obtain ⟨first, others, rfl⟩ := List.exists_cons_of_ne_nil hne
    rw [join, String.toList_intercalate, List.map_cons, List.map_cons]
    exact (starts_table (level_of_tables h)).trans (prefix_intercalate _ _ _)
  · obtain ⟨front, last, rfl⟩ := List.eq_nil_or_concat' ts |>.resolve_left hne
    refine (endsOnce_table last).of_suffix ?_
    have hsuffix : ['\n'].intercalate [last.text.toList] <:+
        ['\n'].intercalate (front.map (String.toList ∘ Table.text) ++ [last.text.toList]) :=
      intercalate_suffix _ _ (by simp)
    rw [join, String.toList_intercalate]
    simpa using hsuffix

/-- The text of a section is empty, or it has a heading and one line feed at its end. -/
theorem isPart_sectionText (h : sectionText t w s = .ok text) (hne : text ≠ "") : IsPart text := by
  by_cases hdescription : s = .description
  · subst hdescription
    cases h
    exact isPart_descriptionText hne
  by_cases husage : s = .usage
  · subst husage
    exact isPart_usageText h
  rw [sectionText_tables t w hdescription husage] at h
  cases htables : tables t w s with
  | error e =>
      rw [htables] at h
      cases h
  | ok ts =>
      rw [htables] at h
      cases h
      refine isPart_tables htables fun hnil => hne ?_
      rw [hnil]
      rfl

/-! ## Documents -/

/-- What a section adds to the document: an empty line and its text, or nothing if it has no text. -/
def addition (text : String) : String :=
  if text = "" then "" else "\n" ++ text

theorem toList_additions (texts : List String) :
    (String.join (texts.map addition)).toList =
      ((texts.filter (· != "")).map String.toList).flatMap ('\n' :: ·) := by
  induction texts with
  | nil => rfl
  | cons text texts ih =>
      rw [List.map_cons, String.join_cons, String.toList_append, ih]
      by_cases htext : text = ""
      · simp [htext, addition]
      · simp [htext, addition]

/-- An empty line before each part that says something, instead of between the parts. -/
theorem join_parts (opening : String) (texts : List String) :
    join "\n" (opening :: texts.filter (· != "")) =
      opening ++ String.join (texts.map addition) := by
  have hfeeds : '\n' :: ['\n'].intercalate ((opening :: texts.filter (· != "")).map String.toList) = _ :=
    newline_intercalate (by simp)
  rw [List.map_cons, List.flatMap_cons, ← toList_additions, List.cons_append,
    List.cons.injEq] at hfeeds
  rw [← String.toList_inj, join, String.toList_intercalate, List.map_cons, String.toList_append]
  exact hfeeds.2

theorem endsOnce_parts {opening : String} {texts : List String}
    (hparts : ∀ text ∈ texts, text ≠ "" → EndsOnce text)
    (hend : (∃ text ∈ texts, text ≠ "") ∨ EndsOnce opening) :
    EndsOnce (join "\n" (opening :: texts.filter (· != ""))) := by
  rcases List.eq_nil_or_concat' (texts.filter (· != "")) with hnone | ⟨front, last, hfront⟩
  · rw [hnone]
    refine hend.resolve_left ?_
    rintro ⟨text, htext, hne⟩
    exact List.filter_eq_nil_iff.mp hnone text htext (by simpa using hne)
  · have hlast : last ∈ texts.filter (· != "") := by simp [hfront]
    rw [List.mem_filter] at hlast
    rw [hfront]
    refine (hparts last hlast.1 (by simpa using hlast.2)).of_suffix ?_
    have hsuffix : ['\n'].intercalate [last.toList] <:+
        ['\n'].intercalate ((opening :: front).map String.toList ++ [last.toList]) :=
      intercalate_suffix _ _ (by simp)
    rw [join, String.toList_intercalate, ← List.cons_append, List.map_append]
    simpa using hsuffix

theorem assemble_eq {title : String} {texts : List String}
    (hparts : ∀ text ∈ texts, text ≠ "" → EndsOnce text)
    (hend : (∃ text ∈ texts, text ≠ "") ∨ title.toList.getLast? ≠ some '\n') :
    assemble title texts = "# " ++ title ++ "\n" ++ String.join (texts.map addition) ∧
      EndsOnce (assemble title texts) := by
  have hopening : title.toList.getLast? ≠ some '\n' → EndsOnce ("# " ++ title ++ "\n") := by
    intro htitle
    refine endsOnce_append_newline (by simp) ?_
    rw [String.toList_append, List.getLast?_append]
    cases hlast : title.toList.getLast? with
    | none => decide
    | some c => simpa [hlast] using htitle
  have hends := endsOnce_parts hparts (hend.imp_right hopening)
  rw [assemble, hends.trimmed]
  exact ⟨join_parts _ _, hends⟩

theorem document_known_eq_ok {sections : List Section} :
    document t (sections.map .known) w = .ok text ↔
      ∃ texts, Forall₂ (fun s x => sectionText t w s = .ok x) sections texts ∧
        text = assemble t.title texts := by
  rw [document, bind_eq_ok_iff]
  simp only [mapM_eq_ok_iff, List.forall₂_map_left_iff, requestText, pure, Except.pure,
    Except.ok.injEq, eq_comm (b := text)]

/-- A document is the title and what each requested section adds, in the order of the requests. It is
there exactly if all sections are, and ends in exactly one line feed if some section has a text or the
title does not end in a line feed. A section that has a text starts with a heading and ends in exactly
one line feed, so that one empty line stands between the parts. -/
theorem document_eq_ok_iff {sections : List Section}
    (hend : (∃ s ∈ sections, ∃ x, sectionText t w s = .ok x ∧ x ≠ "") ∨
      t.title.toList.getLast? ≠ some '\n') :
    (document t (sections.map .known) w = .ok text ↔
      ∃ texts, Forall₂ (fun s x => sectionText t w s = .ok x) sections texts ∧
        text = "# " ++ t.title ++ "\n" ++ String.join (texts.map addition)) ∧
    (document t (sections.map .known) w = .ok text → EndsOnce text) ∧
    ∀ s ∈ sections, ∀ x, sectionText t w s = .ok x → x ≠ "" → IsPart x := by
  have hparts : ∀ s ∈ sections, ∀ x, sectionText t w s = .ok x → x ≠ "" → IsPart x :=
    fun s _ x hx hne => isPart_sectionText hx hne
  -- The last part ends in one line feed, so the cut at the end of the document takes nothing else.
  have hassembled : ∀ texts, Forall₂ (fun s x => sectionText t w s = .ok x) sections texts →
      assemble t.title texts = "# " ++ t.title ++ "\n" ++ String.join (texts.map addition) ∧
        EndsOnce (assemble t.title texts) := by
    intro texts htexts
    refine assemble_eq ?_ (hend.imp_left ?_)
    · intro x hx hne
      obtain ⟨s, -, hs⟩ := exists_of_mem_forall₂ htexts hx
      exact (isPart_sectionText hs hne).ends
    · rintro ⟨s, hs, x, hx, hne⟩
      obtain ⟨y, hy, hsy⟩ := exists_of_mem_forall₂ htexts.flip hs
      rw [hx] at hsy
      cases hsy
      exact ⟨x, hy, hne⟩
  refine ⟨?_, ?_, hparts⟩
  · rw [document_known_eq_ok]
    refine exists_congr fun texts => and_congr_right fun htexts => ?_
    rw [(hassembled texts htexts).1]
  · intro h
    obtain ⟨texts, htexts, rfl⟩ := document_known_eq_ok.mp h
    exact (hassembled texts htexts).2

/-- A title that ends in a line feed, a section that is asked for twice and one that is empty. -/
theorem document_eq_ok_iff_twice :
    document { metadata := some { name := some "a\n", description := some "b\r\nc" } }
        ([.description, .vars, .description].map .known) true =
      .ok "# a\n\n\n## Description\n\nb<br>c\n\n## Description\n\nb<br>c\n" := by
  refine (document_eq_ok_iff (.inl ⟨.description, by decide, _, rfl, by decide⟩)).1.mpr ?_
  exact ⟨["## Description\n\nb<br>c\n", "", "## Description\n\nb<br>c\n"],
    .cons rfl (.cons rfl (.cons rfl .nil)), by decide⟩

end Page

end TemplateDocs
