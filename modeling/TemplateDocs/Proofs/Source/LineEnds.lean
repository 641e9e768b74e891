import TemplateDocs.Proofs.Text.Unbroken
import TemplateDocs.Source.Scan

/-! # Line ends in what a scan finds

What a line says is made of characters of that line. The lines of a file have no line ends, so the
only ones in what is found are the line feeds that join the lines of a description.
-/

namespace TemplateDocs

open Text

/-! ## Cutting -/

namespace Text

variable {cs rest before after : List Char}

theorem dropStart?_subset {start : List Char} (h : dropStart? start cs = some rest) : rest ⊆ cs := by
  fun_induction dropStart? start cs with
  | case1 => exact Option.some.inj h ▸ List.Subset.refl _
  | case2 => cases h
  | case3 a start c cs _ ih => exact fun x hx => List.mem_cons_of_mem c (ih h hx)
  | case4 => cases h

theorem cutAt?_subset {mark : List Char} (h : cutAt? mark cs = some (before, after)) :
    before ⊆ cs := by
  induction cs generalizing before with
  | nil =>
      obtain ⟨rest, -, hcut⟩ := Option.map_eq_some_iff.mp h
      cases hcut
      exact List.nil_subset _
  | cons c cs ih =>
      rw [cutAt?] at h
      split at h
      · cases h
        exact List.nil_subset _
      · obtain ⟨⟨first, last⟩, hrest, hcut⟩ := Option.map_eq_some_iff.mp h
        cases hcut
        exact List.cons_subset_cons c (ih hrest)

theorem dropEnd_subset (p : Char → Bool) (cs : List Char) : dropEnd p cs ⊆ cs := fun _ hc =>
  List.mem_reverse.mp ((List.dropWhile_sublist p).subset (List.mem_reverse.mp hc))

theorem trim_subset (cs : List Char) : trim cs ⊆ cs :=
  List.Subset.trans (dropEnd_subset isBlank _) (List.dropWhile_sublist _).subset

end Text

/-! ## Findings -/

/-- Modules and resources found on lines without line ends, and descriptions without carriage
returns. -/
structure Findings.Plain (found : Findings) : Prop where
  modules : ∀ m ∈ found.modules, Unbroken m.name.toList ∧ Unbroken m.source.toList ∧
    '\r' ∉ m.description.toList
  resources : ∀ r ∈ found.resources, Unbroken r.name.toList ∧ Unbroken r.type.toList ∧
    '\r' ∉ r.description.toList
  vars : ∀ v ∈ found.vars, '\r' ∉ v.description.toList

namespace Source

variable {cs : List Char} {c : Bool}

/-! ## What a line says -/

/-- The texts that a reading gives stand on the line. -/
def Line.Within (cs : List Char) : Line → Prop
  | .description text => text.toList ⊆ cs
  | .opensDescription text => text.toList ⊆ cs
  | .module name source => name.toList ⊆ cs ∧ source.toList ⊆ cs
  | .resource name type => name.toList ⊆ cs ∧ type.toList ⊆ cs
  | _ => True

theorem decorated?_subset {rest : List Char} (h : decorated? cs = some rest) : rest ⊆ cs := by
  rcases Option.or_eq_some_iff.mp h with h | ⟨-, h⟩
  · exact dropStart?_subset h
  · exact dropStart?_subset h

theorem inlineBody?_subset {body : List Char} (h : inlineBody? cs = some body) : body ⊆ cs := by
  induction cs generalizing body with
  | nil => cases h
  | cons c cs ih =>
      rw [inlineBody?] at h
      split at h
      · cases h
        exact List.nil_subset _
      · split at h
        · cases h
        · obtain ⟨rest, hrest, rfl⟩ := Option.map_eq_some_iff.mp h
          exact List.cons_subset_cons c (ih hrest)

theorem inlineDescription?_subset {body : List Char} (h : inlineDescription? cs = some body) :
    body ⊆ cs := by
  obtain ⟨rest, hrest, hbody⟩ := Option.bind_eq_some_iff.mp h
  have hquoted {quotes : List Char} (hq : (dropStart? quotes rest).bind inlineBody? = some body) :
      body ⊆ cs := by
    obtain ⟨inner, hinner, hinline⟩ := Option.bind_eq_some_iff.mp hq
    have hbody : body ⊆ rest :=
      List.Subset.trans (inlineBody?_subset hinline) (dropStart?_subset hinner)
    exact List.Subset.trans hbody (decorated?_subset hrest)
  rcases Option.or_eq_some_iff.mp hbody with h | ⟨-, h⟩
  · exact hquoted h
  · exact hquoted h

theorem openDescription?_subset {first : List Char} (h : openDescription? cs = some first) :
    first ⊆ cs := by
  obtain ⟨inner, hinner, rfl⟩ := Option.map_eq_some_iff.mp h
  obtain ⟨rest, hrest, hquotes⟩ := Option.bind_eq_some_iff.mp hinner
  have hinner : inner.takeWhile (· != '\n') ⊆ rest :=
    List.Subset.trans (List.takeWhile_sublist _).subset (dropStart?_subset hquotes)
  exact List.Subset.trans hinner (decorated?_subset hrest)

theorem afterKeyword?_subset {keyword : String} {rest : List Char}
    (h : afterKeyword? keyword cs = some rest) : rest ⊆ cs := by
  unfold afterKeyword? at h
  split at h
  · rename_i c tail htail
    split at h
    · cases h
      have htrim : trimLeft tail ⊆ tail := (List.dropWhile_sublist _).subset
      exact fun x hx => dropStart?_subset htail (List.mem_cons_of_mem c (htrim hx))
    · cases h
  · cases h

theorem untilLastQuote?_subset {run body : List Char} (h : untilLastQuote? run = some body) :
    body ⊆ run := by
  unfold untilLastQuote? at h
  split at h
  · cases h
  · cases h
  · rename_i quote before _ hrun
    cases h
    intro x hx
    have hmem : x ∈ run.reverse.dropWhile (· != '\'') :=
      hrun ▸ List.mem_cons_of_mem quote (List.mem_reverse.mp hx)
    exact List.mem_reverse.mp ((List.dropWhile_sublist _).subset hmem)

theorem header?_subset {keyword : String} {name body : List Char}
    (h : header? keyword cs = some (name, body)) : name ⊆ cs ∧ body ⊆ cs := by
  obtain ⟨rest, hrest, h⟩ := Option.bind_eq_some_iff.mp h
  have hsub := afterKeyword?_subset hrest
  dsimp only at h
  split at h
  · cases h
  · split at h
    · cases h
    · split at h
      · rename_i after hgap
        obtain ⟨inner, hinner, hpair⟩ := Option.map_eq_some_iff.mp h
        cases hpair
        have hafter : after ⊆ rest := by
          have hgap' : trimLeft (rest.dropWhile fun c => !isBlank c) ⊆ rest :=
            List.Subset.trans (List.dropWhile_sublist _).subset (List.dropWhile_sublist _).subset
          exact fun x hx => hgap' (hgap ▸ List.mem_cons_of_mem _ hx)
        have hname : (rest.takeWhile fun c => !isBlank c) ⊆ rest := (List.takeWhile_sublist _).subset
        have hbody : body ⊆ after :=
          List.Subset.trans (untilLastQuote?_subset hinner) (List.takeWhile_sublist _).subset
        exact ⟨fun x hx => hsub (hname hx), fun x hx => hsub (hafter (hbody hx))⟩
      · cases h

theorem unquoted_subset (cs : List Char) : (unquoted cs).toList ⊆ cs := by
  rw [unquoted, String.toList_ofList]
  exact List.filter_sublist.subset

theorem readModule?_subset {name source : String} (h : readModule? cs = some (name, source)) :
    name.toList ⊆ cs ∧ source.toList ⊆ cs := by
  obtain ⟨⟨n, body⟩, hheader, hpair⟩ := Option.map_eq_some_iff.mp h
  cases hpair
  obtain ⟨hname, hbody⟩ := header?_subset hheader
  exact ⟨(String.toList_ofList).symm ▸ hname, List.Subset.trans (unquoted_subset body) hbody⟩

theorem readResource?_subset {name type : String} (h : readResource? cs = some (name, type)) :
    name.toList ⊆ cs ∧ type.toList ⊆ cs := by
  obtain ⟨⟨n, body⟩, hheader, hpair⟩ := Option.map_eq_some_iff.mp h
  cases hpair
  obtain ⟨hname, hbody⟩ := header?_subset hheader
  have htype : (unquoted (body.takeWhile (· != '@'))).toList ⊆ body :=
    List.Subset.trans (unquoted_subset _) (List.takeWhile_sublist _).subset
  exact ⟨(String.toList_ofList).symm ▸ hname, List.Subset.trans htype hbody⟩

theorem ofCode_within (c : Bool) (cs : List Char) : (Line.ofCode c cs).Within cs := by
  unfold Line.ofCode
  split
  case h_1 text htext => simpa [Line.Within] using inlineDescription?_subset htext
  case h_2 =>
    split
    case h_1 text htext => simpa [Line.Within] using openDescription?_subset htext
    case h_2 =>
      split
      case h_1 => trivial
      case h_2 =>
        split
        case isTrue => trivial
        case isFalse =>
          split
          case h_1 name source hmodule => exact readModule?_subset hmodule
          case h_2 =>
            split
            case h_1 name type hresource => exact readResource?_subset hresource
            case h_2 => trivial

theorem ofList_within (c : Bool) (cs : List Char) : (Line.ofList c cs).Within cs := by
  unfold Line.ofList
  dsimp only
  split
  · trivial
  · split
    · split <;> trivial
    · exact ofCode_within c cs

/-! ## What a scan keeps -/

theorem return_not_mem_join {parts : List String} (h : ∀ part ∈ parts, '\r' ∉ part.toList) :
    '\r' ∉ (join "\n" parts).toList := by
  rw [join, String.toList_intercalate]
  intro hmem
  rcases mem_intercalate hmem with hsep | ⟨cs, hcs, hreturn⟩
  · exact absurd hsep (by decide)
  · obtain ⟨part, hpart, rfl⟩ := List.mem_map.mp hcs
    exact h part hpart hreturn

/-- The parts of a description that is being read have no carriage returns. -/
def Mode.Plain : Mode → Prop
  | .description _ parts _ => ∀ part ∈ parts, '\r' ∉ part.toList
  | _ => True

/-- The same of all that a scan holds. -/
structure Scan.Plain (s : Scan) : Prop where
  mode : s.mode.Plain
  pending : '\r' ∉ s.pending.toList
  found : s.found.Plain

theorem partOf_plain (h : Unbroken cs) : ∀ part ∈ Scan.partOf cs, '\r' ∉ part.toList := by
  intro part hpart
  unfold Scan.partOf at hpart
  dsimp only at hpart
  split at hpart
  · cases hpart
  · rw [List.mem_singleton.mp hpart, String.toList_ofList]
    exact (unbroken_iff.mp (h.of_subset (trim_subset cs))).2

variable {s : Scan}

theorem Scan.Plain.finishDescription (h : s.Plain) {parts : List String}
    (hparts : ∀ part ∈ parts, '\r' ∉ part.toList) : (s.finishDescription parts).Plain :=
  ⟨trivial, return_not_mem_join hparts, h.found⟩

theorem Scan.Plain.continueDescription (h : s.Plain) (hcs : Unbroken cs) (opened : Nat)
    {parts : List String} (hparts : ∀ part ∈ parts, '\r' ∉ part.toList) (closed : Bool) :
    (s.continueDescription opened parts closed cs).Plain := by
  unfold Scan.continueDescription
  split
  · split
    · exact h.finishDescription hparts
    · exact h
  · split
    case h_1 before after hcut =>
      have hmore : ∀ part ∈ parts ++ Scan.partOf before, '\r' ∉ part.toList :=
        List.forall_mem_append.mpr ⟨hparts, partOf_plain (hcs.of_subset (cutAt?_subset hcut))⟩
      dsimp only
      split
      · exact h.finishDescription hmore
      · exact ⟨hmore, h.pending, h.found⟩
    case h_2 =>
      refine ⟨List.forall_mem_append.mpr ⟨hparts, ?_⟩, h.pending, h.found⟩
      intro part hpart
      rw [List.mem_singleton.mp hpart, String.toList_ofList]
      exact (unbroken_iff.mp (hcs.of_subset (trim_subset cs))).2

theorem Scan.Plain.startDescription (h : s.Plain) (hcs : Unbroken cs) :
    (s.startDescription cs).Plain := by
  have hnone : ∀ part ∈ ([] : List String), '\r' ∉ part.toList := by simp
  have hopen : Scan.Plain { s with mode := .description s.lineNumber [] false } :=
    ⟨hnone, h.pending, h.found⟩
  unfold Scan.startDescription
  dsimp only
  split
  · exact hopen.continueDescription hcs _ hnone false
  · exact ⟨partOf_plain hcs, h.pending, h.found⟩

theorem Scan.Plain.take (h : s.Plain) (hcs : Unbroken cs) {l : Line} (hl : l.Within cs) :
    (s.take l).Plain := by
  have hempty : '\r' ∉ "".toList := by decide
  cases l with
  | silent => exact h
  | opensComment => exact ⟨trivial, h.pending, h.found⟩
  | description text => exact ⟨h.mode, (unbroken_iff.mp (hcs.of_subset hl)).2, h.found⟩
  | opensDescription text => exact h.startDescription (hcs.of_subset hl)
  | «variable» name value =>
      refine ⟨h.mode, hempty, h.found.modules, h.found.resources, ?_⟩
      exact List.forall_mem_append.mpr ⟨h.found.vars, by simpa using h.pending⟩
  | otherDeclaration => exact ⟨h.mode, hempty, h.found⟩
  | module name source =>
      refine ⟨h.mode, hempty, ?_, h.found.resources, h.found.vars⟩
      have hnew := And.intro (hcs.of_subset hl.1) (And.intro (hcs.of_subset hl.2) h.pending)
      exact List.forall_mem_append.mpr ⟨h.found.modules, by simpa using hnew⟩
  | resource name type =>
      refine ⟨h.mode, hempty, h.found.modules, ?_, h.found.vars⟩
      have hnew := And.intro (hcs.of_subset hl.1) (And.intro (hcs.of_subset hl.2) h.pending)
      exact List.forall_mem_append.mpr ⟨h.found.resources, by simpa using hnew⟩

/-- A line without line ends brings none into the scan. -/
theorem Scan.Plain.step (h : s.Plain) (hcs : Unbroken cs) : (s.step c cs).Plain := by
  have hnext : Scan.Plain { s with lineNumber := s.lineNumber + 1 } := ⟨h.mode, h.pending, h.found⟩
  unfold Scan.step
  dsimp only
  split
  case h_1 =>
    split
    · exact ⟨trivial, h.pending, h.found⟩
    · exact hnext
  case h_2 opened parts closed hmode =>
    have hparts := h.mode
    rw [hmode] at hparts
    exact hnext.continueDescription hcs opened hparts closed
  case h_3 => exact hnext.take hcs (ofList_within c cs)

theorem run_plain {lines : List String} (h : ∀ line ∈ lines, Unbroken line.toList) :
    (Scan.run c lines).Plain := by
  have hfold : ∀ s : Scan, s.Plain →
      (lines.foldl (fun s line => s.step c (Scan.withoutLineEnd line)) s).Plain := by
    induction lines with
    | nil => exact fun _ hs => hs
    | cons line lines ih =>
        intro s hs
        have hline : Unbroken (Scan.withoutLineEnd line) :=
          (h line List.mem_cons_self).of_subset (dropEnd_subset _ _)
        exact ih (fun l hl => h l (List.mem_cons_of_mem line hl)) _ (hs.step hline)
  refine hfold {} ⟨trivial, by decide, ?_, ?_, ?_⟩
  all_goals simp

/-- The lines of a file have no line ends, so what is found in it has none. -/
theorem found_plain (text : String) : (Scan.run c (fileLines text)).found.Plain := by
  refine (run_plain fun line hline => ?_).found
  obtain ⟨cs, hcs, rfl⟩ := List.mem_map.mp hline
  rw [String.toList_ofList]
  exact unbroken_of_mem_splitLines hcs

end Source

end TemplateDocs
