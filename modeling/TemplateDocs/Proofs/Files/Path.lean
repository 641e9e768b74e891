import TemplateDocs.Files.Tree
import TemplateDocs.Proofs.Text.Split

/-! # Paths and the parts they are looked up by -/

namespace TemplateDocs

open Text

/-! ## Proper paths -/

namespace Path

/-- A text that can be one part of a path. -/
def IsPart (part : String) : Prop :=
  part ≠ "" ∧ '/' ∉ part.toList

/-- A path as texts give them: no, one or two slashes are its root, and no part holds one. -/
structure Proper (p : Path) : Prop where
  root : p.root ∈ ["", "/", "//"]
  parts : ∀ part ∈ p.parts, IsPart part

theorem ofString_proper (s : String) : (ofString s).Proper where
  root := by
    unfold ofString rootOf
    dsimp only
    split <;> simp
  parts := by
    intro part hpart
    obtain ⟨hpiece, hkept⟩ := List.mem_filter.mp hpart
    obtain ⟨cs, hcs, rfl⟩ := List.mem_map.mp hpiece
    refine ⟨?_, ?_⟩
    · intro hempty
      simp [hempty] at hkept
    · rw [String.toList_ofList]
      exact not_mem_of_mem_splitOn hcs

theorem pieces_join {parts : List String} (hne : parts ≠ []) (h : ∀ part ∈ parts, IsPart part) :
    pieces (Text.join "/" parts) = parts := by
  have hsplit : splitOn '/' (['/'].intercalate (parts.map String.toList)) =
      parts.map String.toList := by
    refine splitOn_intercalate (by simpa using hne) ?_
    intro cs hcs
    obtain ⟨part, hpart, rfl⟩ := List.mem_map.mp hcs
    exact (h part hpart).2
  have hslash : "/".toList = ['/'] := rfl
  rw [pieces, Text.join, String.toList_intercalate, hslash, hsplit, List.map_map]
  simp [Function.comp_def]

theorem join_ne_empty {parts : List String} (hne : parts ≠ []) (h : ∀ part ∈ parts, IsPart part) :
    Text.join "/" parts ≠ "" := by
  intro hempty
  have hpieces := pieces_join hne h
  rw [hempty] at hpieces
  have hmem : "" ∈ parts := by
    rw [← hpieces]
    simp [pieces, splitOn]
  exact (h "" hmem).1 rfl

theorem getLast?_join {parts : List String} (h : ∀ part ∈ parts, IsPart part) :
    (Text.join "/" parts).toList.getLast? ≠ some '/' := by
  induction parts with
  | nil => simp [Text.join]
  | cons part parts ih =>
      have hpart := h part List.mem_cons_self
      cases parts with
      | nil =>
          rw [Text.join, String.intercalate_singleton]
          intro hlast
          exact hpart.2 (List.mem_of_getLast? hlast)
      | cons next parts =>
          have hparts : ∀ p ∈ next :: parts, IsPart p := fun p hp => h p (List.mem_cons_of_mem part hp)
          have hrest : ("/".intercalate (next :: parts)).toList ≠ [] := by
            rw [ne_eq, String.toList_eq_nil_iff]
            exact join_ne_empty (by simp) hparts
          rw [Text.join, String.intercalate_cons_cons, String.toList_append,
            List.getLast?_append_of_ne_nil _ hrest]
          exact ih hparts

theorem Proper.eq_slash_of_mem_root {p : Path} (h : p.Proper) : ∀ c ∈ p.root.toList, c = '/' := by
  have hroot := h.root
  simp only [List.mem_cons, List.not_mem_nil, or_false] at hroot
  rcases hroot with hroot | hroot | hroot <;> simp [hroot]

theorem head?_join {parts : List String} (h : ∀ part ∈ parts, IsPart part) :
    (Text.join "/" parts).toList.head? ≠ some '/' := by
  cases parts with
  | nil => simp [Text.join]
  | cons part parts =>
      obtain ⟨hne, hslash⟩ := h part List.mem_cons_self
      have hlist : part.toList ≠ [] := by
        rwa [ne_eq, String.toList_eq_nil_iff]
      obtain ⟨c, cs, hcs⟩ := List.exists_cons_of_ne_nil hlist
      have hhead : (Text.join "/" (part :: parts)).toList.head? = some c := by
        cases parts with
        | nil => rw [Text.join, String.intercalate_singleton, hcs, List.head?_cons]
        | cons next parts =>
            rw [Text.join, String.intercalate_cons_cons, String.toList_append, String.toList_append, hcs]
            rfl
      rw [hhead]
      rintro heq
      cases heq
      exact hslash (by rw [hcs]; exact List.mem_cons_self)

/-- The text of a path with a root or with parts. -/
theorem text_eq_append {p : Path} (h : p.Proper) (hne : p.root ≠ "" ∨ p.parts ≠ []) :
    p.text = p.root ++ Text.join "/" p.parts := by
  have hbody : p.root ++ Text.join "/" p.parts ≠ "" := by
    intro hempty
    rw [String.append_eq_empty_iff] at hempty
    rcases hne with hroot | hparts
    · exact hroot hempty.1
    · exact join_ne_empty hparts h.parts hempty.2
  simp [Path.text, hbody]

/-- Slashes at the start of a text make no parts. -/
theorem filter_pieces_append {front : String} (hfront : ∀ c ∈ front.toList, c = '/') (s : String)
    {keep : String → Bool} (hkeep : keep "" = false) :
    (pieces (front ++ s)).filter keep = (pieces s).filter keep := by
  unfold pieces
  rw [String.toList_append]
  generalize front.toList = slashes at hfront
  induction slashes with
  | nil => rfl
  | cons c cs ih =>
      obtain ⟨rfl, hcs⟩ := List.forall_mem_cons.mp hfront
      have hsplit : splitOn '/' ('/' :: (cs ++ s.toList)) = [] :: splitOn '/' (cs ++ s.toList) := by
        simp [splitOn]
      rw [List.cons_append, hsplit, List.map_cons, List.filter_cons, if_neg, ih hcs]
      simpa using hkeep

/-- A path is looked up by its own parts. -/
theorem steps_text {p : Path} (h : p.Proper) (hne : p.parts ≠ []) : Tree.steps p.text = p.parts := by
  have htext := text_eq_append h (.inr hne)
  have hkept : (pieces p.text).filter (· != "") = p.parts := by
    rw [htext, filter_pieces_append h.eq_slash_of_mem_root _ rfl, pieces_join hne h.parts,
      List.filter_eq_self]
    intro part hpart
    simpa using (h.parts part hpart).1
  have hjoin : (Text.join "/" p.parts).toList ≠ [] := by
    rw [ne_eq, String.toList_eq_nil_iff]
    exact join_ne_empty hne h.parts
  have hlast : p.text.toList.getLast? ≠ some '/' := by
    rw [htext, String.toList_append, List.getLast?_append_of_ne_nil _ hjoin]
    exact getLast?_join h.parts
  simp only [Tree.steps, hkept]
  rw [if_neg (by simpa using hlast)]

/-- A path without parts is looked up as a folder. -/
theorem steps_text_of_root {p : Path} (h : p.Proper) (hparts : p.parts = []) :
    Tree.steps p.text = ["."] := by
  have hroot := h.root
  obtain ⟨root, parts⟩ := p
  cases hparts
  simp only [List.mem_cons, List.not_mem_nil, or_false] at hroot
  rcases hroot with rfl | rfl | rfl <;> decide +kernel

/-- A path with a root is looked up from the top. -/
theorem start_text {p : Path} (h : p.Proper) (t : Tree) :
    t.start p.text = if p.root = "" then t.here else [] := by
  unfold Tree.start
  by_cases hroot : p.root = ""
  · have hhead : p.text.toList.head? ≠ some '/' := by
      by_cases hparts : p.parts = []
      · simp [Path.text, hroot, hparts, Text.join]
      · rw [text_eq_append h (.inr hparts), hroot, String.empty_append]
        exact head?_join h.parts
    rw [if_neg (by simpa using hhead), if_pos hroot]
  · have hhead : p.text.toList.head? = some '/' := by
      rw [text_eq_append h (.inl hroot), String.toList_append]
      have hslash := h.eq_slash_of_mem_root
      cases hlist : p.root.toList with
      | nil => exact absurd (String.toList_eq_nil_iff.mp hlist) hroot
      | cons c cs => simp [hslash c (by simp [hlist])]
    rw [if_pos (by simpa using hhead), if_neg hroot]

/-- A path with a name ends in it. -/
theorem parts_eq_concat {p : Path} (h : p.name ≠ "") : p.parts = p.parts.dropLast ++ [p.name] := by
  unfold Path.name at h ⊢
  rcases List.eq_nil_or_concat p.parts with hnil | ⟨init, last, hlast⟩
  · simp [hnil] at h
  · simp [hlast]

/-! ## Paths that are read back -/

/-- A text that can name a file. -/
structure IsName (part : String) : Prop where
  isPart : IsPart part
  notHere : part ≠ "."
  notAround : part ≠ ".."

instance (part : String) : Decidable (IsPart part) :=
  inferInstanceAs (Decidable (part ≠ "" ∧ '/' ∉ part.toList))

instance (part : String) : Decidable (IsName part) :=
  decidable_of_iff (IsPart part ∧ part ≠ "." ∧ part ≠ "..")
    ⟨fun h => ⟨h.1, h.2.1, h.2.2⟩, fun h => ⟨h.isPart, h.notHere, h.notAround⟩⟩

/-- A path none of whose parts is left out. -/
structure Clean (p : Path) : Prop extends p.Proper where
  notHere : ∀ part ∈ p.parts, part ≠ "."

theorem ofString_clean (s : String) : (ofString s).Clean := by
  refine ⟨ofString_proper s, ?_⟩
  rintro part hpart rfl
  simpa using (List.mem_filter.mp hpart).2

theorem Clean.below {p : Path} (h : p.Clean) {parts : List String}
    (hparts : ∀ part ∈ parts, IsPart part ∧ part ≠ ".") : (p.below parts).Clean := by
  refine ⟨⟨h.root, fun part hpart => ?_⟩, fun part hpart => ?_⟩ <;>
    rcases List.mem_append.mp hpart with hpart | hpart
  · exact h.parts part hpart
  · exact (hparts part hpart).1
  · exact h.notHere part hpart
  · exact (hparts part hpart).2

theorem Clean.below_names {p : Path} (h : p.Clean) {names : List String}
    (hnames : ∀ part ∈ names, IsName part) : (p.below names).Clean :=
  h.below fun part hpart => ⟨(hnames part hpart).isPart, (hnames part hpart).notHere⟩

theorem rootOf_append {root : String} (h : root ∈ ["", "/", "//"]) {cs : List Char}
    (hcs : cs.head? ≠ some '/') : rootOf (root.toList ++ cs) = root := by
  simp only [List.mem_cons, List.not_mem_nil, or_false] at h
  cases cs with
  | nil => rcases h with rfl | rfl | rfl <;> rfl
  | cons c cs =>
      have hc : c ≠ '/' := by simpa using hcs
      rcases h with rfl | rfl | rfl <;> simp [rootOf, hc]

/-- A path is read back from its text. -/
theorem Clean.ofString_text {p : Path} (h : p.Clean) : ofString p.text = p := by
  by_cases hne : p.root ≠ "" ∨ p.parts ≠ []
  · have htext := text_eq_append h.toProper hne
    have hroot : rootOf p.text.toList = p.root := by
      rw [htext, String.toList_append]
      exact rootOf_append h.root (head?_join h.parts)
    have hkept : (pieces p.text).filter (fun part => part != "" && part != ".") = p.parts := by
      rw [htext, filter_pieces_append h.eq_slash_of_mem_root _ rfl]
      by_cases hparts : p.parts = []
      · rw [hparts]
        decide +kernel
      · rw [pieces_join hparts h.parts, List.filter_eq_self]
        intro part hpart
        simp [h.notHere part hpart, (h.parts part hpart).1]
    rw [ofString, hroot, hkept]
  · obtain ⟨root, parts⟩ := p
    simp only [not_or, not_not] at hne
    obtain ⟨rfl, rfl⟩ := hne
    decide +kernel

/-- A name is a path of one part. -/
theorem IsName.ofString_eq {part : String} (h : IsName part) :
    ofString part = { root := "", parts := [part] } := by
  have hclean : ({ root := "", parts := [part] } : Path).Clean := by
    refine ⟨⟨by simp, fun other hother => ?_⟩, fun other hother => ?_⟩ <;>
      rw [List.mem_singleton.mp hother]
    · exact h.isPart
    · exact h.notHere
  have htext : ({ root := "", parts := [part] } : Path).text = part := by
    rw [text_eq_append hclean.toProper (.inr (by simp)), String.empty_append, Text.join,
      String.intercalate_singleton]
  have hread := hclean.ofString_text
  rwa [htext] at hread

end Path

/-- A name that is not empty leads at least one step on. -/
theorem Tree.steps_ne_nil {name : String} (h : name ≠ "") : steps name ≠ [] := by
  intro hsteps
  unfold steps at hsteps
  dsimp only at hsteps
  split at hsteps
  · simp at hsteps
  · rename_i hlast
    -- then there are only slashes, of which one stands at the end
    have hslash : ∀ c ∈ name.toList, c = '/' := by
      refine (Text.forall_mem_splitOn (P := (· = '/')) rfl _).mp fun cs hcs c hc => ?_
      have hpiece := List.filter_eq_nil_iff.mp hsteps (String.ofList cs) (List.mem_map_of_mem hcs)
      have hempty : cs = [] := by simpa using hpiece
      rw [hempty] at hc
      cases hc
    refine hlast ?_
    obtain ⟨init, c, hname⟩ := (List.eq_nil_or_concat' name.toList).resolve_left (by simpa using h)
    have hc : c = '/' := hslash c (by simp [hname])
    simp [hname, hc]

namespace Path

/-! ## Endings -/

theorem splitName_append {before after : List Char} (hbefore : before ≠ []) (hafter : after ≠ [])
    (hpoint : '.' ∉ after) : splitName (before ++ '.' :: after) = (before, '.' :: after) := by
  have hlast : ((before ++ '.' :: after).reverse.takeWhile (· != '.')).reverse = after := by
    have hrev : (before ++ '.' :: after).reverse = after.reverse ++ '.' :: before.reverse := by simp
    have hall : ∀ c ∈ after.reverse, (c != '.') = true := by
      intro c hc
      rw [bne_iff_ne]
      rintro rfl
      exact hpoint (List.mem_reverse.mp hc)
    rw [hrev, List.takeWhile_append_of_pos hall]
    simp
  have hlength : (before ++ '.' :: after).length - after.length - 1 = before.length := by
    simp only [List.length_append, List.length_cons]
    omega
  unfold splitName
  simp only [hlast, hlength, List.take_left']
  simp [hbefore, hafter]

end Path

end TemplateDocs
