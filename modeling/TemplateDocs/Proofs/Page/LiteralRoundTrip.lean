import TemplateDocs.Proofs.Json.Parts
import TemplateDocs.Proofs.Page.LiteralText
import TemplateDocs.Proofs.Value.Literal
import TemplateDocs.Proofs.Text.Split

/-! # Literals are read back

Reading the literal of a document gives the document with its keys in order, at every indentation by
blanks. The one exception are keys with a line feed behind an identifier, which end their line too early.
-/

namespace TemplateDocs.Literal

open List Value

/-! ## Lines that are set in -/

/-- The characters of a text whose further lines are indented. -/
def indented (indent cs : List Char) : List Char :=
  cs.flatMap fun c => if c == '\n' then '\n' :: indent else [c]

theorem toList_indentLines (indent s : String) :
    (indentLines indent s).toList = indented indent.toList s.toList :=
  String.toList_ofList

theorem indented_append (indent cs ds : List Char) :
    indented indent (cs ++ ds) = indented indent cs ++ indented indent ds :=
  List.flatMap_append

theorem indented_flatMap {α : Type} (indent : List Char) (f : α → List Char) (xs : List α) :
    indented indent (xs.flatMap f) = xs.flatMap fun x => indented indent (f x) :=
  List.flatMap_assoc

theorem indented_newline (indent cs : List Char) :
    indented indent ('\n' :: cs) = '\n' :: (indent ++ indented indent cs) :=
  rfl

theorem indented_of_not_mem {cs : List Char} (indent : List Char) (h : '\n' ∉ cs) :
    indented indent cs = cs := by
  induction cs with
  | nil => rfl
  | cons c cs ih =>
      obtain ⟨hc, hcs⟩ := not_or.mp (mt List.mem_cons.mpr h)
      have hne : (c == '\n') = false := beq_eq_false_iff_ne.mpr (Ne.symm hc)
      rw [indented, List.flatMap_cons, hne]
      exact congrArg (c :: ·) (ih hcs)

theorem toList_block {opening closing : String} {depth : Nat} {lines : List String} (h : lines ≠ []) :
    (block opening closing depth lines).toList = opening.toList ++
      lines.flatMap (fun line => '\n' :: ((pad (depth + 1)).toList ++ line.toList)) ++
      '\n' :: ((pad depth).toList ++ closing.toList) := by
  have hne : lines.map (fun line => (pad (depth + 1)).toList ++ line.toList) ≠ [] := by simpa using h
  have hlines := Text.newline_intercalate hne
  rw [List.flatMap_map] at hlines
  have hfeed : "\n".toList = ['\n'] := rfl
  simp only [block, Text.join, String.toList_append, String.toList_intercalate, List.map_map,
    Function.comp_def, hfeed, ← hlines, List.append_assoc, List.cons_append, List.nil_append]

theorem blank_of_mem_pad {depth : Nat} : ∀ c ∈ (pad depth).toList, c = ' ' := by
  rw [pad, String.toList_ofList]
  exact fun c hc => List.eq_of_mem_replicate hc

theorem not_mem_pad (depth : Nat) : '\n' ∉ (pad depth).toList := fun h =>
  absurd (blank_of_mem_pad _ h) (by decide)

/-- Every line of a block is indented once more. -/
theorem indented_block {opening closing : String} {depth : Nat} {lines : List String}
    (indent : List Char) (h : lines ≠ []) (hopening : '\n' ∉ opening.toList)
    (hclosing : '\n' ∉ closing.toList) :
    indented indent (block opening closing depth lines).toList = opening.toList ++
      lines.flatMap (fun line =>
        '\n' :: (indent ++ (pad (depth + 1)).toList ++ indented indent line.toList)) ++
      '\n' :: (indent ++ (pad depth).toList ++ closing.toList) := by
  rw [toList_block h]
  simp only [indented_append, indented_flatMap, indented_newline, indented_of_not_mem,
    hopening, hclosing, not_mem_pad, not_false_eq_true, List.append_assoc]

/-! ## Lines are read one by one -/

/-- The text starts with a character that is no line feed, no blank and no closing bracket. -/
def Starts (cs : List Char) : Prop :=
  (cs.head?.any fun c => c ∉ ['\n', ' ', ']', '\x7d']) = true

instance (cs : List Char) : Decidable (Starts cs) :=
  inferInstanceAs (Decidable (_ = true))

theorem starts_iff {cs : List Char} :
    Starts cs ↔ ∃ c rest, cs = c :: rest ∧ c ∉ ['\n', ' ', ']', '\x7d'] := by
  cases cs <;> simp [Starts]

theorem Starts.append {cs : List Char} (h : Starts cs) (ds : List Char) : Starts (cs ++ ds) := by
  obtain ⟨c, rest, rfl, hc⟩ := starts_iff.mp h
  exact starts_iff.mpr ⟨c, rest ++ ds, rfl, hc⟩

theorem Starts.indented {cs : List Char} (h : Starts cs) (indent : List Char) :
    Starts (indented indent cs) := by
  obtain ⟨c, rest, rfl, hc⟩ := starts_iff.mp h
  have hne : (c == '\n') = false := by
    rw [beq_eq_false_iff_ne]
    rintro rfl
    exact hc (by decide)
  rw [Literal.indented, List.flatMap_cons, hne]
  exact starts_iff.mpr ⟨c, Literal.indented indent rest, rfl, hc⟩

theorem skipBlanks_append {blanks rest : List Char} {c : Char} (h : ∀ c ∈ blanks, c = ' ')
    (hc : c ≠ ' ') : skipBlanks (blanks ++ c :: rest) = c :: rest := by
  rw [skipBlanks, List.dropWhile_append_of_pos (by simpa using h),
    List.dropWhile_cons_of_neg (by simpa using hc)]

theorem Starts.skipBlanks {blanks cs : List Char} (h : Starts cs) (hblanks : ∀ c ∈ blanks, c = ' ') :
    skipBlanks (blanks ++ cs) = cs := by
  obtain ⟨c, rest, rfl, hc⟩ := starts_iff.mp h
  refine skipBlanks_append hblanks ?_
  rintro rfl
  exact hc (by decide)

/-- What follows an element starts with a line feed, whether other elements follow or not. -/
theorem exists_newline {β : Type} (f : β → List Char) (xs : List β) (rest : List Char) :
    ∃ others, xs.flatMap (fun x => '\n' :: f x) ++ '\n' :: rest = '\n' :: others := by
  cases xs <;> simp

section Lines

variable {α : Type} {closing : Char} {element : List Char → Option (α × List Char)} {blanks : List Char}

/-- The line of the closing bracket ends a block. -/
theorem readLines_closing (hclosing : closing ∈ [']', '\x7d']) (hblanks : ∀ c ∈ blanks, c = ' ')
    (fuel : Nat) (rest : List Char) :
    readLines closing element (fuel + 1) ('\n' :: (blanks ++ closing :: rest)) = some ([], rest) := by
  have hne : closing ≠ ' ' := by
    rintro rfl
    exact absurd hclosing (by decide)
  simp [readLines, skipBlanks_append hblanks hne]

/-- Any other line is that of an element. -/
theorem readLines_element {line : List Char} (hclosing : closing ∈ [']', '\x7d'])
    (hblanks : ∀ c ∈ blanks, c = ' ') (hstarts : Starts line) (fuel : Nat) (rest : List Char) :
    readLines closing element (fuel + 1) ('\n' :: (blanks ++ line ++ rest)) =
      (element (line ++ rest)).bind fun (first, rest) =>
        (readLines closing element fuel rest).map fun (others, rest) => (first :: others, rest) := by
  have hskip := (hstarts.append rest).skipBlanks hblanks
  obtain ⟨c, cs, rfl, hc⟩ := starts_iff.mp hstarts
  have hopen : (c == closing) = false := by
    rw [beq_eq_false_iff_ne]
    rintro rfl
    exact hc (List.mem_cons_of_mem _ (List.mem_cons_of_mem _ hclosing))
  rw [readLines, List.append_assoc, hskip, List.cons_append]
  simp only [hopen, Bool.false_eq_true, if_false]
  cases element (c :: (cs ++ rest)) <;> rfl

/-- If every element is read back when it is good and refused otherwise, then so is the block of all
of them. -/
theorem readLines_flatMap {β : Type} {inset : List Char} {line : β → List Char} {good : β → Bool}
    {back : β → α} (hclosing : closing ∈ [']', '\x7d']) (hinset : ∀ c ∈ inset, c = ' ')
    (hblanks : ∀ c ∈ blanks, c = ' ') {xs : List β} (hstarts : ∀ x ∈ xs, Starts (line x))
    (helement : ∀ x ∈ xs, ∀ rest, element (line x ++ '\n' :: rest) =
      if good x then some (back x, '\n' :: rest) else none)
    {fuel : Nat} (hfuel : xs.length < fuel) (rest : List Char) :
    readLines closing element fuel (xs.flatMap (fun x => '\n' :: (inset ++ line x)) ++
        '\n' :: (blanks ++ closing :: rest)) =
      if xs.all good then some (xs.map back, rest) else none := by
  induction xs generalizing fuel with
  | nil =>
      obtain ⟨fuel, rfl⟩ := Nat.exists_eq_succ_of_ne_zero hfuel.ne'
      exact readLines_closing hclosing hblanks fuel rest
  | cons x xs ih =>
      obtain ⟨fuel, rfl⟩ := Nat.exists_eq_succ_of_ne_zero (Nat.ne_zero_of_lt hfuel)
      obtain ⟨hx, hxs⟩ := List.forall_mem_cons.mp helement
      obtain ⟨hstart, hstarts⟩ := List.forall_mem_cons.mp hstarts
      replace ih := ih hstarts hxs (Nat.lt_of_succ_lt_succ hfuel)
      obtain ⟨others, hothers⟩ :=
        exists_newline (fun x => inset ++ line x) xs (blanks ++ closing :: rest)
      rw [hothers] at ih
      rw [List.flatMap_cons, List.append_assoc, hothers, List.cons_append,
        readLines_element hclosing hinset hstart, hx, List.all_cons, List.map_cons]
      cases good x
      · rfl
      · simp only [if_true, Option.bind_some, ih, Bool.true_and]
        split <;> rfl

end Lines

theorem length_le_flatMap {β : Type} (f : β → List Char) (xs : List β) :
    xs.length ≤ (xs.flatMap fun x => '\n' :: f x).length := by
  induction xs with
  | nil => simp
  | cons x xs ih =>
      rw [List.flatMap_cons, List.length_append, List.length_cons, List.length_cons]
      omega

theorem length_lt_flatMap {β : Type} (inset : List Char) (line : β → List Char) {xs : List β} {x : β}
    (h : x ∈ xs) : (line x).length < (xs.flatMap fun x => '\n' :: (inset ++ line x)).length := by
  have hpart : '\n' :: (inset ++ line x) ∈ xs.map fun x => '\n' :: (inset ++ line x) :=
    List.mem_map_of_mem h
  have hlength := (List.sublist_flatten_of_mem hpart).length_le
  rw [List.length_cons, List.length_append] at hlength
  rw [List.flatMap_def]
  omega

/-- The brackets of a block, as texts and as characters. -/
inductive Brackets : String → String → Char → Char → Prop where
  | square : Brackets "[" "]" '[' ']'
  | curly : Brackets "\x7b" "\x7d" '\x7b' '\x7d'

namespace Brackets

variable {opening closing : String} {first last : Char}

theorem toList_opening (h : Brackets opening closing first last) : opening.toList = [first] := by
  cases h <;> rfl

theorem toList_closing (h : Brackets opening closing first last) : closing.toList = [last] := by
  cases h <;> rfl

theorem not_mem_opening (h : Brackets opening closing first last) : '\n' ∉ opening.toList := by
  cases h <;> decide

theorem not_mem_closing (h : Brackets opening closing first last) : '\n' ∉ closing.toList := by
  cases h <;> decide

theorem closing_mem (h : Brackets opening closing first last) : last ∈ [']', '\x7d'] := by
  cases h <;> decide

end Brackets

/-- A block is read back if all its elements are good, and otherwise refused. Reading an element takes
less fuel than there is for the block. -/
theorem readLines_block {α β : Type} {element : List Char → Option (α × List Char)}
    {indent : List Char} {depth fuel : Nat} {opening closing : String} {first last : Char}
    {line : β → String} {good : β → Bool} {back : β → α} {xs : List β}
    (hbrackets : Brackets opening closing first last) (hindent : ∀ c ∈ indent, c = ' ') (hne : xs ≠ [])
    (hfuel : (indented indent (block opening closing depth (xs.map line)).toList).length ≤ fuel + 1)
    (hstarts : ∀ x ∈ xs, Starts (line x).toList)
    (helement : ∀ x ∈ xs, (indented indent (line x).toList).length ≤ fuel → ∀ rest,
      element (indented indent (line x).toList ++ '\n' :: rest) =
        if good x then some (back x, '\n' :: rest) else none) (rest : List Char) :
    ∃ body, indented indent (block opening closing depth (xs.map line)).toList ++ rest =
        first :: '\n' :: body ∧
      readLines last element fuel ('\n' :: body) =
        if xs.all good then some (xs.map back, rest) else none := by
  have hblanks (depth : Nat) : ∀ c ∈ indent ++ (pad depth).toList, c = ' ' :=
    List.forall_mem_append.mpr ⟨hindent, fun _ => blank_of_mem_pad _⟩
  rw [indented_block indent (by simpa using hne) hbrackets.not_mem_opening hbrackets.not_mem_closing,
    List.flatMap_map, hbrackets.toList_opening, hbrackets.toList_closing] at hfuel ⊢
  simp only [List.length_append, List.length_cons, List.length_nil] at hfuel
  have hcount : xs.length < fuel := by
    have := length_le_flatMap
      (fun x => indent ++ (pad (depth + 1)).toList ++ indented indent (line x).toList) xs
    omega
  have hlength (x : β) (hx : x ∈ xs) : (indented indent (line x).toList).length ≤ fuel := by
    have := length_lt_flatMap (indent ++ (pad (depth + 1)).toList)
      (fun x => indented indent (line x).toList) hx
    omega
  have hread := readLines_flatMap hbrackets.closing_mem (hblanks (depth + 1)) (hblanks depth)
    (fun x hx => (hstarts x hx).indented indent) (fun x hx => helement x hx (hlength x hx)) hcount rest
  obtain ⟨body, hbody⟩ := exists_newline
    (fun x => indent ++ (pad (depth + 1)).toList ++ indented indent (line x).toList) xs
    (indent ++ (pad depth).toList ++ last :: rest)
  refine ⟨body, ?_, hbody ▸ hread⟩
  rw [← hbody]
  simp

/-! ## What is written has no line feed of its own -/

theorem not_mem_text (s : String) : '\n' ∉ (text s).toList := by
  simp [text, not_mem_escape (c := '\n') (by simp)]

theorem not_mem_key {s : String} (h : isBrokenKey s = false) : '\n' ∉ (key s).toList := by
  rw [key, isBareKey_eq, h, Bool.or_false]
  split
  case isTrue hname => exact not_mem_of_isIdentifier hname
  case isFalse => exact not_mem_text s

theorem not_mem_toString (n : Int) : '\n' ∉ (toString n).toList := fun h =>
  absurd (unbroken_int n _ h) (by decide)

/-! ## Where elements start -/

theorem starts_text (s : String) : Starts (text s).toList := by
  rw [text, String.toList_ofList]
  exact starts_iff.mpr ⟨'\'', _, rfl, by decide⟩

theorem starts_toString (n : Int) : Starts (toString n).toList := by
  obtain ⟨c, cs, hlist, hc⟩ := exists_toList_toString_int n
  refine starts_iff.mpr ⟨c, cs, hlist, ?_⟩
  rcases hc with rfl | hc
  · decide
  · intro hmem
    simp only [List.mem_cons, List.not_mem_nil, or_false] at hmem
    rcases hmem with rfl | rfl | rfl | rfl <;> exact absurd hc (by decide)

theorem starts_block {opening : String} (h : Starts opening.toList) (closing : String) (depth : Nat)
    (lines : List String) : Starts (block opening closing depth lines).toList := by
  simp only [block, String.toList_append, List.append_assoc]
  exact h.append _

theorem starts_written {doc : Json} (h : doc.isExact = true) (depth : Nat) :
    Starts (written depth doc).toList := by
  cases doc with
  | null => exact (by decide : Starts "null".toList)
  | bool b => exact (by decide : ∀ b, Starts (if b then "true" else "false").toList) b
  | int n => exact starts_toString n
  | float x => cases h
  | text s => exact starts_text s
  | array items =>
      rw [written_array]
      split
      · decide
      · exact starts_block (by decide) _ _ _
  | object entries =>
      rw [written_object]
      split
      · decide
      · exact starts_block (by decide) _ _ _

theorem starts_of_isIdentifier {cs : List Char} (h : isIdentifier cs = true) : Starts cs := by
  obtain ⟨c, rest, rfl, hc, _⟩ := isIdentifier_iff.mp h
  refine starts_iff.mpr ⟨c, rest, rfl, fun hmem => ?_⟩
  simp only [List.mem_cons, List.not_mem_nil, or_false] at hmem
  rcases hmem with rfl | rfl | rfl | rfl <;> exact absurd hc (by decide)

theorem starts_key (s : String) : Starts (key s).toList := by
  cases hbroken : isBrokenKey s with
  | true =>
      obtain ⟨name, hname, hkey⟩ := key_of_isBrokenKey hbroken
      rw [hkey]
      exact (starts_of_isIdentifier hname).append _
  | false =>
      rw [key, isBareKey_eq, hbroken, Bool.or_false]
      split
      case isTrue hname => exact starts_of_isIdentifier hname
      case isFalse => exact starts_text s

theorem starts_writtenEntry (key text : String) : Starts (writtenEntry key text).toList := by
  rw [writtenEntry, String.toList_append, String.toList_append, List.append_assoc]
  exact (starts_key key).append _

/-! ## Values are read back -/

/-- Whether no key in the document, at any depth, is broken. -/
def keepsKeys : Json → Bool :=
  Json.all fun
    | .object entries => entries.all fun e => !isBrokenKey e.1
    | _ => true

theorem keepsKeys_array (items : List Json) : keepsKeys (.array items) = items.all keepsKeys := by
  rw [keepsKeys, Json.all_array, Bool.true_and]

theorem keepsKeys_object (entries : List (String × Json)) :
    keepsKeys (.object entries) = entries.all fun e => !isBrokenKey e.1 && keepsKeys e.2 := by
  rw [keepsKeys, Json.all_object, Bool.eq_iff_iff]
  simp only [Bool.and_eq_true, List.all_eq_true]
  exact forall₂_and.symm

theorem readEntry_writtenEntry {value : List Char → Option (Json × List Char)} {indent rest : List Char}
    {key text : String} {good : Bool} {back : Json} (hstarts : Starts (indented indent text.toList))
    (hvalue : value (indented indent text.toList ++ rest) = if good then some (back, rest) else none) :
    readEntry value (indented indent (writtenEntry key text).toList ++ rest) =
      if !isBrokenKey key && good then some ((key, back), rest) else none := by
  have hcolon : indented indent ": ".toList = [':', ' '] := rfl
  rw [writtenEntry, String.toList_append, String.toList_append, indented_append, indented_append,
    hcolon, readEntry]
  cases hbroken : isBrokenKey key with
  | true =>
      -- the key ends its line, and no colon follows what is left of it
      obtain ⟨name, hname, hkey⟩ := key_of_isBrokenKey hbroken
      rw [hkey, indented_append, indented_of_not_mem indent (not_mem_of_isIdentifier hname),
        indented_newline, List.append_assoc, List.append_assoc, List.append_assoc, List.cons_append,
        readKey_of_isIdentifier hname (by decide)]
      rfl
  | false =>
      have hskip : skipBlanks ([' '] ++ (indented indent text.toList ++ rest)) = _ :=
        (hstarts.append rest).skipBlanks (by simp)
      rw [indented_of_not_mem indent (not_mem_key hbroken), List.append_assoc, List.append_assoc,
        List.cons_append, readKey_key hbroken]
      simp only [hskip, hvalue]
      cases good <;> rfl

theorem endsNumber_newline (rest : List Char) : EndsNumber ('\n' :: rest) := by
  simp [EndsNumber]

theorem readScalar_toString (n : Int) {rest : List Char} (h : EndsNumber rest) :
    readScalar ((toString n).toList ++ rest) = some (.int n, rest) := by
  have hnumber := readNumber_toString n h
  obtain ⟨c, cs, hlist, hc⟩ := exists_toList_toString_int n
  have hmarks : c ≠ 'n' ∧ c ≠ 't' ∧ c ≠ 'f' ∧ c ≠ '\'' := by
    refine ⟨?_, ?_, ?_, ?_⟩
    all_goals
      rintro rfl
      exact absurd hc (by decide)
  rw [hlist, List.cons_append] at hnumber ⊢
  rw [readScalar, hnumber]
  · rfl
  all_goals simp [hmarks]

theorem readScalar_text (s : String) (rest : List Char) :
    readScalar ((text s).toList ++ rest) = some (.text s, rest) := by
  simp [text, readScalar, readText_escape]

/-- No scalar starts like a block. -/
theorem readValue_of_readScalar {cs rest : List Char} {doc : Json} (h : readScalar cs = some (doc, rest))
    (fuel : Nat) : readValue (fuel + 1) cs = some (doc, rest) := by
  have hbracket (others : List Char) : cs ≠ '[' :: others ∧ cs ≠ '{' :: others := by
    constructor <;> rintro rfl <;> cases h
  rw [readValue, h]
  all_goals simp [hbracket]

/-- What is written for the document is read as the document with its keys in order, unless a key is
broken, and nothing of what follows is read. -/
def ReadBack (indent : List Char) (doc : Json) : Prop :=
  ∀ (depth fuel : Nat) (rest : List Char), EndsNumber rest →
    (indented indent (written depth doc).toList).length ≤ fuel →
    readValue fuel (indented indent (written depth doc).toList ++ rest) =
      if keepsKeys doc then some (doc.sortKeys, rest) else none

theorem exists_fuel {doc : Json} {indent : List Char} {depth fuel : Nat} (h : doc.isExact = true)
    (hfuel : (indented indent (written depth doc).toList).length ≤ fuel) : ∃ less, fuel = less + 1 := by
  obtain ⟨c, rest, hcons, _⟩ := starts_iff.mp ((starts_written h depth).indented indent)
  rw [hcons, List.length_cons] at hfuel
  exact Nat.exists_eq_add_one_of_ne_zero (Nat.ne_zero_of_lt hfuel)

theorem readBack_of_readScalar {doc : Json} {indent : List Char} {text : String}
    (hdoc : doc.isExact = true) (hkeys : keepsKeys doc = true) (hsort : doc.sortKeys = doc)
    (htext : ∀ depth, written depth doc = text) (hfeed : '\n' ∉ text.toList)
    (hread : ∀ rest, EndsNumber rest → readScalar (text.toList ++ rest) = some (doc, rest)) :
    ReadBack indent doc := by
  intro depth fuel rest hrest hfuel
  obtain ⟨less, rfl⟩ := exists_fuel hdoc hfuel
  rw [htext, indented_of_not_mem indent hfeed, readValue_of_readScalar (hread rest hrest), hkeys, hsort,
    if_pos rfl]

theorem readBack_array {items : List Json} {indent : List Char} (hindent : ∀ c ∈ indent, c = ' ')
    (hdoc : (Json.array items).isExact = true) (ih : ∀ x ∈ items, ReadBack indent x) :
    ReadBack indent (.array items) := by
  intro depth fuel rest hrest hfuel
  obtain ⟨less, rfl⟩ := exists_fuel hdoc hfuel
  rw [Json.isExact_array, List.all_eq_true] at hdoc
  rw [keepsKeys_array, Json.sortKeys_array]
  rw [written_array] at hfuel ⊢
  split at hfuel
  case isTrue hempty =>
    rw [if_pos hempty, List.isEmpty_iff.mp hempty]
    rfl
  case isFalse hne =>
    have hitem (x : Json) (hx : x ∈ items)
        (hlength : (indented indent (written (depth + 1) x).toList).length ≤ less) (rest : List Char) :
        readValue less (indented indent (written (depth + 1) x).toList ++ '\n' :: rest) =
          if keepsKeys x then some (x.sortKeys, '\n' :: rest) else none :=
      ih x hx _ _ _ (endsNumber_newline rest) hlength
    obtain ⟨body, htext, hread⟩ := readLines_block .square hindent (by simpa using hne) hfuel
      (fun x hx => starts_written (hdoc x hx) (depth + 1)) hitem rest
    rw [if_neg hne, htext, readValue, hread]
    · cases items.all keepsKeys <;> rfl
    · simp

theorem readBack_object {entries : List (String × Json)} {indent : List Char}
    (hindent : ∀ c ∈ indent, c = ' ') (hdoc : (Json.object entries).isExact = true)
    (ih : ∀ e ∈ entries, ReadBack indent e.2) : ReadBack indent (.object entries) := by
  intro depth fuel rest hrest hfuel
  obtain ⟨less, rfl⟩ := exists_fuel hdoc hfuel
  rw [Json.isExact_object, List.all_eq_true] at hdoc
  rw [keepsKeys_object, Json.sortKeys_object]
  rw [written_object] at hfuel ⊢
  split at hfuel
  case isTrue hempty =>
    rw [if_pos hempty, List.isEmpty_iff.mp hempty, (sortByName_perm Prod.fst []).eq_nil]
    rfl
  case isFalse hne =>
    have hsorted := sortByName_perm Prod.fst entries
    have hlines : sortByName Prod.fst entries ≠ [] := fun h =>
      hne (List.isEmpty_iff.mpr (List.nil_perm.mp (h ▸ hsorted)))
    have hentry (e : String × Json) (he : e ∈ sortByName Prod.fst entries)
        (hlength : (indented indent (writtenEntry e.1 (written (depth + 1) e.2)).toList).length ≤ less)
        (rest : List Char) :
        readEntry (readValue less)
            (indented indent (writtenEntry e.1 (written (depth + 1) e.2)).toList ++ '\n' :: rest) =
          if !isBrokenKey e.1 && keepsKeys e.2 then some ((e.1, e.2.sortKeys), '\n' :: rest)
          else none := by
      have hmem := hsorted.mem_iff.mp he
      refine readEntry_writtenEntry ((starts_written (hdoc e hmem) _).indented indent) ?_
      refine ih e hmem _ _ _ (endsNumber_newline rest) (le_trans ?_ hlength)
      rw [writtenEntry, String.toList_append, indented_append, List.length_append]
      omega
    obtain ⟨body, htext, hread⟩ := readLines_block .curly hindent hlines hfuel
      (fun e _ => starts_writtenEntry e.1 _) hentry rest
    rw [if_neg hne, htext, readValue, hread, hsorted.all_eq]
    · split <;> rfl
    · simp

/-- What is written for a document is read as the document with its keys in order, unless a key is
broken. -/
theorem readBack_of_isExact {indent : List Char} (hindent : ∀ c ∈ indent, c = ' ') {doc : Json}
    (hdoc : doc.isExact = true) : ReadBack indent doc := by
  induction doc using Json.inductionOn with
  | null => exact readBack_of_readScalar rfl rfl rfl (fun _ => rfl) (by decide) fun _ _ => rfl
  | bool b =>
      cases b
      · exact readBack_of_readScalar rfl rfl rfl (fun _ => rfl) (by decide) fun _ _ => rfl
      · exact readBack_of_readScalar rfl rfl rfl (fun _ => rfl) (by decide) fun _ _ => rfl
  | int n =>
      exact readBack_of_readScalar rfl rfl rfl (fun _ => rfl) (not_mem_toString n) fun _ hrest =>
        readScalar_toString n hrest
  | float x => cases hdoc
  | text s =>
      exact readBack_of_readScalar rfl rfl rfl (fun _ => rfl) (not_mem_text s) fun rest _ =>
        readScalar_text s rest
  | array items ih =>
      refine readBack_array hindent hdoc fun x hx => ih x hx ?_
      rw [Json.isExact_array, List.all_eq_true] at hdoc
      exact hdoc x hx
  | object entries ih =>
      refine readBack_object hindent hdoc fun e he => ih e he ?_
      rw [Json.isExact_object, List.all_eq_true] at hdoc
      exact hdoc e he

theorem read_indentLines {indent : String} (hindent : ∀ c ∈ indent.toList, c = ' ') {doc : Json}
    (hdoc : doc.isExact = true) :
    read (indentLines indent (written 0 doc)) = if keepsKeys doc then some doc.sortKeys else none := by
  have hread := readBack_of_isExact hindent hdoc 0 _ [] (by simp [EndsNumber]) le_rfl
  rw [List.append_nil] at hread
  rw [read, toList_indentLines, hread]
  cases keepsKeys doc <;> rfl

/-- A document whose numbers are whole has a literal, for every owner and every indentation by blanks,
exactly if no number has too many digits and there is room for the calls that the literal takes. If no key
is an identifier with a line feed behind it, the literal is read back as the document, up to the order of
its keys; otherwise it is no literal at all. -/
theorem read_ofValue (owner : String) {indent : String} (hindent : ∀ c ∈ indent.toList, c = ' ')
    {doc : Json} (hdoc : doc.isExact = true) :
    ((∃ text, ofValue owner indent (ofJson doc) = .ok text) ↔
      doc.longest ≤ Text.digitLimit ∧ (ofJson doc).calls ≤ callLimit) ∧
    ∀ text, ofValue owner indent (ofJson doc) = .ok text →
      (keepsKeys doc = true → ∃ back, read text = some back ∧ doc.Reordered back) ∧
      (keepsKeys doc = false → read text = none) := by
  refine ⟨?_, fun text htext => ?_⟩
  · simp only [ofValue_ofJson_eq_ok_iff, exists_and_left, exists_eq', and_true]
  · obtain ⟨-, -, rfl⟩ := ofValue_ofJson_eq_ok_iff.mp htext
    rw [read_indentLines hindent hdoc]
    refine ⟨fun hkeys => ⟨doc.sortKeys, ?_, doc.reordered_sortKeys⟩, fun hkeys => ?_⟩
    · rw [hkeys, if_pos rfl]
    · rw [hkeys]
      rfl

/-- Quotes, backslashes, interpolations and line ends in texts and in keys, and keys that are no
identifiers, in nested blocks. -/
def crowded : Json :=
  .object [
    ("z", .array [.int (-12), .text "it's $\x7bhere\x7d\r\n\\", .null, .object []]),
    ("a\n ", .object [("$\x7bx\x7d", .bool true)])]

theorem read_ofValue_crowded :
    (∀ c ∈ "    ".toList, c = ' ') ∧ crowded.isExact = true ∧ keepsKeys crowded = true ∧
      ∃ text, ofValue "parameter" "    " (ofJson crowded) = .ok text ∧
        ∃ back, read text = some back ∧ crowded.Reordered back := by
  have hindent : ∀ c ∈ "    ".toList, c = ' ' := by simp
  have hexact : crowded.isExact = true := by decide
  have hkeys : keepsKeys crowded = true := by decide
  obtain ⟨hexists, hread⟩ := read_ofValue "parameter" hindent hexact
  obtain ⟨text, htext⟩ := hexists.mpr ⟨by decide, by decide⟩
  exact ⟨hindent, hexact, hkeys, text, htext, (hread text htext).1 hkeys⟩

/-- The line feed of a broken key stands in the literal as it is, which cannot be read. -/
theorem ofValue_brokenKey :
    ofValue "parameter" "" (ofJson (.object [("a\n", .int 1)])) = .ok "\x7b\n  a\n: 1\n\x7d" ∧
      read "\x7b\n  a\n: 1\n\x7d" = none := by
  have hsorted : sortByName Prod.fst [("a\n", Json.int 1)] = [("a\n", .int 1)] :=
    List.mergeSort_singleton _
  constructor
  · refine ofValue_ofJson_eq_ok_iff.mpr ⟨by decide, by decide, ?_⟩
    rw [written_object, hsorted]
    rfl
  · rfl

end TemplateDocs.Literal
