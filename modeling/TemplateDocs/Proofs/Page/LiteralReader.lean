import TemplateDocs.Json.Reader
import TemplateDocs.Page.Literal
import TemplateDocs.Proofs.Value.Unbroken

/-! # Reading literals

A reader for the notation of literals: `null`, `true`, `false` and whole numbers, texts between single
quotes on one line, and blocks with an element or an entry on each line. A key is an identifier or a text.
Texts, keys and numbers that were written are read as what they were written for.
-/

namespace TemplateDocs.Literal

/-! ## Texts and keys -/

/-- Without the blanks at the start. -/
def skipBlanks (cs : List Char) : List Char :=
  cs.dropWhile (· == ' ')

/-- The character that an escape stands for. -/
def escaped? : Char → Option Char
  | '\\' => some '\\'
  | '\'' => some '\''
  | 'n' => some '\n'
  | 'r' => some '\r'
  | 't' => some '\t'
  | '$' => some '$'
  | _ => none

/-- The characters of a text up to its closing quote, and what follows it. A text ends on the line that
it starts on, and no interpolation stands in it. -/
def readText : List Char → Option (List Char × List Char)
  | [] => none
  | '\'' :: rest => some ([], rest)
  | '\\' :: c :: rest =>
    match escaped? c, readText rest with
    | some e, some (cs, rest) => some (e :: cs, rest)
    | _, _ => none
  | '$' :: '{' :: _ => none
  | c :: rest =>
    if Text.isFileLineEnd c then none
    else (readText rest).map fun (cs, rest) => (c :: cs, rest)

/-- Whether a name can start with a character. -/
def isNameStart (c : Char) : Bool :=
  c.isAlpha || c == '_'

/-- Letters, digits and underscores, the first of them no digit. -/
def isIdentifier : List Char → Bool
  | [] => false
  | c :: rest => isNameStart c && rest.all isNameChar

/-- A key, which is an identifier or a text between quotes, and what follows it. -/
def readKey : List Char → Option (String × List Char)
  | [] => none
  | '\'' :: rest => (readText rest).map fun (cs, rest) => (String.ofList cs, rest)
  | c :: rest =>
    if isNameStart c then
      some (String.ofList (c :: rest.takeWhile isNameChar), rest.dropWhile isNameChar)
    else none

/-! ## Values -/

/-- A run of digits and what follows it. -/
def readDigits (cs : List Char) : Option (Nat × List Char) :=
  match cs.takeWhile Char.isDigit with
  | [] => none
  | digits => some (Json.digitsValue digits, cs.dropWhile Char.isDigit)

/-- A whole number and what follows it. -/
def readNumber : List Char → Option (Int × List Char)
  | '-' :: rest => (readDigits rest).map fun (n, rest) => (-(n : Int), rest)
  | cs => (readDigits cs).map fun (n, rest) => ((n : Int), rest)

/-- A value that is no block. -/
def readScalar : List Char → Option (Json × List Char)
  | 'n' :: 'u' :: 'l' :: 'l' :: rest => some (.null, rest)
  | 't' :: 'r' :: 'u' :: 'e' :: rest => some (.bool true, rest)
  | 'f' :: 'a' :: 'l' :: 's' :: 'e' :: rest => some (.bool false, rest)
  | '\'' :: rest => (readText rest).map fun (cs, rest) => (.text (String.ofList cs), rest)
  | cs => (readNumber cs).map fun (n, rest) => (.int n, rest)

/-- The lines of a block up to its closing bracket. Each of them is set in by blanks and has one
element. -/
def readLines {α : Type} (closing : Char) (element : List Char → Option (α × List Char)) :
    (fuel : Nat) → List Char → Option (List α × List Char)
  | fuel + 1, '\n' :: line =>
    match skipBlanks line with
    | [] => none
    | c :: cs =>
      if c == closing then some ([], cs)
      else
        match element (c :: cs) with
        | none => none
        | some (first, rest) =>
          (readLines closing element fuel rest).map fun (others, rest) => (first :: others, rest)
  | _, _ => none

/-- A key, a colon and a value. -/
def readEntry (value : List Char → Option (Json × List Char)) (cs : List Char) :
    Option ((String × Json) × List Char) :=
  match readKey cs with
  | some (key, ':' :: rest) => (value (skipBlanks rest)).map fun (v, rest) => ((key, v), rest)
  | _ => none

/-- One value at the start of the text, and what follows it. -/
def readValue : (fuel : Nat) → List Char → Option (Json × List Char)
  | 0, _ => none
  | _ + 1, '[' :: ']' :: rest => some (.array [], rest)
  | fuel + 1, '[' :: lines =>
    (readLines ']' (readValue fuel) fuel lines).map fun (items, rest) => (.array items, rest)
  | _ + 1, '{' :: '}' :: rest => some (.object [], rest)
  | fuel + 1, '{' :: lines =>
    (readLines '}' (readEntry (readValue fuel)) fuel lines).map fun (entries, rest) =>
      (.object entries, rest)
  | _ + 1, cs => readScalar cs

/-- The value that a literal stands for; nothing else may follow it. -/
def read (s : String) : Option Json :=
  match readValue s.toList.length s.toList with
  | some (v, []) => some v
  | _ => none

/-! ## Texts that were written -/

/-- A brace at the start of an escaped text is one of the text itself. -/
theorem brace_of_escape {cs rest tail : List Char} (h : escape cs ++ '\'' :: rest = '{' :: tail) :
    ∃ others, cs = '{' :: others := by
  revert h
  fun_cases escape cs with
  | case1 => simp
  | case2 others => simp
  | case3 c others hne =>
      intro h
      split at h
      all_goals simp at h
      exact ⟨others, by rw [h.1]⟩

/-- A character that is no mark of the notation stands for itself. -/
theorem readText_cons {c : Char} {rest : List Char} (hquote : c ≠ '\'') (hbackslash : c ≠ '\\')
    (hdollar : c = '$' → ∀ tail, rest ≠ '{' :: tail) (hline : Text.isFileLineEnd c = false) :
    readText (c :: rest) = (readText rest).map fun (cs, rest) => (c :: cs, rest) := by
  rw [readText]
  · simp [hline]
  · exact hquote
  · exact fun _ _ h _ => hbackslash h
  · exact fun tail hc hrest => hdollar hc tail hrest

theorem readText_escape (cs rest : List Char) :
    readText (escape cs ++ '\'' :: rest) = some (cs, rest) := by
  fun_induction escape cs with
  | case1 => rfl
  | case2 others ih =>
      have hbrace : readText ('{' :: (escape others ++ '\'' :: rest)) = _ :=
        readText_cons (by decide) (by decide) (by simp) (by decide)
      simp [readText, escaped?, hbrace, ih]
  | case3 c others hne ih =>
      split
      case h_6 hbackslash hquote hfeed hreturn _ =>
        rw [List.singleton_append, List.cons_append, readText_cons hquote hbackslash, ih]
        · rfl
        · rintro rfl tail htail
          obtain ⟨more, hmore⟩ := brace_of_escape htail
          exact hne more rfl hmore
        · exact Text.isFileLineEnd_eq_false_iff.mpr ⟨hfeed, hreturn⟩
      all_goals simp [readText, escaped?, ih]

/-! ## Keys that were written -/

/-- An identifier with a line feed behind it. -/
def isBrokenKey (key : String) : Bool :=
  key.toList.getLast? == some '\n' && isIdentifier key.toList.dropLast

theorem isIdentifier_iff {cs : List Char} :
    isIdentifier cs = true ↔
      ∃ c rest, cs = c :: rest ∧ isNameStart c = true ∧ ∀ d ∈ rest, isNameChar d = true := by
  cases cs with
  | nil => simp [isIdentifier]
  | cons c rest => simp [isIdentifier]

theorem not_mem_of_isIdentifier {cs : List Char} (h : isIdentifier cs = true) : '\n' ∉ cs := by
  obtain ⟨c, rest, rfl, hc, hrest⟩ := isIdentifier_iff.mp h
  intro hmem
  rcases List.mem_cons.mp hmem with rfl | hmem
  · exact absurd hc (by decide)
  · exact absurd (hrest _ hmem) (by decide)

/-- A key stands without quotes if it is an identifier, and also if it is a broken one. -/
theorem isBareKey_eq (s : String) : isBareKey s.toList = (isIdentifier s.toList || isBrokenKey s) := by
  unfold isBareKey isBrokenKey
  by_cases hlast : s.toList.getLast? = some '\n'
  · have hnot : isIdentifier s.toList = false := by
      rw [Bool.eq_false_iff]
      exact fun h => not_mem_of_isIdentifier h (List.mem_of_getLast? hlast)
    simp only [hlast, beq_self_eq_true, if_true, hnot, Bool.false_or, Bool.true_and]
    cases s.toList.dropLast <;> rfl
  · have hbeq : (s.toList.getLast? == some '\n') = false := beq_eq_false_iff_ne.mpr hlast
    simp only [hbeq, Bool.false_and, Bool.or_false]
    cases s.toList <;> rfl

/-- A broken key is written as it is. -/
theorem key_of_isBrokenKey {s : String} (h : isBrokenKey s = true) :
    ∃ name, isIdentifier name = true ∧ (key s).toList = name ++ ['\n'] := by
  have hkey : key s = s := by
    rw [key, isBareKey_eq, h, Bool.or_true, if_pos rfl]
  rw [isBrokenKey, Bool.and_eq_true, beq_iff_eq] at h
  exact ⟨s.toList.dropLast, h.2, by rw [hkey, List.dropLast_append_getLast? _ h.1]⟩

/-- An identifier is read up to the first character that is not part of it. -/
theorem readKey_of_isIdentifier {name rest : List Char} {d : Char} (h : isIdentifier name = true)
    (hd : isNameChar d = false) :
    readKey (name ++ d :: rest) = some (String.ofList name, d :: rest) := by
  obtain ⟨c, cs, rfl, hc, hcs⟩ := isIdentifier_iff.mp h
  rw [List.cons_append, readKey]
  · rw [if_pos hc, List.takeWhile_append_of_pos hcs, List.dropWhile_append_of_pos hcs]
    simp [hd]
  · rintro rfl
    exact absurd hc (by decide)

theorem readKey_text (s : String) (rest : List Char) :
    readKey ((text s).toList ++ rest) = some (s, rest) := by
  simp [text, readKey, readText_escape]

/-- A key is read back unless it is broken. -/
theorem readKey_key {s : String} (h : isBrokenKey s = false) (rest : List Char) :
    readKey ((key s).toList ++ ':' :: rest) = some (s, ':' :: rest) := by
  rw [key, isBareKey_eq, h, Bool.or_false]
  split
  case isTrue hname =>
    rw [readKey_of_isIdentifier hname (by decide), String.ofList_toList]
  case isFalse => exact readKey_text s (':' :: rest)

/-! ## Numbers that were written -/

theorem digitsValue_toDigits (n : Nat) : Json.digitsValue (Nat.toDigits 10 n) = n :=
  Nat.ofDigitChars_toDigits (by decide) (by decide)

/-- The text does not go on with a digit. -/
def EndsNumber (rest : List Char) : Prop :=
  ∀ c ∈ rest.head?, c.isDigit = false

theorem readDigits_toDigits (n : Nat) {rest : List Char} (h : EndsNumber rest) :
    readDigits (Nat.toDigits 10 n ++ rest) = some (n, rest) := by
  have hdigits : ∀ c ∈ Nat.toDigits 10 n, c.isDigit = true := fun c hc =>
    Nat.isDigit_of_mem_toDigits (by decide) (by decide) hc
  have htake : rest.takeWhile Char.isDigit = [] ∧ rest.dropWhile Char.isDigit = rest := by
    cases rest with
    | nil => exact ⟨rfl, rfl⟩
    | cons c rest => simp [h c rfl]
  unfold readDigits
  rw [List.takeWhile_append_of_pos hdigits, List.dropWhile_append_of_pos hdigits, htake.1, htake.2,
    List.append_nil]
  split
  case h_1 hnil => exact absurd hnil Nat.toDigits_ne_nil
  case h_2 => rw [digitsValue_toDigits]

/-- The digits of a number with a sign in front of them if it is negative. -/
theorem toList_toString_int (n : Int) :
    (toString n).toList = (if n < 0 then ['-'] else []) ++ Nat.toDigits 10 n.natAbs := by
  cases n with
  | ofNat m => exact Nat.toList_repr
  | negSucc m =>
      change ("-" ++ Nat.repr (m + 1)).toList = _
      simp [String.toList_append, Nat.toList_repr, Int.negSucc_lt_zero]

theorem exists_toDigits (n : Nat) :
    ∃ d ds, Nat.toDigits 10 n = d :: ds ∧ d.isDigit = true := by
  obtain ⟨d, ds, hdigits⟩ := List.exists_cons_of_ne_nil (Nat.toDigits_ne_nil (n := n) (b := 10))
  exact ⟨d, ds, hdigits,
    Nat.isDigit_of_mem_toDigits (by decide) (by decide) (hdigits ▸ List.mem_cons_self)⟩

/-- A number starts with its sign or with a digit. -/
theorem exists_toList_toString_int (n : Int) :
    ∃ c cs, (toString n).toList = c :: cs ∧ (c = '-' ∨ c.isDigit = true) := by
  obtain ⟨d, ds, hdigits, hd⟩ := exists_toDigits n.natAbs
  rw [toList_toString_int, hdigits]
  split
  · exact ⟨'-', d :: ds, rfl, .inl rfl⟩
  · exact ⟨d, ds, rfl, .inr hd⟩

theorem readNumber_toString (n : Int) {rest : List Char} (h : EndsNumber rest) :
    readNumber ((toString n).toList ++ rest) = some (n, rest) := by
  have hread := readDigits_toDigits n.natAbs h
  rw [toList_toString_int]
  by_cases hn : n < 0
  · rw [if_pos hn, List.singleton_append, List.cons_append, readNumber, hread]
    simp only [Option.map_some]
    rw [Int.ofNat_natAbs_of_nonpos hn.le, Int.neg_neg]
  · rw [if_neg hn, List.nil_append, readNumber, hread]
    · simp only [Option.map_some]
      rw [Int.natAbs_of_nonneg (not_lt.mp hn)]
    · intro others hsign
      obtain ⟨d, ds, hdigits, hd⟩ := exists_toDigits n.natAbs
      rw [hdigits, List.cons_append, List.cons.injEq] at hsign
      exact absurd hd (hsign.1 ▸ by decide)

end TemplateDocs.Literal
