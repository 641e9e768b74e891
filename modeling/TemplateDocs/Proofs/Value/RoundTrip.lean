import TemplateDocs.Json.Reader
import TemplateDocs.Proofs.Json.Parts
import TemplateDocs.Proofs.Page.LiteralReader
import TemplateDocs.Proofs.Text.Order
import TemplateDocs.Proofs.Text.Split

/-! # Documents are read back from their text

Reading the text of a document on one line gives the document with its keys in order, within all limits
that the document keeps.
-/

namespace TemplateDocs.Json

open List Value

/-! ## Texts -/

theorem hexRun?_hexDigits :
    ∀ n < 0x20, (Text.hexDigits 4 n).length = 4 ∧ hexRun? (Text.hexDigits 4 n) = some n := by
  decide +kernel

theorem readUnits_unitEscape {n : Nat} (hn : n < 0x20) {units : List Nat} {cs rest : List Char}
    (h : readUnits cs = some (units, rest)) :
    readUnits (unitEscape n ++ cs) = some (n :: units, rest) := by
  obtain ⟨hlength, hvalue⟩ := hexRun?_hexDigits n hn
  rw [unitEscape]
  match hdigits : Text.hexDigits 4 n, hlength with
  | [a, b, c, d], _ =>
      rw [hdigits] at hvalue
      simp [readUnits, hvalue, h]

theorem readUnits_escape {d e : Char} (hd : d ≠ 'u') (he : escaped? d = some e) {units : List Nat}
    {cs rest : List Char} (h : readUnits cs = some (units, rest)) :
    readUnits ('\\' :: d :: cs) = some (e.toNat :: units, rest) := by
  rw [readUnits, he, h]
  simp [hd]

theorem readUnits_cons {c : Char} (hquote : c ≠ '"') (hbackslash : c ≠ '\\') (hc : 0x20 ≤ c.toNat)
    {units : List Nat} {cs rest : List Char} (h : readUnits cs = some (units, rest)) :
    readUnits (c :: cs) = some (c.toNat :: units, rest) := by
  rw [readUnits, if_neg (not_lt.mpr hc), h]
  · rfl
  all_goals simp [hquote, hbackslash]

/-- A character is written by a letter that stands for it, by its code or as it is. -/
theorem jsonChar_cases (c : Char) :
    (∃ d, jsonChar c = ['\\', d] ∧ d ≠ 'u' ∧ escaped? d = some c) ∨
      (c.toNat < 0x20 ∧ jsonChar c = unitEscape c.toNat) ∨
      (0x20 ≤ c.toNat ∧ c ≠ '"' ∧ c ≠ '\\' ∧ jsonChar c = [c]) := by
  unfold jsonChar
  split_ifs with hquote hbackslash hfeed hreturn htab hback hform hcontrol
  · exact .inl ⟨'"', rfl, by decide, congrArg some (beq_iff_eq.mp hquote).symm⟩
  · exact .inl ⟨'\\', rfl, by decide, congrArg some (beq_iff_eq.mp hbackslash).symm⟩
  · exact .inl ⟨'n', rfl, by decide, congrArg some (beq_iff_eq.mp hfeed).symm⟩
  · exact .inl ⟨'r', rfl, by decide, congrArg some (beq_iff_eq.mp hreturn).symm⟩
  · exact .inl ⟨'t', rfl, by decide, congrArg some (beq_iff_eq.mp htab).symm⟩
  · exact .inl ⟨'b', rfl, by decide, congrArg some (beq_iff_eq.mp hback).symm⟩
  · exact .inl ⟨'f', rfl, by decide, congrArg some (beq_iff_eq.mp hform).symm⟩
  · exact .inr (.inl ⟨hcontrol, rfl⟩)
  · exact .inr (.inr ⟨not_lt.mp hcontrol, by simpa using hquote, by simpa using hbackslash, rfl⟩)

theorem readUnits_jsonChar (c : Char) {units : List Nat} {cs rest : List Char}
    (h : readUnits cs = some (units, rest)) :
    readUnits (jsonChar c ++ cs) = some (c.toNat :: units, rest) := by
  obtain ⟨d, hchar, hd, he⟩ | ⟨hcontrol, hchar⟩ | ⟨hc, hquote, hbackslash, hchar⟩ := jsonChar_cases c
  · rw [hchar]
    exact readUnits_escape hd he h
  · rw [hchar]
    exact readUnits_unitEscape hcontrol h
  · rw [hchar]
    exact readUnits_cons hquote hbackslash hc h

theorem readUnits_flatMap (cs rest : List Char) :
    readUnits (cs.flatMap jsonChar ++ '"' :: rest) = some (cs.map Char.toNat, rest) := by
  induction cs with
  | nil => simp [readUnits]
  | cons c cs ih =>
      rw [List.flatMap_cons, List.append_assoc, List.map_cons]
      exact readUnits_jsonChar c ih

theorem ofUnit_toNat (c : Char) : Text.ofUnit c.toNat = c := by
  rw [Text.ofUnit, if_neg (Text.not_isHalf_toNat c), Char.ofNat_toNat]

/-- No character is half of a pair, so none join. -/
theorem joinUnits_toNat (cs : List Char) : joinUnits (cs.map Char.toNat) = cs := by
  induction cs with
  | nil => rfl
  | cons c cs ih =>
      cases cs with
      | nil => simp [joinUnits, ofUnit_toNat]
      | cons d cs =>
          have hc := Text.not_isHalf_toNat c
          rw [Text.isHalf_iff] at hc
          simp only [List.map_cons] at ih ⊢
          rw [joinUnits, if_neg (by omega), ih, ofUnit_toNat]

theorem readString_flatMap (s : String) (rest : List Char) :
    readString (s.toList.flatMap jsonChar ++ '"' :: rest) = .ok (s, rest) := by
  rw [readString, readUnits_flatMap]
  simp [joinUnits_toNat]

/-! ## Numbers -/

theorem digitChar_ne_zero : ∀ n < 10, 0 < n → n.digitChar ≠ '0' := by
  decide

theorem exists_toDigits_of_pos {n : Nat} (hn : 0 < n) :
    ∃ d ds, Nat.toDigits 10 n = d :: ds ∧ d ≠ '0' := by
  induction n using Nat.strongRecOn with
  | ind n ih =>
      by_cases hlt : n < 10
      · exact ⟨n.digitChar, [], Nat.toDigits_of_lt_base hlt, digitChar_ne_zero n hlt hn⟩
      · obtain ⟨d, ds, hdigits, hd⟩ := ih (n / 10) (by omega) (by omega)
        refine ⟨d, ds ++ [(n % 10).digitChar], ?_, hd⟩
        rw [Nat.toDigits_of_base_le (by decide) (by omega), hdigits, List.cons_append]

/-- The text ends, or goes on with what may follow a value in an array or an object. -/
inductive Ends : List Char → Prop where
  | nothing : Ends []
  | comma (cs : List Char) : Ends (',' :: cs)
  | bracket (cs : List Char) : Ends (']' :: cs)
  | brace (cs : List Char) : Ends ('\x7d' :: cs)

namespace Ends

variable {rest : List Char}

theorem takeWhile (h : Ends rest) : rest.takeWhile Char.isDigit = [] := by
  cases h <;> rfl

theorem dropWhile (h : Ends rest) : rest.dropWhile Char.isDigit = rest := by
  cases h <;> rfl

theorem readFraction (h : Ends rest) : readFraction rest = none := by
  cases h <;> rfl

theorem readExponent (h : Ends rest) : readExponent rest = none := by
  cases h <;> rfl

end Ends

theorem readWhole_toDigits (n : Nat) {rest : List Char} (h : Ends rest) :
    readWhole (Nat.toDigits 10 n ++ rest) = some (Nat.toDigits 10 n, rest) := by
  rcases Nat.eq_zero_or_pos n with rfl | hn
  · rfl
  · obtain ⟨d, ds, hdigits, hzero⟩ := exists_toDigits_of_pos hn
    have hall : ∀ c ∈ d :: ds, c.isDigit = true := fun c hc =>
      Nat.isDigit_of_mem_toDigits (by decide) (by decide) (hdigits ▸ hc)
    obtain ⟨hd, hds⟩ := List.forall_mem_cons.mp hall
    rw [hdigits, List.cons_append, readWhole, if_pos hd, List.takeWhile_append_of_pos hds,
      List.dropWhile_append_of_pos hds, h.takeWhile, h.dropWhile, List.append_nil]
    simpa using hzero

theorem readUnsigned_toDigits {limits : Limits} (negative : Bool) {n : Nat}
    (hlimit : (Nat.toDigits 10 n).length ≤ limits.digits) {rest : List Char} (h : Ends rest) :
    readUnsigned limits negative (Nat.toDigits 10 n ++ rest) =
      .ok (int (if negative then -n else n), rest) := by
  rw [readUnsigned, readWhole_toDigits n h]
  simp [h.readFraction, h.readExponent, hlimit, Literal.digitsValue_toDigits]

/-- What a number starts with is none of the marks that no number starts with. -/
theorem not_mem_of_startsNumber {c : Char} (hc : c = '-' ∨ c.isDigit = true) {marks : List Char}
    (h : (marks.all fun d => d != '-' && !d.isDigit) = true) : c ∉ marks := by
  intro hmem
  have hother := List.all_eq_true.mp h c hmem
  rcases hc with rfl | hc
  · cases hother
  · simp [hc] at hother

theorem readNumber_toString {limits : Limits} {n : Int} (hlimit : (int n).longest ≤ limits.digits)
    {rest : List Char} (h : Ends rest) :
    readNumber limits ((toString n).toList ++ rest) = .ok (int n, rest) := by
  rw [Literal.toList_toString_int]
  obtain ⟨d, ds, hdigits, hd⟩ := Literal.exists_toDigits n.natAbs
  have hnames : d ∉ ['N', 'I'] := not_mem_of_startsNumber (.inr hd) (by decide)
  simp only [List.mem_cons, List.not_mem_nil, or_false, not_or] at hnames
  have hsign : d ≠ '-' := by
    rintro rfl
    exact absurd hd (by decide)
  have hread (negative : Bool) := readUnsigned_toDigits negative hlimit h
  rw [hdigits] at hread ⊢
  by_cases hn : n < 0
  · rw [if_pos hn, List.singleton_append, List.cons_append, readNumber, hread]
    · simp [Int.ofNat_natAbs_of_nonpos hn.le]
    · simp [hnames]
  · rw [if_neg hn, List.nil_append, readNumber, hread]
    · simp [Int.natAbs_of_nonneg (not_lt.mp hn)]
    all_goals simp [hnames, hsign]

/-! ## Where values start -/

/-- The text starts with a character that is neither blank nor a closing bracket. -/
def Starts (cs : List Char) : Prop :=
  (cs.head?.any fun c => c ∉ [' ', '\t', '\n', '\r', ']', '\x7d']) = true

instance (cs : List Char) : Decidable (Starts cs) :=
  inferInstanceAs (Decidable (_ = true))

theorem starts_iff {cs : List Char} :
    Starts cs ↔ ∃ c rest, cs = c :: rest ∧ c ∉ [' ', '\t', '\n', '\r', ']', '\x7d'] := by
  cases cs <;> simp [Starts]

theorem Starts.append {cs : List Char} (h : Starts cs) (ds : List Char) : Starts (cs ++ ds) := by
  obtain ⟨c, rest, rfl, hc⟩ := starts_iff.mp h
  exact starts_iff.mpr ⟨c, rest ++ ds, rfl, hc⟩

theorem Starts.skipSpace {cs : List Char} (h : Starts cs) : skipSpace cs = cs := by
  obtain ⟨c, rest, rfl, hc⟩ := starts_iff.mp h
  have hspace : isSpace c = false := by
    simp only [List.mem_cons, not_or] at hc
    simp [isSpace, hc]
  rw [Json.skipSpace, List.dropWhile_cons_of_neg (by simp [hspace])]

theorem starts_toString (n : Int) : Starts (toString n).toList := by
  obtain ⟨c, cs, hlist, hc⟩ := Literal.exists_toList_toString_int n
  exact starts_iff.mpr ⟨c, cs, hlist, not_mem_of_startsNumber hc (by decide)⟩

theorem toList_jsonString (s : String) :
    (jsonString jsonChar s).toList = '"' :: (s.toList.flatMap jsonChar ++ ['"']) :=
  String.toList_ofList

theorem starts_encoded {doc : Json} (h : doc.isExact = true) : Starts (encoded doc).toList := by
  cases doc with
  | null => exact (by decide : Starts "null".toList)
  | bool b => exact (by decide : ∀ b, Starts (if b then "true" else "false").toList) b
  | int n => exact starts_toString n
  | float x => cases h
  | text s => exact starts_iff.mpr ⟨'"', _, toList_jsonString s, by decide⟩
  | array items =>
      rw [encoded_array, String.append_assoc, String.toList_append]
      exact Starts.append (by decide) _
  | object entries =>
      rw [encoded_object, String.append_assoc, String.toList_append]
      exact Starts.append (by decide) _

theorem starts_encodedMember (key text : String) : Starts (encodedMember key text).toList := by
  rw [encodedMember, String.toList_append, String.toList_append, toList_jsonString]
  exact starts_iff.mpr ⟨'"', _, rfl, by decide⟩

/-! ## Arrays and objects -/

section Steps

variable {limits : Limits} {fuel room : Nat} {cs rest : List Char}

theorem readItems_last {item : Json} (h : readValue limits fuel room cs = .ok (item, ']' :: rest)) :
    readItems limits (fuel + 1) room cs = .ok ([item], rest) := by
  rw [readItems, h]
  rfl

theorem readItems_more {item : Json} {items : List Json} {more : List Char}
    (h : readValue limits fuel room cs = .ok (item, ',' :: ' ' :: more)) (hstarts : Starts more)
    (hmore : readItems limits fuel room more = .ok (items, rest)) :
    readItems limits (fuel + 1) room cs = .ok (item :: items, rest) := by
  have hskip : skipSpace (' ' :: more) = more := hstarts.skipSpace
  have hcomma : skipSpace (',' :: ' ' :: more) = ',' :: ' ' :: more := rfl
  rw [readItems, h]
  simp only [bind, Except.bind, hcomma, hskip, hmore]
  rfl

/-- After a key and its value the object ends or goes on. -/
theorem readEntries_encodedMember {key text : String} {value : Json} (hstarts : Starts text.toList)
    (h : readValue limits fuel room (text.toList ++ cs) = .ok (value, cs)) :
    readEntries limits (fuel + 1) room ((encodedMember key text).toList ++ cs) =
      match skipSpace cs with
      | '\x7d' :: rest => .ok ([(key, value)], rest)
      | ',' :: rest => do
        let (entries, rest) ← readEntries limits fuel room (skipSpace rest)
        return ((key, value) :: entries, rest)
      | _ => .error .malformed := by
  have htext : (encodedMember key text).toList ++ cs =
      '"' :: (key.toList.flatMap jsonChar ++ '"' :: ':' :: ' ' :: (text.toList ++ cs)) := by
    rw [encodedMember, String.toList_append, String.toList_append, toList_jsonString]
    simp
  have hcolon : skipSpace (':' :: ' ' :: (text.toList ++ cs)) = ':' :: ' ' :: (text.toList ++ cs) := rfl
  have hskip : skipSpace (' ' :: (text.toList ++ cs)) = text.toList ++ cs :=
    (hstarts.append cs).skipSpace
  rw [htext, readEntries]
  simp only [bind, Except.bind, readString_flatMap, hcolon, hskip, h]
  rfl

theorem readEntries_last {key text : String} {value : Json} (hstarts : Starts text.toList)
    (h : readValue limits fuel room (text.toList ++ '\x7d' :: rest) = .ok (value, '\x7d' :: rest)) :
    readEntries limits (fuel + 1) room ((encodedMember key text).toList ++ '\x7d' :: rest) =
      .ok ([(key, value)], rest) :=
  readEntries_encodedMember hstarts h

theorem readEntries_more {key text : String} {value : Json} {entries : List (String × Json)}
    {more : List Char} (hstarts : Starts text.toList)
    (h : readValue limits fuel room (text.toList ++ ',' :: ' ' :: more) = .ok (value, ',' :: ' ' :: more))
    (hnext : Starts more) (hmore : readEntries limits fuel room more = .ok (entries, rest)) :
    readEntries limits (fuel + 1) room ((encodedMember key text).toList ++ ',' :: ' ' :: more) =
      .ok ((key, value) :: entries, rest) := by
  have hcomma : skipSpace (',' :: ' ' :: more) = ',' :: ' ' :: more := rfl
  have hskip : skipSpace (' ' :: more) = more := hnext.skipSpace
  rw [readEntries_encodedMember hstarts h, hcomma]
  simp only [hskip, hmore]
  rfl

theorem readValue_array {items : List Json} (hstarts : Starts cs)
    (h : readItems limits fuel room cs = .ok (items, rest)) :
    readValue limits (fuel + 1) (room + 1) ('[' :: cs) = .ok (array items, rest) := by
  have hskip := hstarts.skipSpace
  obtain ⟨c, others, rfl, hc⟩ := starts_iff.mp hstarts
  have hopen : c ≠ ']' := fun hclosing => hc (by simp [hclosing])
  unfold readValue
  simp only [hskip, bind, Except.bind]
  split
  case h_1 hroom => cases hroom
  case h_2 hclosing _ => exact absurd (List.cons.inj hclosing).1 hopen
  case h_3 hroom _ =>
    cases hroom
    rw [h]
    rfl

theorem readValue_object {entries : List (String × Json)} (hstarts : Starts cs)
    (h : readEntries limits fuel room cs = .ok (entries, rest)) :
    readValue limits (fuel + 1) (room + 1) ('\x7b' :: cs) =
      .ok (object (lastEntries entries), rest) := by
  have hskip := hstarts.skipSpace
  obtain ⟨c, others, rfl, hc⟩ := starts_iff.mp hstarts
  have hopen : c ≠ '\x7d' := fun hclosing => hc (by simp [hclosing])
  unfold readValue
  simp only [hskip, bind, Except.bind]
  split
  case h_1 hroom => cases hroom
  case h_2 hclosing _ => exact absurd (List.cons.inj hclosing).1 hopen
  case h_3 hroom _ =>
    cases hroom
    rw [h]
    rfl

end Steps

theorem toList_join_cons (text next : String) (texts : List String) :
    (Text.join ", " (text :: next :: texts)).toList =
      text.toList ++ ',' :: ' ' :: (Text.join ", " (next :: texts)).toList := by
  have hcomma : ", ".toList = [',', ' '] := rfl
  rw [Text.join, Text.join, String.toList_intercalate, String.toList_intercalate, List.map_cons,
    List.map_cons, List.intercalate_cons_cons, hcomma]
  simp

theorem starts_join {text : String} (h : Starts text.toList) (texts : List String) :
    Starts (Text.join ", " (text :: texts)).toList := by
  rw [Text.join, String.toList_intercalate, List.map_cons]
  obtain ⟨rest, hrest⟩ := Text.prefix_intercalate ", ".toList text.toList (texts.map String.toList)
  exact hrest ▸ h.append rest

/-- Elements that are read one by one, each in one step, are read from their joined texts. -/
theorem read_join {α β : Type} (read : Nat → List Char → Except ReadError (List β × List Char))
    {closing : Char} {text : α → String} {back : α → β} {xs : List α} (hne : xs ≠ [])
    (hstarts : ∀ x ∈ xs, Starts (text x).toList)
    (hlast : ∀ x ∈ xs, ∀ fuel rest, 2 * (text x).toList.length ≤ fuel →
      read (fuel + 1) ((text x).toList ++ closing :: rest) = .ok ([back x], rest))
    (hmore : ∀ x ∈ xs, ∀ fuel more ys rest, 2 * (text x).toList.length ≤ fuel → Starts more →
      read fuel more = .ok (ys, rest) →
      read (fuel + 1) ((text x).toList ++ ',' :: ' ' :: more) = .ok (back x :: ys, rest))
    {fuel : Nat} (hfuel : 2 * (Text.join ", " (xs.map text)).toList.length < fuel)
    (rest : List Char) :
    read fuel ((Text.join ", " (xs.map text)).toList ++ closing :: rest) =
      .ok (xs.map back, rest) := by
  induction xs generalizing fuel with
  | nil => exact absurd rfl hne
  | cons x xs ih =>
      obtain ⟨fuel, rfl⟩ := Nat.exists_eq_add_one_of_ne_zero (Nat.ne_zero_of_lt hfuel)
      obtain ⟨hxLast, hxsLast⟩ := List.forall_mem_cons.mp hlast
      obtain ⟨hxMore, hxsMore⟩ := List.forall_mem_cons.mp hmore
      cases xs with
      | nil =>
          rw [List.map_singleton, Text.join, String.intercalate_singleton] at hfuel ⊢
          exact hxLast fuel rest (by omega)
      | cons y ys =>
          rw [List.map_cons, List.map_cons, toList_join_cons, ← List.map_cons] at hfuel ⊢
          -- the step takes one of the fuel, and the separator alone leaves more than that
          simp only [List.length_append, List.length_cons] at hfuel
          rw [List.append_assoc, List.cons_append, List.cons_append]
          refine hxMore fuel _ _ rest (by omega) ?_
            (ih (by simp) (List.forall_mem_cons.mp hstarts).2 hxsLast hxsMore (by omega))
          exact (starts_join (hstarts y (by simp)) _).append _

/-! ## Values -/

/-- The text of the document is read as the document with its keys in order, and nothing of what
follows is read. Two steps for each character are enough. -/
def ReadBack (limits : Limits) (doc : Json) : Prop :=
  ∀ (fuel room : Nat) (rest : List Char), Ends rest → doc.depth ≤ room →
    2 * (encoded doc).toList.length ≤ fuel →
    readValue limits fuel room ((encoded doc).toList ++ rest) = .ok (doc.sortKeys, rest)

theorem readBack_of_step {limits : Limits} {doc : Json} (hdoc : doc.isExact = true)
    (hstep : ∀ (fuel room : Nat) (rest : List Char), Ends rest → doc.depth ≤ room →
      2 * (encoded doc).toList.length ≤ fuel + 1 →
      readValue limits (fuel + 1) room ((encoded doc).toList ++ rest) = .ok (doc.sortKeys, rest)) :
    ReadBack limits doc := by
  intro fuel room rest hrest hroom hfuel
  obtain ⟨c, cs, hcons, -⟩ := starts_iff.mp (starts_encoded hdoc)
  have hpos : 0 < (encoded doc).toList.length := by simp [hcons]
  obtain ⟨fuel, rfl⟩ := Nat.exists_eq_add_one_of_ne_zero (n := fuel) (by omega)
  exact hstep fuel room rest hrest hroom hfuel

theorem readValue_toString {limits : Limits} {n : Int} (hlimit : (int n).longest ≤ limits.digits)
    (fuel room : Nat) {rest : List Char} (h : Ends rest) :
    readValue limits (fuel + 1) room ((toString n).toList ++ rest) = .ok (int n, rest) := by
  have hnumber := readNumber_toString hlimit h
  obtain ⟨c, cs, hlist, hc⟩ := Literal.exists_toList_toString_int n
  have hmarks : c ∉ ['n', 't', 'f', '"', '[', '\x7b'] := not_mem_of_startsNumber hc (by decide)
  simp only [List.mem_cons, List.not_mem_nil, or_false, not_or] at hmarks
  rw [hlist, List.cons_append] at hnumber ⊢
  rw [readValue, hnumber]
  all_goals simp [hmarks]

theorem readBack_text (limits : Limits) (s : String) : ReadBack limits (text s) := by
  refine readBack_of_step rfl fun fuel room rest hrest hroom hfuel => ?_
  have htext : (encoded (text s)).toList ++ rest =
      '"' :: (s.toList.flatMap jsonChar ++ '"' :: rest) := by
    simp [encoded, toList_jsonString]
  rw [htext, readValue]
  simp only [readString_flatMap, bind, Except.bind]
  rfl

section Inside

variable {limits : Limits} {fuel room : Nat}

theorem readItems_encoded {items : List Json} (hne : items ≠ [])
    (hdoc : ∀ x ∈ items, x.isExact = true) (ih : ∀ x ∈ items, ReadBack limits x)
    (hdepth : ∀ x ∈ items, x.depth ≤ room)
    (hfuel : 2 * (Text.join ", " (items.map encoded)).toList.length < fuel) (rest : List Char) :
    readItems limits fuel room ((Text.join ", " (items.map encoded)).toList ++ ']' :: rest) =
      .ok (items.map sortKeys, rest) := by
  refine read_join (fun fuel => readItems limits fuel room) hne
    (fun x hx => starts_encoded (hdoc x hx)) ?_ ?_ hfuel rest
  · intro x hx less rest hlength
    exact readItems_last (ih x hx less room _ (.bracket rest) (hdepth x hx) hlength)
  · intro x hx less more ys rest hlength hstarts hmore
    exact readItems_more (ih x hx less room _ (.comma _) (hdepth x hx) hlength) hstarts hmore

theorem readEntries_encoded {entries : List (String × Json)} (hne : entries ≠ [])
    (hdoc : ∀ e ∈ entries, e.2.isExact = true) (ih : ∀ e ∈ entries, ReadBack limits e.2)
    (hdepth : ∀ e ∈ entries, e.2.depth ≤ room)
    (hfuel : 2 * (Text.join ", " (entries.map fun e => encodedMember e.1 (encoded e.2))).toList.length
      < fuel) (rest : List Char) :
    readEntries limits fuel room
        ((Text.join ", " (entries.map fun e => encodedMember e.1 (encoded e.2))).toList ++
          '\x7d' :: rest) =
      .ok (entries.map fun e => (e.1, e.2.sortKeys), rest) := by
  have hvalue {e : String × Json} {less : Nat}
      (hlength : 2 * (encodedMember e.1 (encoded e.2)).toList.length ≤ less) :
      2 * (encoded e.2).toList.length ≤ less := by
    rw [encodedMember, String.toList_append, List.length_append] at hlength
    omega
  refine read_join (fun fuel => readEntries limits fuel room) hne
    (fun e _ => starts_encodedMember e.1 _) ?_ ?_ hfuel rest
  · intro e he less rest hlength
    exact readEntries_last (starts_encoded (hdoc e he))
      (ih e he less room _ (.brace rest) (hdepth e he) (hvalue hlength))
  · intro e he less more ys rest hlength hstarts hmore
    exact readEntries_more (starts_encoded (hdoc e he))
      (ih e he less room _ (.comma _) (hdepth e he) (hvalue hlength)) hstarts hmore

end Inside

/-- There is fuel left for what stands between brackets. -/
theorem length_lt_of_brackets {opening closing text : String} {fuel : Nat}
    (hopening : opening.toList.length = 1) (hclosing : closing.toList.length = 1)
    (h : 2 * (opening ++ text ++ closing).toList.length ≤ fuel + 1) : 2 * text.toList.length < fuel := by
  rw [String.toList_append, String.toList_append, List.length_append, List.length_append, hopening,
    hclosing] at h
  omega

theorem readBack_array {limits : Limits} {items : List Json} (hdoc : (array items).isExact = true)
    (ih : ∀ x ∈ items, ReadBack limits x) : ReadBack limits (array items) := by
  refine readBack_of_step hdoc fun fuel room rest hrest hroom hfuel => ?_
  rw [isExact_array, List.all_eq_true] at hdoc
  obtain ⟨room, rfl⟩ := Nat.exists_eq_add_one_of_ne_zero
    (Nat.ne_zero_of_lt (lt_of_lt_of_le (depth_array_pos items) hroom))
  have hdepth := depth_array_le_iff.mp hroom
  rw [encoded_array] at hfuel ⊢
  rw [sortKeys_array]
  cases items with
  | nil => rfl
  | cons x xs =>
      have hstarts := starts_join (starts_encoded (hdoc x (by simp))) (xs.map encoded)
      have hread := readItems_encoded (by simp) hdoc ih hdepth (length_lt_of_brackets rfl rfl hfuel) rest
      simpa using readValue_array (hstarts.append (']' :: rest)) hread

theorem readBack_object {limits : Limits} {entries : List (String × Json)}
    (hdoc : (object entries).isExact = true) (hkeys : (entries.map Prod.fst).Nodup)
    (ih : ∀ e ∈ entries, ReadBack limits e.2) : ReadBack limits (object entries) := by
  refine readBack_of_step hdoc fun fuel room rest hrest hroom hfuel => ?_
  rw [isExact_object, List.all_eq_true] at hdoc
  obtain ⟨room, rfl⟩ := Nat.exists_eq_add_one_of_ne_zero
    (Nat.ne_zero_of_lt (lt_of_lt_of_le (depth_object_pos entries) hroom))
  have hdepth := depth_object_le_iff.mp hroom
  rw [encoded_object] at hfuel ⊢
  rw [sortKeys_object]
  -- The entries are written in the order of their keys, and what holds of them holds in any order.
  have hsorted := sortByName_perm Prod.fst entries
  generalize sortByName Prod.fst entries = sorted at hsorted hfuel ⊢
  cases sorted with
  | nil => rfl
  | cons e es =>
      have hmem (f : String × Json) (hf : f ∈ e :: es) : f ∈ entries := hsorted.mem_iff.mp hf
      have hnodup : (((e :: es).map fun f => (f.1, f.2.sortKeys)).map Prod.fst).Nodup := by
        rw [List.map_map]
        exact (hsorted.map Prod.fst).nodup_iff.mpr hkeys
      have hstarts := starts_join (starts_encodedMember e.1 (encoded e.2))
        (es.map fun f => encodedMember f.1 (encoded f.2))
      have hread := readEntries_encoded (by simp) (fun f hf => hdoc f (hmem f hf))
        (fun f hf => ih f (hmem f hf)) (fun f hf => hdepth f (hmem f hf))
        (length_lt_of_brackets rfl rfl hfuel) rest
      have hobject := readValue_object (hstarts.append ('\x7d' :: rest)) hread
      rw [lastEntries_of_nodup hnodup] at hobject
      simpa using hobject

theorem readBack_of_isExact {limits : Limits} {doc : Json} (hdoc : doc.isExact = true)
    (hkeys : doc.KeysOnce) (hlimit : doc.longest ≤ limits.digits) : ReadBack limits doc := by
  induction doc using inductionOn with
  | null => exact readBack_of_step rfl fun _ _ _ _ _ _ => rfl
  | bool b => cases b <;> exact readBack_of_step rfl fun _ _ _ _ _ _ => rfl
  | int n =>
      exact readBack_of_step rfl fun fuel room _ hrest _ _ =>
        readValue_toString hlimit fuel room hrest
  | float x => cases hdoc
  | text s => exact readBack_text limits s
  | array items ih =>
      refine readBack_array hdoc fun x hx =>
        ih x hx ?_ (hkeys.items x hx) (longest_array_le_iff.mp hlimit x hx)
      rw [isExact_array, List.all_eq_true] at hdoc
      exact hdoc x hx
  | object entries ih =>
      refine readBack_object hdoc hkeys.nodup fun e he =>
        ih e he ?_ (hkeys.entries e he) (longest_object_le_iff.mp hlimit e he)
      rw [isExact_object, List.all_eq_true] at hdoc
      exact hdoc e he

/-- Within limits that the document keeps, the text is read as the document, up to the order of its
keys. -/
def ReadFrom (doc : Json) (s : String) : Prop :=
  ∀ limits : Limits, doc.longest ≤ limits.digits → doc.depth ≤ limits.depth →
    ∃ back, readWithin limits s.toList = .ok back ∧ doc.Reordered back

theorem readWithin_encoded {doc : Json} (hdoc : doc.isExact = true) (hkeys : doc.KeysOnce)
    {limits : Limits} (hdigits : doc.longest ≤ limits.digits) (hdepth : doc.depth ≤ limits.depth) :
    readWithin limits (encoded doc).toList = .ok doc.sortKeys := by
  have hread := readBack_of_isExact hdoc hkeys hdigits (2 * (encoded doc).toList.length + 2)
    limits.depth [] .nothing hdepth (by omega)
  rw [List.append_nil] at hread
  rw [readWithin, (starts_encoded hdoc).skipSpace, hread]
  rfl

theorem readFrom_encoded {doc : Json} (hdoc : doc.isExact = true) (hkeys : doc.KeysOnce) :
    doc.ReadFrom (encoded doc) :=
  fun _ hdigits hdepth =>
    ⟨doc.sortKeys, readWithin_encoded hdoc hkeys hdigits hdepth, doc.reordered_sortKeys⟩

end TemplateDocs.Json
