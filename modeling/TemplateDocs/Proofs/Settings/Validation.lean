import Mathlib.Data.List.TakeWhile
import TemplateDocs.Proofs.Settings.Reading
import TemplateDocs.Proofs.Template.Parse

/-! # Checking and reading settings

A mapping of settings that passes the check can be read, and the settings that it gives can be used.
Sections that cannot be read do not pass the check, and the check tells the same word as the reading if
all items of the sections can be shown.
-/

namespace TemplateDocs

open List

/-! ## Texts -/

/-- A text is blank if nothing is left without the blanks at its ends. -/
theorem Text.strip_eq_empty_iff {s : String} :
    Text.strip s = "" ↔ ∀ c ∈ s.toList, Text.isBlank c = true := by
  have hempty : Text.strip s = "" ↔ Text.trim s.toList = [] := by
    rw [← String.toList_eq_nil_iff, Text.strip, String.toList_ofList]
  rw [hempty, Text.trim, Text.trimRight, Text.dropEnd, List.reverse_eq_nil_iff,
    List.dropWhile_eq_nil_iff, Text.trimLeft]
  constructor
  · intro h
    have hnil : s.toList.dropWhile Text.isBlank = [] := by
      by_contra hne
      have hhead := List.head_dropWhile_not Text.isBlank hne
      rw [h _ (List.mem_reverse.mpr (List.head_mem hne))] at hhead
      cases hhead
    exact List.dropWhile_eq_nil_iff.mp hnil
  · intro h c hc
    exact h c ((List.dropWhile_suffix _).subset (List.mem_reverse.mp hc))

theorem Text.length_toDigits_of_le {n limit : Nat} (hlimit : 0 < limit) (h : Nat.pow 10 limit ≤ n) :
    ¬ (Nat.toDigits 10 n).length ≤ limit := by
  rw [Nat.length_toDigits_le_iff (by decide) hlimit]
  exact Nat.not_lt.mpr h

/-- A number with too many digits cannot be shown. -/
theorem Text.decimal?_eq_none {n : Nat} (h : Nat.pow 10 Text.digitLimit ≤ n) :
    Text.decimal? (Int.ofNat n) = none := by
  have hlong := Text.length_toDigits_of_le (by decide) h
  have hlength : (toString (Int.ofNat n).natAbs).length = (Nat.toDigits 10 n).length := by
    change (Nat.repr n).length = _
    rw [Nat.repr, String.length_ofList]
  simp only [Text.decimal?, hlength, if_neg hlong]

/-! ## Words -/

namespace Settings

/-- All items of a value that stands for sections can be shown. -/
def ItemsShown (value : Value) : Prop :=
  ∃ words : List String, sectionWords? value = some (words.map .ok)

theorem mapM_id_eq_ok_iff {words : List (Except Fault String)} {shown : List String} :
    words.mapM id = .ok shown ↔ words = shown.map .ok := by
  rw [mapM_eq_ok_iff, ← List.forall₂_eq_eq_eq, List.forall₂_map_right_iff]
  rfl

theorem sectionsOf_cons (word : String) (words : List (Except Fault String)) :
    sectionsOf (.ok word :: words) =
      (Section.ofString word).mapError Failure.reported >>= fun x =>
        sectionsOf words >>= fun sections => pure (x :: sections) := by
  rw [sectionsOf, List.mapM_cons]
  rfl

theorem unknownWord?_cons (word : String) (words : List String) :
    unknownWord? (word :: words) =
      if (Section.ofString? word).isNone then some word else unknownWord? words := by
  rw [unknownWord?, List.find?_cons, ← unknownWord?]
  cases (Section.ofString? word).isNone <;> rfl

/-- Reading fails at the first word that names no section. -/
theorem sectionsOf_of_unknownWord {words : List String} {word : String}
    (h : unknownWord? words = some word) :
    sectionsOf (words.map .ok) =
      .error (.reported { category := .input, message := Section.unknownMessage word }) := by
  induction words with
  | nil => cases h
  | cons first words ih =>
      rw [unknownWord?_cons] at h
      rw [List.map_cons, sectionsOf_cons, Section.ofString]
      cases hfirst : Section.ofString? first with
      | none =>
          rw [hfirst] at h
          cases h
          rfl
      | some x =>
          rw [hfirst] at h
          rw [ih h]
          rfl

theorem exists_sectionsOf {words : List String} (h : unknownWord? words = none) :
    ∃ sections, sectionsOf (words.map .ok) = .ok sections := by
  induction words with
  | nil => exact ⟨[], rfl⟩
  | cons first words ih =>
      rw [unknownWord?_cons] at h
      rw [List.map_cons, sectionsOf_cons, Section.ofString]
      cases hfirst : Section.ofString? first with
      | none =>
          rw [hfirst] at h
          cases h
      | some x =>
          rw [hfirst] at h
          obtain ⟨sections, hsections⟩ := ih h
          exact ⟨x :: sections, by rw [hsections]; rfl⟩

/-! ## Sections -/

theorem exists_sectionWords {value : Value} (h : isListOrText value = true) :
    ∃ words, sectionWords? value = some words := by
  cases value <;> simp_all [isListOrText, sectionWords?]

/-- Sections that pass the check can be read. -/
theorem exists_sectionsGiven {value : Value} (h : checkSections value = .ok ()) :
    ∃ sections, sectionsGiven value = .ok sections := by
  unfold checkSections at h
  split at h
  · rename_i words _ hwords
    split at h
    · cases h
    · rename_i shown hshown
      split at h
      · cases h
      · rename_i hunknown
        rw [sectionsGiven, hwords, mapM_id_eq_ok_iff.mp hshown]
        exact exists_sectionsOf hunknown
  · cases h

/-- The check of a list or a text whose items can be shown tells the word at which reading fails. -/
theorem checkSections_of_shown {value : Value} (hvalue : isListOrText value = true)
    (hshown : ItemsShown value) {e : Failure} (h : sectionsGiven value = .error e) :
    ∃ word, e = .reported { category := .input, message := Section.unknownMessage word } ∧
      checkSections value = .error (.unknownSection word) := by
  obtain ⟨words, hwords⟩ := hshown
  have hmap : (words.map .ok).mapM id = (.ok words : Except Fault (List String)) :=
    mapM_id_eq_ok_iff.mpr rfl
  rw [sectionsGiven, hwords] at h
  cases hunknown : unknownWord? words with
  | none =>
      obtain ⟨sections, hsections⟩ := exists_sectionsOf hunknown
      simp only [hsections] at h
      cases h
  | some word =>
      simp only [sectionsOf_of_unknownWord hunknown] at h
      exact ⟨word, (Except.error.inj h).symm,
        by simp only [checkSections, hvalue, hwords, hmap, hunknown]⟩

/-- The check of a list or a text with an item that cannot be shown ends there. -/
theorem checkSections_of_not_shown {value : Value} (hvalue : isListOrText value = true)
    (hshown : ¬ ItemsShown value) : ∃ fault, checkSections value = .error (.unshown fault) := by
  obtain ⟨words, hwords⟩ := exists_sectionWords hvalue
  cases hmap : words.mapM id with
  | error fault => exact ⟨fault, by simp only [checkSections, hvalue, hwords, hmap]⟩
  | ok shown =>
      exact absurd ⟨shown, hwords.trans (congrArg some (mapM_id_eq_ok_iff.mp hmap))⟩ hshown

/-! ## Whole mappings -/

section Mapping

variable {processors : Option Int} {m : Mapping}

/-- Applying a check to the value of a setting. -/
theorem checkUnder_eq_ok_iff (x : Setting) (check : Value → Except Invalid Unit) :
    checkUnder m x.name check = .ok () ↔ ∀ value, x.valueIn m = some value → check value = .ok () := by
  have hfind : (Key.text x.name).find? m = x.valueIn m := rfl
  simp only [checkUnder, hfind]
  cases x.valueIn m <;> simp

/-- What passes the check passes it setting by setting. -/
theorem checks_of_validate (h : validate m = .ok ()) :
    (∀ value, Setting.sections.valueIn m = some value → checkSections value = .ok ()) ∧
    (∀ value, Setting.workers.valueIn m = some value → checkWorkers value = .ok ()) ∧
    (∀ value, Setting.trigger.valueIn m = some value →
      checkFilename Setting.trigger.name value = .ok ()) ∧
    ∀ value, Setting.output.valueIn m = some value →
      checkFilename Setting.output.name value = .ok () := by
  unfold validate at h
  obtain ⟨⟨⟩, hsections, h⟩ := bind_eq_ok_iff.mp h
  obtain ⟨⟨⟩, hworkers, h⟩ := bind_eq_ok_iff.mp h
  obtain ⟨⟨⟩, htrigger, houtput⟩ := bind_eq_ok_iff.mp h
  exact ⟨(checkUnder_eq_ok_iff .sections _).mp hsections, (checkUnder_eq_ok_iff .workers _).mp hworkers,
    (checkUnder_eq_ok_iff .trigger _).mp htrigger, (checkUnder_eq_ok_iff .output _).mp houtput⟩

/-- The sections are checked first. -/
theorem validate_of_checkSections {value : Value} {e : Invalid}
    (hvalue : Setting.sections.valueIn m = some value) (h : checkSections value = .error e) :
    validate m = .error e := by
  have hunder : checkUnder m "sections" checkSections = .error e := by
    have hfind : (Key.text "sections").find? m = some value := hvalue
    simp only [checkUnder, hfind, h]
  rw [validate, hunder]
  rfl

/-- A file name that is not blank. -/
def IsFilename (value : Value) : Prop :=
  ∃ name, value = .text name ∧ ∃ c ∈ name.toList, Text.isBlank c = false

theorem isFilename_of_check {key : String} {value : Value} (h : checkFilename key value = .ok ()) :
    IsFilename value := by
  unfold checkFilename at h
  split at h
  · rename_i name
    split at h
    · cases h
    · rename_i hblank
      rw [beq_iff_eq, Text.strip_eq_empty_iff] at hblank
      push Not at hblank
      obtain ⟨c, hc, hnot⟩ := hblank
      exact ⟨name, rfl, c, hc, Bool.eq_false_iff.mpr hnot⟩
  · cases h

/-- Settings that a run can use: at least one worker, and file names. -/
structure Usable (s : Settings) : Prop where
  workers : ∃ n : Int, s.maxWorkers = .int n ∧ 1 ≤ n
  trigger : IsFilename s.triggerFilename
  output : IsFilename s.outputFilename

theorem one_le_defaultWorkers (processors : Option Int) : 1 ≤ defaultWorkers processors :=
  Int.le_max_left 1 _

theorem workers_of_holds {s : Settings} {value : Option Value}
    (hholds : Setting.workers.Holds processors s value)
    (hcheck : ∀ v, value = some v → checkWorkers v = .ok ()) :
    ∃ n : Int, s.maxWorkers = .int n ∧ 1 ≤ n := by
  cases value with
  | none => exact ⟨_, hholds, one_le_defaultWorkers processors⟩
  | some v =>
      have hv := hcheck v rfl
      unfold checkWorkers at hv
      split at hv
      · exact ⟨_, hholds, one_le_defaultWorkers processors⟩
      · rename_i n
        split at hv
        · rename_i hpos
          exact ⟨n, hholds, hpos⟩
        · cases hv
      · cases hv

/-- A checked mapping can be read, and what it gives can be used. -/
theorem exists_ofMapping (processors : Option Int) (hm : OnlySettings m) (h : validate m = .ok ()) :
    ∃ settings, ofMapping processors m = pure settings ∧ settings.damage = {} ∧ settings.Usable ∧
      ∀ x : Setting, x.Holds processors settings (x.valueIn m) := by
  obtain ⟨hsections, hworkers, htrigger, houtput⟩ := checks_of_validate h
  obtain ⟨sections, hread⟩ : ∃ sections,
      sectionsAmong (Settings.default processors) (fun x => x.valueIn m) = .ok sections := by
    simp only [sectionsAmong]
    cases hvalue : Setting.sections.valueIn m with
    | none => exact ⟨_, rfl⟩
    | some value => exact exists_sectionsGiven (hsections value hvalue)
  have hholds := withValues_holds hread
  refine ⟨_, ?_, rfl, ⟨workers_of_holds (hholds .workers) hworkers, ?_, ?_⟩, hholds⟩
  · rw [ofMapping_eq hm, hread]
    rfl
  · cases hvalue : Setting.trigger.valueIn m with
    | none => exact ⟨"main.bicep", by simp [withValues, hvalue, Settings.default], 'm', by decide⟩
    | some value => simpa [withValues, hvalue] using isFilename_of_check (htrigger value hvalue)
  · cases hvalue : Setting.output.valueIn m with
    | none => exact ⟨"README.md", by simp [withValues, hvalue, Settings.default], 'R', by decide⟩
    | some value => simpa [withValues, hvalue] using isFilename_of_check (houtput value hvalue)

/-- Reading a mapping of settings fails at its sections only. -/
theorem sectionsGiven_of_ofMapping {value : Value} {e : Failure} (hm : OnlySettings m)
    (hvalue : Setting.sections.valueIn m = some value)
    (h : (ofMapping processors m).result = .error e) : sectionsGiven value = .error e := by
  rw [ofMapping_eq hm] at h
  simp only [Outcome.ofExcept, sectionsAmong, hvalue] at h
  cases hread : sectionsGiven value with
  | error e' =>
      rw [hread] at h
      cases h
      rfl
  | ok sections =>
      rw [hread] at h
      cases h

end Mapping

/-- A check reports, as an error in the settings, the message of a failure that was reported. -/
def TellsAlike (check : Except Invalid Unit) (e : Failure) : Prop :=
  ∃ report invalid, e = .reported report ∧ check = .error invalid ∧
    invalid.failure = .reported { category := .configuration, message := report.message }

/-- Checking and reading agree: what passes the check is read into usable settings, and where reading
fails at sections that are a list or a text, the check has told the same message, exactly if all items of
the sections can be shown. -/
theorem validate_agrees {m : Mapping} (hm : OnlySettings m) (processors : Option Int) :
    (validate m = .ok () → ∃ settings, ofMapping processors m = pure settings ∧
      settings.damage = {} ∧ settings.Usable ∧
      ∀ x : Setting, x.Holds processors settings (x.valueIn m)) ∧
    ∀ value e, Setting.sections.valueIn m = some value → isListOrText value = true →
      (ofMapping processors m).result = .error e →
      (TellsAlike (validate m) e ↔ ItemsShown value) := by
  refine ⟨exists_ofMapping processors hm, fun value e hvalue hkind hread => ?_⟩
  have hgiven := sectionsGiven_of_ofMapping hm hvalue hread
  by_cases hshown : ItemsShown value
  · obtain ⟨word, rfl, hcheck⟩ := checkSections_of_shown hkind hshown hgiven
    refine iff_of_true ⟨_, _, rfl, validate_of_checkSections hvalue hcheck, rfl⟩ hshown
  · obtain ⟨fault, hsections⟩ := checkSections_of_not_shown hkind hshown
    have hcheck := validate_of_checkSections hvalue hsections
    refine iff_of_false ?_ hshown
    rintro ⟨report, invalid, -, hinvalid, htold⟩
    cases hcheck.symm.trans hinvalid
    cases htold

/-- A text with sections and a null number of workers pass; a list with a number in it does not. -/
theorem validate_agrees_mixed :
    (∃ settings, ofMapping none [(.text "max_workers", .null), (.text "sections", .text " UDT ,usage")] =
        pure settings ∧ settings.Usable ∧ NamesSections (.text " UDT ,usage") settings.sections) ∧
    ∃ e, (ofMapping none [(.text "sections", .list [.text "usage", .int 7])]).result = .error e ∧
      TellsAlike (validate [(.text "sections", .list [.text "usage", .int 7])]) e := by
  have hgood : OnlySettings [(.text "max_workers", .null), (.text "sections", .text " UDT ,usage")] :=
    ⟨by simpa using ⟨⟨.workers, rfl⟩, ⟨.sections, rfl⟩⟩, by simp [Mapping.KeysOnce, Key.same]⟩
  have hbad : OnlySettings [(.text "sections", .list [.text "usage", .int 7])] :=
    ⟨by simpa using ⟨.sections, rfl⟩, by simp [Mapping.KeysOnce]⟩
  obtain ⟨settings, hread, -, husable, hholds⟩ := (validate_agrees hgood none).1 rfl
  refine ⟨⟨settings, hread, husable, hholds .sections⟩, _, rfl, ?_⟩
  exact ((validate_agrees hbad none).2 _ _ rfl rfl rfl).mpr ⟨["usage", "7"], rfl⟩

/-! ## Items that cannot be shown -/

/-- A list of sections of which the first one is unknown and the second one a number. -/
def bogusThenNumber (n : Int) : Mapping :=
  [(.text "sections", .list [.text "bogus", .int n])]

theorem validate_bogusThenNumber {n : Int} (h : Text.decimal? n = none) :
    validate (bogusThenNumber n) = .error (.unshown .wrongValue) := by
  have hshown : (Value.int n).display = .error .wrongValue := by
    change showInt n = _
    rw [showInt, h]
  have hvalue : Setting.sections.valueIn (bogusThenNumber n) = some (.list [.text "bogus", .int n]) := rfl
  refine validate_of_checkSections hvalue ?_
  simp only [checkSections, isListOrText, sectionWords?, List.map_cons, List.map_nil, itemWord, hshown]
  rfl

/-- Reading tells about the unknown section, but the check shows all items first, of which one has too
many digits, and fails without a report. -/
theorem validate_fails_unreported :
    (ofMapping none (bogusThenNumber (Int.ofNat (Nat.pow 10 Text.digitLimit)))).result =
      .error (.reported { category := .input, message := "invalid section: \"bogus\"" }) ∧
    (validate (bogusThenNumber (Int.ofNat (Nat.pow 10 Text.digitLimit)))).mapError Invalid.failure =
      .error (.fault .wrongValue) := by
  refine ⟨rfl, ?_⟩
  rw [validate_bogusThenNumber (Text.decimal?_eq_none (Nat.le_refl _))]
  rfl

end Settings

end TemplateDocs
