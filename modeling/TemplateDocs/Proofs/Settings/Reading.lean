import Mathlib.Data.List.Forall2
import TemplateDocs.Proofs.Agreement
import TemplateDocs.Proofs.Settings.Mapping

/-! # Settings read from a mapping

Whatever the order of its entries, a mapping whose keys are settings gives each setting the value that
stands under it, and the default where there is none. Only the sections can fail.
-/

namespace TemplateDocs

open List

/-! ## Words for sections -/

/-- A word is the one for a section, up to case and the blanks around it. -/
def Section.NamedBy (x : Section) (word : String) : Prop :=
  Text.lower (Text.strip word) = x.identifier

theorem Section.ofString?_eq_some_iff {word : String} {x : Section} :
    Section.ofString? word = some x ↔ x.NamedBy word := by
  unfold Section.ofString? Section.NamedBy
  constructor
  · intro h
    have hword := List.find?_some h
    exact (beq_iff_eq.mp hword).symm
  · intro h
    simp only [h]
    cases x <;> decide

theorem Section.ofString_eq_ok_iff {word : String} {x : Section} :
    Section.ofString word = .ok x ↔ x.NamedBy word := by
  rw [← Section.ofString?_eq_some_iff, Section.ofString]
  split <;> simp_all

namespace Settings

/-- The words of a value, each of which can be shown, name sections one by one. -/
def NamesSections (value : Value) (sections : List Section) : Prop :=
  ∃ words, sectionWords? value = some words ∧
    Forall₂ (fun word x => ∃ shown, word = .ok shown ∧ Section.NamedBy x shown) words sections

/-- The sections that a value gives. -/
def sectionsGiven (value : Value) : Except Failure (List Section) :=
  match sectionWords? value with
  | none => .error (.fault .wrongKind)
  | some words => sectionsOf words

theorem sectionsOf_eq_ok_iff {words : List (Except Fault String)} {sections : List Section} :
    sectionsOf words = .ok sections ↔
      Forall₂ (fun word x => ∃ shown, word = .ok shown ∧ Section.NamedBy x shown) words sections := by
  have hword : ∀ (shown : String) (x : Section),
      (Section.ofString shown).mapError Failure.reported = .ok x ↔ x.NamedBy shown := by
    intro shown x
    rw [← Section.ofString_eq_ok_iff]
    cases Section.ofString shown <;> simp [Except.mapError]
  unfold sectionsOf
  rw [mapM_eq_ok_iff]
  constructor
  · refine fun h => h.imp fun word x hx => ?_
    cases word with
    | error fault => cases hx
    | ok shown => exact ⟨shown, rfl, (hword shown x).mp hx⟩
  · refine fun h => h.imp fun word x hx => ?_
    obtain ⟨shown, rfl, hnamed⟩ := hx
    exact (hword shown x).mpr hnamed

theorem sectionsGiven_eq_ok_iff {value : Value} {sections : List Section} :
    sectionsGiven value = .ok sections ↔ NamesSections value sections := by
  unfold sectionsGiven NamesSections
  cases sectionWords? value with
  | none => simp
  | some words => simp [sectionsOf_eq_ok_iff]

/-! ## The settings by name -/

/-- A setting that a mapping can give. -/
inductive Setting where
  | sections
  | decorators
  | verbose
  | trigger
  | output
  | workers
  deriving DecidableEq, Repr

namespace Setting

/-- All settings. -/
def all : List Setting :=
  [sections, decorators, verbose, trigger, output, workers]

/-- The name of a setting in a mapping. -/
def name : Setting → String
  | sections => "sections"
  | decorators => "show_all_decorators"
  | verbose => "verbose"
  | trigger => "trigger_filename"
  | output => "output_filename"
  | workers => "max_workers"

/-- The key of a setting. -/
def key (x : Setting) : Key :=
  .text x.name

theorem mem_all (x : Setting) : x ∈ all := by
  cases x <;> decide

theorem key_inj {x y : Setting} (h : x.key = y.key) : x = y := by
  cases x <;> cases y <;> first | rfl | exact absurd h (by decide)

/-- The value that a mapping has for a setting. -/
def valueIn (m : Mapping) (x : Setting) : Option Value :=
  x.key.find? m

theorem valueIn_nil (x : Setting) : x.valueIn [] = none :=
  rfl

theorem valueIn_cons (x y : Setting) (value : Value) (m : Mapping) :
    y.valueIn ((x.key, value) :: m) = if x = y then some value else y.valueIn m := by
  unfold valueIn
  rw [key, Key.find?_text_cons]
  by_cases hxy : x = y
  · simp [hxy, key]
  · have hkey : x.key ≠ .text y.name := fun h => hxy (key_inj h)
    simp [hxy, hkey]

/-- What a setting has to be where a value is given for it, or none. -/
def Holds (processors : Option Int) (settings : Settings) (value : Option Value) : Setting → Prop
  | sections =>
    match value with
    | none => settings.sections = Section.all
    | some value => NamesSections value settings.sections
  | decorators => settings.showAllDecorators = value.getD (.bool false)
  | verbose => settings.verbose = value.getD (.bool false)
  | trigger => settings.triggerFilename = value.getD (.text "main.bicep")
  | output => settings.outputFilename = value.getD (.text "README.md")
  | workers =>
    match value with
    | none | some .null => settings.maxWorkers = .int (defaultWorkers processors)
    | some value => settings.maxWorkers = value

end Setting

/-- A mapping whose keys are settings, each at most once. -/
structure OnlySettings (m : Mapping) : Prop where
  named : ∀ e ∈ m, ∃ x : Setting, e.1 = x.key
  once : m.KeysOnce

theorem onlySettings_nil : OnlySettings [] :=
  ⟨by simp, List.Pairwise.nil⟩

theorem OnlySettings.tail {e : Key × Value} {m : Mapping} (h : OnlySettings (e :: m)) :
    OnlySettings m :=
  ⟨fun f hf => h.named f (List.mem_cons_of_mem e hf), (List.pairwise_cons.mp h.once).2⟩

/-- The setting that comes first does not come again. -/
theorem OnlySettings.valueIn_tail {x : Setting} {value : Value} {m : Mapping}
    (h : OnlySettings ((x.key, value) :: m)) : x.valueIn m = none :=
  Key.find?_text_eq_none (Mapping.KeysOnce.text_not_mem h.once)

theorem OnlySettings.merge {below entries : Mapping} (h : OnlySettings below)
    (h' : OnlySettings entries) : OnlySettings (Mapping.merge below entries) := by
  refine ⟨fun e he => ?_, h.once.merge entries⟩
  obtain ⟨value, hbelow | hentries⟩ := Mapping.exists_of_mem_merge he
  · exact h.named (e.1, value) hbelow
  · exact h'.named (e.1, value) hentries

/-- Over a value that is no mapping the upper value of a setting wins. -/
theorem OnlySettings.valueIn_merge {below entries : Mapping} (h : OnlySettings entries) (x : Setting)
    (hplain : (x.valueIn below).all fun v => !v.isMapping) :
    x.valueIn (Mapping.merge below entries) = (x.valueIn entries).or (x.valueIn below) :=
  Mapping.find?_merge_of_not_isMapping h.once hplain

/-! ## Reading entry by entry -/

/-- Settings with the entries of a mapping read on top, one by one. -/
def readOnto (processors : Option Int) (s : Settings) (m : Mapping) : Outcome Settings :=
  m.foldlM (fun s e => s.set processors e.1 e.2) s

theorem ofMapping_eq_readOnto (processors : Option Int) (m : Mapping) :
    ofMapping processors m = readOnto processors (Settings.default processors) m :=
  rfl

theorem readOnto_cons (processors : Option Int) (s : Settings) (e : Key × Value) (m : Mapping) :
    readOnto processors s (e :: m) =
      s.set processors e.1 e.2 >>= fun next => readOnto processors next m :=
  List.foldlM_cons

/-- A number of workers; null asks for the default. -/
def workersGiven (processors : Option Int) (value : Value) : Value :=
  if value.isNull then .int (defaultWorkers processors) else value

/-- Settings with the sections put in and with all other values that are given. -/
def withValues (processors : Option Int) (s : Settings) (values : Setting → Option Value)
    (sections : List Section) : Settings :=
  { s with
    sections
    showAllDecorators := (values .decorators).getD s.showAllDecorators
    verbose := (values .verbose).getD s.verbose
    triggerFilename := (values .trigger).getD s.triggerFilename
    outputFilename := (values .output).getD s.outputFilename
    maxWorkers := ((values .workers).map (workersGiven processors)).getD s.maxWorkers }

/-- The sections that are given, if any are. -/
def sectionsAmong (s : Settings) (values : Setting → Option Value) : Except Failure (List Section) :=
  match values .sections with
  | none => .ok s.sections
  | some value => sectionsGiven value

section Reading

variable {processors : Option Int} {s : Settings} {m : Mapping}

theorem set_sections (hs : s.damage = {}) (value : Value) :
    s.set processors Setting.sections.key value =
      .ofExcept ((sectionsGiven value).map fun sections => { s with sections }) := by
  have hset : s.set processors Setting.sections.key value = s.setSections value := by
    simp [set, setNamed, Setting.key, Setting.name, hs]
  rw [hset, setSections, sectionsGiven]
  cases sectionWords? value with
  | none => rfl
  | some words => simp [hs]

/-- A setting other than the sections takes its value as it is. -/
theorem set_other {x : Setting} (hs : s.damage = {}) (hx : x ≠ .sections) (value : Value) :
    s.set processors x.key value =
      pure (withValues processors s (fun y => if x = y then some value else none) s.sections) := by
  cases x with
  | sections => exact absurd rfl hx
  | _ => simp [set, setNamed, Setting.key, Setting.name, hs, withValues, workersGiven]

/-- A value that is put in first is one of all that are given. -/
theorem withValues_withValues {x : Setting} {value : Value} (hm : OnlySettings ((x.key, value) :: m))
    (hx : x ≠ .sections) (sections : List Section) :
    withValues processors
        (withValues processors s (fun y => if x = y then some value else none) s.sections)
        (fun y => y.valueIn m) sections =
      withValues processors s (fun y => y.valueIn ((x.key, value) :: m)) sections := by
  have hnone := hm.valueIn_tail
  simp only [Setting.valueIn_cons]
  cases x with
  | sections => exact absurd rfl hx
  | _ => simp [withValues, hnone]

/-- The entries are read one by one, and none of them takes back what another gave: the induction is on
the entries, over settings without damage. -/
theorem readOnto_eq (hm : OnlySettings m) (hs : s.damage = {}) :
    readOnto processors s m =
      .ofExcept ((sectionsAmong s fun x => x.valueIn m).map
        (withValues processors s fun x => x.valueIn m)) := by
  induction m generalizing s with
  | nil => rfl
  | cons e m ih =>
      obtain ⟨key, value⟩ := e
      obtain ⟨x, rfl⟩ := hm.named _ List.mem_cons_self
      rw [readOnto_cons]
      by_cases hx : x = .sections
      · subst hx
        have hnone := hm.valueIn_tail
        rw [set_sections hs]
        simp only [sectionsAmong, Setting.valueIn_cons, if_true]
        cases sectionsGiven value with
        | error e => rfl
        | ok sections =>
            have hrest := ih hm.tail (s := { s with sections }) hs
            simp only [sectionsAmong, hnone] at hrest
            refine hrest.trans ?_
            simp [Except.map, withValues]
      · rw [set_other hs hx]
        have hrest := ih hm.tail
          (s := withValues processors s (fun y => if x = y then some value else none) s.sections) hs
        refine hrest.trans ?_
        simp only [sectionsAmong, Setting.valueIn_cons x .sections, hx, if_false]
        congr 2
        funext sections
        exact withValues_withValues hm hx sections

/-- What a mapping of settings gives depends on the values under the settings alone. -/
theorem ofMapping_eq (hm : OnlySettings m) :
    ofMapping processors m =
      .ofExcept ((sectionsAmong (Settings.default processors) fun x => x.valueIn m).map
        (withValues processors (Settings.default processors) fun x => x.valueIn m)) :=
  readOnto_eq hm rfl

theorem ofMapping_congr {m' : Mapping} (hm : OnlySettings m) (hm' : OnlySettings m')
    (h : ∀ x : Setting, x.valueIn m = x.valueIn m') :
    ofMapping processors m = ofMapping processors m' := by
  have hvalues : (fun x : Setting => x.valueIn m) = fun x => x.valueIn m' := funext h
  rw [ofMapping_eq hm, ofMapping_eq hm', hvalues]

/-- Settings that are made of values have these values or the defaults. -/
theorem withValues_holds {values : Setting → Option Value} {sections : List Section}
    (h : sectionsAmong (Settings.default processors) values = .ok sections) (x : Setting) :
    x.Holds processors (withValues processors (Settings.default processors) values sections)
      (values x) := by
  cases x with
  | sections =>
      unfold sectionsAmong at h
      cases hvalue : values .sections with
      | none =>
          rw [hvalue] at h
          exact (Except.ok.inj h).symm
      | some value =>
          rw [hvalue] at h
          exact sectionsGiven_eq_ok_iff.mp h
  | workers =>
      cases hvalue : values .workers with
      | none => simp [Setting.Holds, withValues, hvalue, Settings.default]
      | some value => cases value <;> simp [Setting.Holds, withValues, hvalue, workersGiven, Value.isNull]
  | _ => rfl

theorem holds_of_ofMapping {settings : Settings} (hm : OnlySettings m)
    (h : (ofMapping processors m).result = .ok settings) :
    settings.damage = {} ∧ ∀ x : Setting, x.Holds processors settings (x.valueIn m) := by
  rw [ofMapping_eq hm] at h
  simp only [Outcome.ofExcept] at h
  cases hsections : sectionsAmong (Settings.default processors) fun x => x.valueIn m with
  | error e =>
      rw [hsections] at h
      cases h
  | ok sections =>
      rw [hsections] at h
      cases h
      exact ⟨rfl, withValues_holds hsections⟩

end Reading

/-! ## Checking -/

/-- A check looks at the values under the settings alone. -/
theorem validate_congr {m m' : Mapping} (h : ∀ x : Setting, x.valueIn m = x.valueIn m') :
    validate m = validate m' := by
  have hunder : ∀ (x : Setting) (check : Value → Except Invalid Unit),
      checkUnder m x.name check = checkUnder m' x.name check := by
    intro x check
    have hx : (Key.text x.name).find? m = (Key.text x.name).find? m' := h x
    simp only [checkUnder, hx]
  have hsections : checkUnder m "sections" checkSections = checkUnder m' "sections" checkSections :=
    hunder .sections checkSections
  have hworkers : checkUnder m "max_workers" checkWorkers = checkUnder m' "max_workers" checkWorkers :=
    hunder .workers checkWorkers
  have htrigger : ∀ check, checkUnder m "trigger_filename" check = checkUnder m' "trigger_filename" check :=
    hunder .trigger
  have houtput : ∀ check, checkUnder m "output_filename" check = checkUnder m' "output_filename" check :=
    hunder .output
  simp only [validate, hsections, hworkers, htrigger, houtput]

end Settings

end TemplateDocs
