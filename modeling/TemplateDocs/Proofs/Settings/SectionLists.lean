import TemplateDocs.CommandLine.Program
import TemplateDocs.CommandLine.Terminal
import TemplateDocs.Proofs.Settings.Precedence
import TemplateDocs.Proofs.Settings.Validation
import TemplateDocs.Proofs.Source.Reading
import TemplateDocs.Yaml.Library

/-! # Lists of sections

A list of sections can stand in an option, in a variable of the environment or in a file of settings. An
option and a variable always mean the same list. A file does so as well, unless the list has blank items:
these are passed over in an option and in a variable, but not in a file.
-/

namespace TemplateDocs

open List

/-! ## Items -/

namespace Text

theorem dropEnd_dropEnd (p : Char → Bool) (cs : List Char) :
    dropEnd p (dropEnd p cs) = dropEnd p cs := by
  obtain ⟨tail, hcs, htail⟩ := exists_dropEnd p cs
  exact (dropEnd_append htail).symm.trans (congrArg (dropEnd p) hcs.symm)

theorem trim_trim (cs : List Char) : trim (trim cs) = trim cs := by
  cases hleft : trimLeft cs with
  | nil =>
      have htrim : trim cs = [] := by rw [trim, hleft]; rfl
      rw [htrim]
      rfl
  | cons c rest =>
      have hblank : isBlank c = false := by
        have hhead := List.head?_dropWhile_not isBlank cs
        rw [← trimLeft, hleft] at hhead
        exact hhead
      have htrim : trim cs = c :: trimRight rest := by
        rw [trim, hleft]
        exact dropEnd_append_cons hblank [] rest
      rw [htrim, Source.trim_cons hblank, trimRight, trimRight, dropEnd_dropEnd]

theorem strip_strip (s : String) : strip (strip s) = strip s := by
  rw [strip, strip, String.toList_ofList, trim_trim]

end Text

/-- The items of a list with commas that are not blank. -/
def namedItems (s : String) : List String :=
  (Text.commaItems s).filter fun word => Text.strip word != ""

namespace Section

instance (x : Section) (word : String) : Decidable (x.NamedBy word) :=
  inferInstanceAs (Decidable (_ = _))

variable {x y : Section} {word : String}

theorem NamedBy.eq (hx : x.NamedBy word) (hy : y.NamedBy word) : x = y :=
  Option.some.inj ((ofString?_eq_some_iff.mpr hx).symm.trans (ofString?_eq_some_iff.mpr hy))

theorem namedBy_strip_iff : x.NamedBy (Text.strip word) ↔ x.NamedBy word := by
  rw [NamedBy, NamedBy, Text.strip_strip]

theorem namedBy_identifier (x : Section) : x.NamedBy x.identifier := by
  cases x <;> cbv

/-- A blank word names nothing. -/
theorem NamedBy.not_blank (h : x.NamedBy word) : Text.strip word ≠ "" := by
  intro hblank
  rw [NamedBy, hblank] at h
  revert h
  cases x <;> decide

end Section

/-- Words name sections one by one. -/
def WordsName (words : List String) (sections : List Section) : Prop :=
  Forall₂ (fun word x => Section.NamedBy x word) words sections

namespace WordsName

variable {words : List String} {xs ys : List Section}

theorem eq (hx : WordsName words xs) (hy : WordsName words ys) : xs = ys := by
  have honce : Relator.RightUnique fun word (x : Section) => x.NamedBy word := fun _ _ _ h => h.eq
  exact honce.forall₂ hx hy

theorem map_strip_iff : WordsName (words.map Text.strip) xs ↔ WordsName words xs := by
  rw [WordsName, forall₂_map_left_iff]
  simp only [Section.namedBy_strip_iff]
  rfl

theorem map_identifier_iff : WordsName (xs.map Section.identifier) ys ↔ ys = xs := by
  have hself : WordsName (xs.map Section.identifier) xs := by
    rw [WordsName, forall₂_map_left_iff]
    exact forall₂_same.mpr fun x _ => x.namedBy_identifier
  exact ⟨fun h => h.eq hself, fun h => h ▸ hself⟩

/-- No word that is among words with names is blank. -/
theorem not_blank (h : WordsName words xs) : ∀ word ∈ words, Text.strip word ≠ "" := by
  intro word hword
  obtain ⟨x, -, hx⟩ := exists_of_mem_forall₂ h.flip hword
  exact Section.NamedBy.not_blank hx

/-- Words name exactly the sections that one of them names. -/
theorem mem_iff (h : WordsName words xs) {x : Section} : x ∈ xs ↔ ∃ word ∈ words, x.NamedBy word := by
  constructor
  · exact fun hx => exists_of_mem_forall₂ h hx
  · rintro ⟨word, hword, hx⟩
    obtain ⟨y, hy, hnamed⟩ := exists_of_mem_forall₂ h.flip hword
    exact Section.NamedBy.eq hnamed hx ▸ hy

theorem exists_iff : (∃ xs, WordsName words xs) ↔ ∀ word ∈ words, ∃ x : Section, x.NamedBy word := by
  constructor
  · rintro ⟨xs, h⟩ word hword
    obtain ⟨x, -, hx⟩ := exists_of_mem_forall₂ h.flip hword
    exact ⟨x, hx⟩
  · intro h
    induction words with
    | nil => exact ⟨[], .nil⟩
    | cons word words ih =>
        obtain ⟨⟨x, hx⟩, hwords⟩ := List.forall_mem_cons.mp h
        obtain ⟨xs, hxs⟩ := ih hwords
        exact ⟨x :: xs, .cons hx hxs⟩

end WordsName

/-! ## Options -/

namespace Selection

variable {s : String} {sections : List Section}

theorem ofStrings_eq_ok_iff {words : List String} :
    Section.ofStrings words = .ok sections ↔ WordsName words sections := by
  rw [Section.ofStrings, mapM_eq_ok_iff]
  simp only [Section.ofString_eq_ok_iff]
  rfl

theorem ofList_eq_ok_iff (hs : s ≠ "") :
    ofList s = .ok sections ↔ WordsName (namedItems s) sections := by
  rw [ofList, if_neg (by simpa using hs), ofWords, ofStrings_eq_ok_iff]
  rfl

theorem resolve_included_eq (hs : s ≠ "") : resolve (some s) none = (difference s "").map some := by
  have hgiven : (some s).filter (· != "") = some s := by simp [Option.filter, hs]
  rw [resolve, hgiven]
  rfl

theorem resolve_excluded_eq (hs : s ≠ "") :
    resolve none (some s) = (difference allSections s).map some := by
  have hgiven : (some s).filter (· != "") = some s := by simp [Option.filter, hs]
  rw [resolve, hgiven]
  rfl

theorem map_eq_ok_some_iff {x : Except Report (List Section)} :
    x.map some = .ok (some sections) ↔ x = .ok sections := by
  cases x <;> simp [Except.map]

/-- An option for sections means those that its items name. -/
theorem resolve_included (hs : s ≠ "") :
    resolve (some s) none = .ok (some sections) ↔ WordsName (namedItems s) sections := by
  have hempty : ofList "" = .ok [] := rfl
  rw [resolve_included_eq hs, map_eq_ok_some_iff, difference, hempty, ← ofList_eq_ok_iff hs]
  cases ofList s <;> simp [bind, Except.bind, pure, Except.pure]

theorem ofList_allSections : ofList allSections = .ok Section.all := by
  have hitems : namedItems allSections = Section.all.map Section.identifier := by decide +kernel
  have hne : allSections ≠ "" := by decide +kernel
  rw [ofList_eq_ok_iff hne, hitems, WordsName.map_identifier_iff]

/-- An option for sections to leave out means all the others, in the order in which a page has them. -/
theorem resolve_excluded (hs : s ≠ "") :
    resolve none (some s) = .ok (some sections) ↔
      (∀ word ∈ namedItems s, ∃ x : Section, x.NamedBy word) ∧
      sections = Section.all.filter fun x => ∀ word ∈ namedItems s, ¬ x.NamedBy word := by
  rw [resolve_excluded_eq hs, map_eq_ok_some_iff, difference, ofList_allSections, ← WordsName.exists_iff]
  cases hlist : ofList s with
  | error e =>
      have hnone : ¬ ∃ xs, WordsName (namedItems s) xs := by
        rintro ⟨xs, hxs⟩
        rw [(ofList_eq_ok_iff hs).mpr hxs] at hlist
        cases hlist
      simp [hnone, bind, Except.bind]
  | ok excluded =>
      have hwords := (ofList_eq_ok_iff hs).mp hlist
      have hfilter : (Section.all.filter fun x => !excluded.contains x) =
          Section.all.filter fun x => ∀ word ∈ namedItems s, ¬ x.NamedBy word :=
        List.filter_congr fun x _ => by rw [Bool.eq_iff_iff]; simp [hwords.mem_iff]
      change Except.ok _ = Except.ok sections ↔ _
      rw [hfilter, Except.ok.injEq, and_iff_right ⟨_, hwords⟩, eq_comm]

end Selection

/-! ## Loading -/

namespace Settings

variable {value : Value} {words words' : List String} {s : String} {sections : List Section}

/-- A variable means what its items mean that are not blank. -/
theorem wordsName_listItems_iff :
    WordsName (listItems s) sections ↔ WordsName (namedItems s) sections := by
  have hitems : listItems s = (namedItems s).map Text.strip := by
    rw [listItems, namedItems, List.filter_map]
    rfl
  rw [hitems, WordsName.map_strip_iff]

/-- All items of a text have to name sections, blank ones among them, and blank ones do not. -/
theorem wordsName_commaItems_iff :
    WordsName (Text.commaItems s) sections ↔
      (∀ word ∈ Text.commaItems s, Text.strip word ≠ "") ∧ WordsName (namedItems s) sections := by
  have hall (h : ∀ word ∈ Text.commaItems s, Text.strip word ≠ "") : namedItems s = Text.commaItems s :=
    List.filter_eq_self.mpr fun word hword => bne_iff_ne.mpr (h word hword)
  constructor
  · intro h
    have hblank := h.not_blank
    exact ⟨hblank, (hall hblank).symm ▸ h⟩
  · rintro ⟨hblank, h⟩
    exact hall hblank ▸ h

/-- A value for the sections is a list or a text with certain words, all of which can be shown. -/
structure ListsWords (value : Value) (words : List String) : Prop where
  kind : isListOrText value = true
  words : sectionWords? value = some (words.map .ok)

theorem listsWords_text (s : String) : ListsWords (.text s) (Text.commaItems s) :=
  ⟨rfl, rfl⟩

theorem listsWords_list (words : List String) : ListsWords (.list (words.map .text)) words :=
  ⟨rfl, by simp [sectionWords?, itemWord, Value.display]⟩

/-- A list of sections themselves has their identifiers for words. -/
theorem listsWords_choices (sections : List Section) :
    ListsWords (.list (sections.map .choice)) (sections.map Section.identifier) :=
  ⟨rfl, by simp [sectionWords?, itemWord]⟩

theorem listsWords_identifiers (sections : List Section) :
    ListsWords (.list (sections.map fun x => .text x.identifier)) (sections.map Section.identifier) := by
  have h := listsWords_list (sections.map Section.identifier)
  rwa [List.map_map] at h

theorem ListsWords.sectionsGiven_eq_ok_iff (h : ListsWords value words) :
    sectionsGiven value = .ok sections ↔ WordsName words sections := by
  rw [Settings.sectionsGiven_eq_ok_iff, NamesSections, h.words]
  simp only [Option.some.injEq, exists_eq_left', forall₂_map_left_iff, Except.ok.injEq]
  rfl

/-- The check of words passes exactly if they name sections. -/
theorem ListsWords.checkSections_eq_ok_iff (h : ListsWords value words) :
    checkSections value = .ok () ↔ ∃ sections, WordsName words sections := by
  simp only [← h.sectionsGiven_eq_ok_iff]
  constructor
  · exact exists_sectionsGiven
  · rintro ⟨sections, hsections⟩
    have hmap : (words.map .ok).mapM id = (.ok words : Except Fault (List String)) :=
      mapM_id_eq_ok_iff.mpr rfl
    cases hunknown : unknownWord? words with
    | none => simp only [checkSections, h.kind, h.words, hmap, hunknown]
    | some word =>
        simp only [sectionsGiven, h.words, sectionsOf_of_unknownWord hunknown] at hsections
        cases hsections

/-- The values of the settings but the sections pass their checks. -/
structure OthersPass (values : Setting → Option Value) : Prop where
  workers : ∀ value, values .workers = some value → checkWorkers value = .ok ()
  trigger : ∀ value, values .trigger = some value → checkFilename Setting.trigger.name value = .ok ()
  output : ∀ value, values .output = some value → checkFilename Setting.output.name value = .ok ()

theorem OthersPass.congr {values values' : Setting → Option Value}
    (h : ∀ x, x ≠ .sections → values x = values' x) : OthersPass values ↔ OthersPass values' := by
  have hworkers := h .workers (by decide)
  have htrigger := h .trigger (by decide)
  have houtput := h .output (by decide)
  constructor
  · rintro ⟨h₁, h₂, h₃⟩
    exact ⟨hworkers ▸ h₁, htrigger ▸ h₂, houtput ▸ h₃⟩
  · rintro ⟨h₁, h₂, h₃⟩
    exact ⟨hworkers ▸ h₁, htrigger ▸ h₂, houtput ▸ h₃⟩

theorem withValues_congr {processors : Option Int} {settings : Settings}
    {values values' : Setting → Option Value} (h : ∀ x, x ≠ .sections → values x = values' x)
    (sections : List Section) :
    withValues processors settings values sections =
      withValues processors settings values' sections := by
  simp only [withValues, h _ (show Setting.decorators ≠ .sections by decide),
    h _ (show Setting.verbose ≠ .sections by decide), h _ (show Setting.trigger ≠ .sections by decide),
    h _ (show Setting.output ≠ .sections by decide), h _ (show Setting.workers ≠ .sections by decide)]

theorem validate_eq_ok_iff {m : Mapping} (hvalue : Setting.sections.valueIn m = some value) :
    validate m = .ok () ↔ checkSections value = .ok () ∧ OthersPass fun x => x.valueIn m := by
  constructor
  · intro h
    obtain ⟨hsections, hworkers, htrigger, houtput⟩ := checks_of_validate h
    exact ⟨hsections value hvalue, hworkers, htrigger, houtput⟩
  · rintro ⟨hsections, h⟩
    have hfirst : checkUnder m "sections" checkSections = .ok () := by
      refine (checkUnder_eq_ok_iff .sections _).mpr fun v hv => ?_
      cases hvalue.symm.trans hv
      exact hsections
    have hworkers : checkUnder m "max_workers" checkWorkers = .ok () :=
      (checkUnder_eq_ok_iff .workers _).mpr h.workers
    have htrigger : checkUnder m "trigger_filename" (checkFilename "trigger_filename") = .ok () :=
      (checkUnder_eq_ok_iff .trigger _).mpr h.trigger
    have houtput : checkUnder m "output_filename" (checkFilename "output_filename") = .ok () :=
      (checkUnder_eq_ok_iff .output _).mpr h.output
    rw [validate, hfirst, hworkers, htrigger, houtput]
    rfl

namespace Sources

/-- The layers have words for the sections, and are checked. -/
structure HasWords (x : Sources) (file : Mapping) (words : List String) : Prop where
  reads : x.Reads file
  validate : x.validate = true
  chosen : ∃ value, x.chosen file .sections = some value ∧ ListsWords value words

variable {x y : Sources} {file file' : Mapping} {settings : Settings}

/-- With words for the sections loading succeeds exactly if they name sections and the other settings
pass; the sections are the ones that are named. -/
theorem HasWords.load_eq_ok_iff (h : x.HasWords file words) :
    x.load.result = .ok settings ↔ OthersPass (x.chosen file) ∧ ∃ sections, WordsName words sections ∧
      settings = withValues x.processors (Settings.default x.processors) (x.chosen file) sections := by
  obtain ⟨value, hvalue, hwords⟩ := h.chosen
  obtain ⟨m, hm, honly, hvalues⟩ := h.reads.layered
  have hchosen : (fun y : Setting => y.valueIn m) = x.chosen file := funext hvalues
  have hsections : Setting.sections.valueIn m = some value := (hvalues .sections).trans hvalue
  have hread : (Settings.ofMapping x.processors m).result = (sectionsGiven value).map
      (withValues x.processors (Settings.default x.processors) (x.chosen file)) := by
    rw [ofMapping_eq honly, hchosen, sectionsAmong, hvalue]
    rfl
  have hcheck : (Settings.validate m).mapError Invalid.failure = .ok () ↔
      OthersPass (x.chosen file) ∧ ∃ sections, WordsName words sections := by
    rw [← hwords.checkSections_eq_ok_iff, ← hchosen, and_comm, ← validate_eq_ok_iff hsections]
    cases Settings.validate m <;> simp [Except.mapError]
  rw [load_result hm, h.validate, if_pos rfl, hread, bind_eq_ok_iff]
  constructor
  · rintro ⟨⟨⟩, hpass, hgiven⟩
    cases hsections : sectionsGiven value with
    | error e =>
        rw [hsections] at hgiven
        cases hgiven
    | ok sections =>
        rw [hsections] at hgiven
        exact ⟨(hcheck.mp hpass).1, sections, hwords.sectionsGiven_eq_ok_iff.mp hsections,
          (Except.ok.inj hgiven).symm⟩
  · rintro ⟨hothers, sections, hnames, rfl⟩
    refine ⟨(), hcheck.mpr ⟨hothers, sections, hnames⟩, ?_⟩
    rw [hwords.sectionsGiven_eq_ok_iff.mpr hnames]
    rfl

/-- Layers that differ in their words for the sections only, and whose words name the same sections, load
alike. -/
theorem HasWords.load_congr (hx : x.HasWords file words) (hy : y.HasWords file' words')
    (hprocessors : x.processors = y.processors)
    (hothers : ∀ z, z ≠ .sections → x.chosen file z = y.chosen file' z)
    (hwords : ∀ sections, WordsName words sections ↔ WordsName words' sections) :
    x.load.result = .ok settings ↔ y.load.result = .ok settings := by
  rw [hx.load_eq_ok_iff, hy.load_eq_ok_iff, OthersPass.congr hothers, hprocessors]
  simp only [hwords, withValues_congr hothers]

end Sources

end Settings

/-! ## Starts of the program -/

namespace Program

open Settings

variable {p : Surroundings} {o : Options} {w w' : World} {file file' : Mapping} {found : Settings}

/-- What settings are loaded from, once the options for sections are read. -/
def sources (p : Surroundings) (o : Options) (files : Tree) (sections : Option (List Section)) :
    Sources where
  yaml := p.yaml
  files
  environment := p.environment
  processors := p.processors
  file := o.config
  overrides := overrides o sections

/-- The settings of a start. -/
def loaded (p : Surroundings) (o : Options) (w : World) : Except Failure Settings :=
  ((settings p o).run w).1

theorem run_ofExcept_bind {α β : Type} (r : Except Failure α) (next : α → Run β) (w : World) :
    ((Run.ofExcept r >>= next).run w).1 = r >>= fun a => ((next a).run w).1 := by
  cases r <;> rfl

theorem run_ofOutcome_bind {α β : Type} (r : Outcome α) (next : α → Run β) (w : World) :
    ((Run.ofOutcome r >>= next).run w).1 =
      r.result >>= fun a => ((next a).run { w with warnings := w.warnings ++ r.warnings }).1 := by
  obtain ⟨warnings, result⟩ := r
  cases result <;> rfl

theorem loaded_eq (p : Surroundings) (o : Options) (w : World) :
    loaded p o w =
      (Selection.resolve o.includeSections o.excludeSections).mapError .reported >>= fun sections =>
        (sources p o w.files sections).load.result >>= fun found =>
          found.summary >>= fun _ => pure found := by
  rw [loaded, settings, run_ofExcept_bind]
  congr 1
  funext sections
  refine (run_ofOutcome_bind _ _ w).trans ?_
  congr 1
  funext found
  exact run_ofExcept_bind _ _ _

theorem loaded_eq_ok_iff :
    loaded p o w = .ok found ↔ ∃ sections,
      Selection.resolve o.includeSections o.excludeSections = .ok sections ∧
      (sources p o w.files sections).load.result = .ok found ∧ ∃ text, found.summary = .ok text := by
  have hresolve (sections : Option (List Section)) :
      (Selection.resolve o.includeSections o.excludeSections).mapError Failure.reported = .ok sections ↔
        Selection.resolve o.includeSections o.excludeSections = .ok sections := by
    cases Selection.resolve o.includeSections o.excludeSections <;> simp [Except.mapError]
  simp only [loaded_eq, bind_eq_ok_iff, hresolve, pure, Except.pure, Except.ok.injEq]
  constructor
  · rintro ⟨sections, hsections, found, hfound, text, htext, rfl⟩
    exact ⟨sections, hsections, hfound, text, htext⟩
  · rintro ⟨sections, hsections, hfound, text, htext⟩
    exact ⟨sections, hsections, found, hfound, text, htext, rfl⟩

theorem onlySettings_overrides (o : Options) (sections : Option (List Section)) :
    OnlySettings (overrides o sections) := by
  refine ⟨?_, by simp [Mapping.KeysOnce, overrides, Key.same]⟩
  simp only [overrides, List.mem_cons, List.not_mem_nil, or_false, forall_eq_or_imp, forall_eq]
  exact ⟨⟨.sections, rfl⟩, ⟨.verbose, rfl⟩, ⟨.decorators, rfl⟩⟩

/-! ### The three places -/

/-- The options with an option for sections. -/
def including (o : Options) (s : String) : Options :=
  { o with includeSections := some s }

/-- The surroundings with a variable for sections. -/
def declaring (p : Surroundings) (s : String) : Surroundings :=
  { p with environment := (Setting.sections.variableName, s) :: p.environment }

/-- A start for which neither an option nor a variable names sections. -/
structure LeavesSections (p : Surroundings) (o : Options) (w : World) (file : Mapping) : Prop where
  included : o.includeSections = none
  excluded : o.excludeSections = none
  environment : Setting.sections.valueFrom p.environment = none
  reads : (sources p o w.files none).Reads file

/-- A mapping in a file is another one with a text for the sections. -/
structure GivesSections (s : String) (file file' : Mapping) : Prop where
  sections : Setting.sections.valueIn file' = some (.text s)
  others : ∀ x : Setting, x ≠ .sections → x.valueIn file' = x.valueIn file

variable {s : String}

theorem LeavesSections.resolve (h : LeavesSections p o w file) :
    Selection.resolve o.includeSections o.excludeSections = .ok none := by
  rw [h.included, h.excluded]
  rfl

theorem valueFrom_declaring (hs : s ≠ "") :
    Setting.sections.valueFrom (declaring p s).environment =
      some (.list ((listItems s).map .text)) := by
  have hgiven : (some s).filter (· != "") = some s := by simp [Option.filter, hs]
  have hentry : entryOf? Setting.sections.variableName (declaring p s).environment = some s :=
    List.lookup_cons_self
  rw [Setting.valueFrom, hentry, hgiven]
  rfl

theorem valueFrom_declaring_of_ne {x : Setting} (hx : x ≠ .sections) :
    x.valueFrom (declaring p s).environment = x.valueFrom p.environment := by
  have hname : (x.variableName == Setting.sections.variableName) = false := by
    cases x with
    | sections => exact absurd rfl hx
    | _ => decide
  have hentry : entryOf? x.variableName (declaring p s).environment =
      entryOf? x.variableName p.environment := by
    rw [entryOf?, declaring, List.lookup_cons, hname]
    rfl
  rw [Setting.valueFrom, hentry]
  rfl

/-- Without a variable for them, sections come from the file. -/
theorem LeavesSections.chosen_file (h : LeavesSections p o w file) (files : Tree) (file' : Mapping) :
    (sources p o files none).chosen file' .sections = Setting.sections.valueIn file' := by
  have hoverride : (sources p o files none).override? .sections = none := rfl
  rw [Sources.chosen, hoverride, Sources.fromEnvironment?, sources, h.environment]
  rfl

/-- Which sections the options ask for makes no difference to the other settings. -/
theorem chosen_overrides {x : Setting} (hx : x ≠ .sections) (sections : Option (List Section)) :
    (sources p (including o s) w.files sections).chosen file x =
      (sources p o w.files none).chosen file x := by
  cases x with
  | sections => exact absurd rfl hx
  | _ => rfl

theorem hasWords_including (h : LeavesSections p o w file) (sections : List Section) :
    (sources p (including o s) w.files (some sections)).HasWords file
      (sections.map Section.identifier) where
  reads := ⟨h.reads.read, h.reads.only, h.reads.plain, onlySettings_overrides _ _⟩
  validate := rfl
  chosen := ⟨_, rfl, listsWords_choices sections⟩

theorem hasWords_declaring (hs : s ≠ "") (h : LeavesSections p o w file) :
    (sources (declaring p s) o w.files none).HasWords file (listItems s) where
  reads := ⟨h.reads.read, h.reads.only, h.reads.plain, onlySettings_overrides _ _⟩
  validate := rfl
  chosen := by
    have hoverride : (sources (declaring p s) o w.files none).override? .sections = none := rfl
    have hvariable : (sources (declaring p s) o w.files none).fromEnvironment? .sections =
        some (.list ((listItems s).map .text)) := valueFrom_declaring hs
    refine ⟨.list ((listItems s).map .text), ?_, listsWords_list _⟩
    rw [Sources.chosen, hoverride, hvariable]
    rfl

theorem hasWords_file (h : LeavesSections p o w file) (hgives : GivesSections s file file')
    (hreads : (sources p o w'.files none).Reads file') :
    (sources p o w'.files none).HasWords file' (Text.commaItems s) where
  reads := hreads
  validate := rfl
  chosen := ⟨.text s, (h.chosen_file _ _).trans hgives.sections, listsWords_text s⟩

theorem chosen_declaring {x : Setting} (hx : x ≠ .sections) :
    (sources (declaring p s) o w.files none).chosen file x =
      (sources p o w.files none).chosen file x := by
  have hvariable : (sources (declaring p s) o w.files none).fromEnvironment? x =
      (sources p o w.files none).fromEnvironment? x := valueFrom_declaring_of_ne hx
  rw [Sources.chosen, Sources.chosen, hvariable]
  rfl

theorem chosen_gives (hgives : GivesSections s file file') {x : Setting} (hx : x ≠ .sections) :
    (sources p o w'.files none).chosen file' x = (sources p o w.files none).chosen file x := by
  rw [Sources.chosen, Sources.chosen, hgives.others x hx]
  rfl

theorem loaded_declaring_iff (h : LeavesSections p o w file) :
    loaded (declaring p s) o w = .ok found ↔
      (sources (declaring p s) o w.files none).load.result = .ok found ∧
        ∃ text, found.summary = .ok text := by
  rw [loaded_eq_ok_iff, h.resolve]
  simp

/-- A list means the same as an option and as a variable. -/
theorem loaded_including_iff (hs : s ≠ "") (h : LeavesSections p o w file) :
    loaded p (including o s) w = .ok found ↔ loaded (declaring p s) o w = .ok found := by
  have hresolve : Selection.resolve (including o s).includeSections (including o s).excludeSections =
      Selection.resolve (some s) none := congrArg _ h.excluded
  -- Once the words are known to name sections, the identifiers of these are as good as the words.
  have hload {sections : List Section} (hnames : WordsName (namedItems s) sections) :
      (sources p (including o s) w.files (some sections)).load.result = .ok found ↔
        (sources (declaring p s) o w.files none).load.result = .ok found := by
    refine (hasWords_including h sections).load_congr (hasWords_declaring hs h) rfl (fun x hx => ?_)
      fun others => ?_
    · rw [chosen_overrides hx, chosen_declaring hx]
    · rw [WordsName.map_identifier_iff, wordsName_listItems_iff]
      exact ⟨fun heq => heq ▸ hnames, fun hothers => hothers.eq hnames⟩
  rw [loaded_declaring_iff h, loaded_eq_ok_iff, hresolve]
  constructor
  · rintro ⟨_ | sections, hsections, hloaded, hsummary⟩
    · rw [Selection.resolve_included_eq hs] at hsections
      cases hdifference : Selection.difference s "" <;> rw [hdifference] at hsections <;> cases hsections
    · exact ⟨(hload ((Selection.resolve_included hs).mp hsections)).mp hloaded, hsummary⟩
  · rintro ⟨hloaded, hsummary⟩
    obtain ⟨-, sections, hnames, -⟩ := (hasWords_declaring hs h).load_eq_ok_iff.mp hloaded
    have hnamed := wordsName_listItems_iff.mp hnames
    have hresolved := (Selection.resolve_included hs).mpr hnamed
    exact ⟨some sections, hresolved, (hload hnamed).mpr hloaded, hsummary⟩

/-- A list in a file means the same as in a variable, but may have no blank items. -/
theorem loaded_file_iff (hs : s ≠ "") (h : LeavesSections p o w file)
    (hgives : GivesSections s file file') (hreads : (sources p o w'.files none).Reads file') :
    loaded p o w' = .ok found ↔ (∀ word ∈ Text.commaItems s, Text.strip word ≠ "") ∧
      loaded (declaring p s) o w = .ok found := by
  have hothers : ∀ x : Setting, x ≠ .sections → (sources p o w'.files none).chosen file' x =
      (sources (declaring p s) o w.files none).chosen file x := fun x hx => by
    rw [chosen_gives (w := w) hgives hx, chosen_declaring hx]
  have hload : (sources p o w'.files none).load.result = .ok found ↔
      (∀ word ∈ Text.commaItems s, Text.strip word ≠ "") ∧
        (sources (declaring p s) o w.files none).load.result = .ok found := by
    rw [(hasWords_file h hgives hreads).load_eq_ok_iff, (hasWords_declaring hs h).load_eq_ok_iff,
      OthersPass.congr hothers]
    simp only [wordsName_commaItems_iff, wordsName_listItems_iff, withValues_congr hothers, and_assoc,
      exists_and_left]
    exact and_left_comm
  rw [loaded_declaring_iff h, loaded_eq_ok_iff, h.resolve]
  simp [hload, and_assoc]

/-- A list of sections means the same as an option and as a variable: settings with the sections that
its items name, or none. It means the same in a file, too, exactly if it has no blank items or gives no
settings anyway, since a file with blank items gives none. Taken away, the named sections leave the
others in the order in which a page has them. -/
theorem section_lists_agree (hs : s ≠ "") (h : LeavesSections p o w file)
    (hgives : GivesSections s file file') (hreads : (sources p o w'.files none).Reads file') :
    (∀ found, loaded p (including o s) w = .ok found ↔ loaded (declaring p s) o w = .ok found) ∧
    (∀ found, loaded (declaring p s) o w = .ok found → WordsName (namedItems s) found.sections) ∧
    ((∀ found, loaded p o w' = .ok found ↔ loaded (declaring p s) o w = .ok found) ↔
      (∀ word ∈ Text.commaItems s, Text.strip word ≠ "") ∨
        ∀ found, loaded (declaring p s) o w ≠ .ok found) ∧
    ((∃ word ∈ Text.commaItems s, Text.strip word = "") → ∀ found, loaded p o w' ≠ .ok found) ∧
    ∀ sections, Selection.resolve none (some s) = .ok (some sections) ↔
      (∀ word ∈ namedItems s, ∃ x : Section, x.NamedBy word) ∧
      sections = Section.all.filter fun x => ∀ word ∈ namedItems s, ¬ x.NamedBy word := by
  have hfile (found : Settings) : loaded p o w' = .ok found ↔
      (∀ word ∈ Text.commaItems s, Text.strip word ≠ "") ∧ loaded (declaring p s) o w = .ok found :=
    loaded_file_iff hs h hgives hreads
  refine ⟨fun found => loaded_including_iff hs h, fun found hloaded => ?_, ?_, ?_,
    fun sections => Selection.resolve_excluded hs⟩
  · obtain ⟨hload, -⟩ := (loaded_declaring_iff h).mp hloaded
    obtain ⟨-, sections, hnames, rfl⟩ := (hasWords_declaring hs h).load_eq_ok_iff.mp hload
    exact wordsName_listItems_iff.mp hnames
  · simp only [hfile, and_iff_right_iff_imp]
    constructor
    · intro hsame
      by_cases hnone : ∀ found, loaded (declaring p s) o w ≠ .ok found
      · exact .inr hnone
      · push Not at hnone
        obtain ⟨found, hfound⟩ := hnone
        exact .inl (hsame found hfound)
    · rintro (hblank | hnone) found hfound
      · exact hblank
      · exact absurd hfound (hnone found)
  · rintro ⟨word, hword, hblank⟩ found hfound
    exact ((hfile found).mp hfound).1 word hword hblank

/-- Surroundings with a variable that is set and one that is empty. -/
def fewVariables : Surroundings where
  compiler := { compile := fun _ => {}, folder := "tmp", tag := fun _ => "0" }
  yaml := Yaml.library
  printer := Terminal.printer
  environment := [("BICEP_DOCS_MAX_WORKERS", "3"), ("BICEP_DOCS_SECTIONS", "")]

/-- Options that name a file of settings. -/
def namingFile : Options := { config := some "c.json" }

/-- A world with that file. -/
def fileHolding (text : String) : World :=
  { files := .folder [("c.json", .file (Text.encode text))] }

theorem reads_fileHolding {text : String} {entries : List (String × Json)}
    (h : Json.read text = .ok (.object entries)) (honly : OnlySettings (Value.ofEntries entries))
    (hplain : ∀ e ∈ Value.ofEntries entries, e.2.isMapping = false) :
    (sources fewVariables namingFile (fileHolding text).files none).Reads (Value.ofEntries entries) where
  read := Sources.fileMapping_json rfl rfl h
  only := honly
  plain := hplain
  overrides := onlySettings_overrides _ _

theorem leavesSections_verboseFile :
    LeavesSections fewVariables namingFile (fileHolding Sources.verboseFile)
      (Value.ofEntries [("verbose", .int 1)]) where
  included := rfl
  excluded := rfl
  environment := rfl
  reads := reads_fileHolding (by cbv)
    ⟨by simpa [Value.ofEntries] using ⟨.verbose, rfl⟩, by simp [Mapping.KeysOnce, Value.ofEntries]⟩
    (by simp [Value.ofEntries, Value.ofJson, Value.isMapping])

/-- Next to that file a variable gives the sections that it names. -/
theorem exists_loaded_declaring {sections : List Section} (hs : s ≠ "")
    (hnames : WordsName (namedItems s) sections) :
    ∃ found, loaded (declaring fewVariables s) namingFile (fileHolding Sources.verboseFile) = .ok found ∧
      found.sections = sections := by
  have hopen := leavesSections_verboseFile
  have hothers : OthersPass ((sources (declaring fewVariables s) namingFile
      (fileHolding Sources.verboseFile).files none).chosen (Value.ofEntries [("verbose", .int 1)])) := by
    constructor
    · rintro value hvalue
      cases hvalue
      rfl
    · rintro value ⟨⟩
    · rintro value ⟨⟩
  have hload := (hasWords_declaring hs hopen).load_eq_ok_iff.mpr
    ⟨hothers, sections, wordsName_listItems_iff.mpr hnames, rfl⟩
  exact ⟨_, (loaded_declaring_iff hopen).mpr ⟨hload, _, rfl⟩, rfl⟩

/-- A file with a list of sections. -/
def listingFile : String := "\x7b\"verbose\":1,\"sections\":\" Outputs,usage\"\x7d"

/-- Sections in any case and with blanks around them, in all three places. -/
theorem section_lists_agree_unordered :
    (∃ found,
      loaded fewVariables (including namingFile " Outputs,usage") (fileHolding Sources.verboseFile) =
        .ok found ∧
      loaded (declaring fewVariables " Outputs,usage") namingFile (fileHolding Sources.verboseFile) =
        .ok found ∧
      loaded fewVariables namingFile (fileHolding listingFile) = .ok found ∧
      WordsName [" Outputs", "usage"] found.sections) ∧
    Selection.resolve none (some " Outputs,usage") = .ok (some
      [.description, .modules, .resources, .parameters, .dataTypes, .functions, .vars]) := by
  have hread : Json.read listingFile =
      .ok (.object [("verbose", .int 1), ("sections", .text " Outputs,usage")]) := by cbv
  have hreads := reads_fileHolding hread
    ⟨by simpa [Value.ofEntries] using ⟨⟨.verbose, rfl⟩, ⟨.sections, rfl⟩⟩,
      by simp [Mapping.KeysOnce, Value.ofEntries, Key.same]⟩
    (by simp [Value.ofEntries, Value.ofJson, Value.isMapping])
  obtain ⟨hoption, hnames, hfile, -, hothers⟩ := section_lists_agree (s := " Outputs,usage") (by decide)
    leavesSections_verboseFile ⟨rfl, fun x hx => by cases x <;> first | rfl | exact absurd rfl hx⟩ hreads
  have hitems : namedItems " Outputs,usage" = [" Outputs", "usage"] := by decide +kernel
  have hblank : ∀ word ∈ Text.commaItems " Outputs,usage", Text.strip word ≠ "" := by decide +kernel
  have hwords : WordsName (namedItems " Outputs,usage") [.outputs, .usage] := by
    rw [hitems]
    exact .cons (by cbv) (.cons (by cbv) .nil)
  obtain ⟨found, hfound, -⟩ := exists_loaded_declaring (by decide) hwords
  refine ⟨⟨found, (hoption found).mpr hfound, hfound, (hfile.mpr (.inl hblank) found).mpr hfound,
    hitems ▸ hnames found hfound⟩, (hothers _).mpr ⟨WordsName.exists_iff.mp ⟨_, hwords⟩, ?_⟩⟩
  rw [hitems]
  decide +kernel

/-- A file with a list that ends in a comma. -/
def trailingFile : String := "\x7b\"verbose\":1,\"sections\":\"usage,\"\x7d"

/-- A comma at the end makes no difference to an option and to a variable, but a file is rejected. -/
theorem trailing_comma_rejected_in_file :
    (∃ found,
      loaded fewVariables (including namingFile "usage,") (fileHolding Sources.verboseFile) = .ok found ∧
      loaded (declaring fewVariables "usage,") namingFile (fileHolding Sources.verboseFile) = .ok found ∧
      found.sections = [.usage]) ∧
    loaded fewVariables namingFile (fileHolding trailingFile) =
      .error (.reported { category := .configuration, message := "invalid section: \"\"" }) := by
  have hwords : WordsName (namedItems "usage,") [.usage] := by
    have hitems : namedItems "usage," = ["usage"] := by decide +kernel
    rw [hitems]
    exact .cons (by cbv) .nil
  obtain ⟨found, hfound, hsections⟩ := exists_loaded_declaring (by decide) hwords
  refine ⟨⟨found, (loaded_including_iff (by decide) leavesSections_verboseFile).mpr hfound, hfound,
    hsections⟩, ?_⟩
  have hread : Json.read trailingFile =
      .ok (.object [("verbose", .int 1), ("sections", .text "usage,")]) := by cbv
  have hmapping : (sources fewVariables namingFile (fileHolding trailingFile).files none).fileMapping =
      .ok (Value.ofEntries [("verbose", .int 1), ("sections", .text "usage,")]) :=
    Sources.fileMapping_json rfl rfl hread
  have hload : (sources fewVariables namingFile (fileHolding trailingFile).files none).load.result =
      .error (Invalid.unknownSection "").failure := by
    simp only [Sources.load, Sources.layered, hmapping]
    rfl
  have hresolve :
      Selection.resolve namingFile.includeSections namingFile.excludeSections = .ok none := rfl
  rw [loaded_eq, hresolve]
  simp only [Except.mapError, bind, Except.bind, hload]
  rfl

end Program

end TemplateDocs
