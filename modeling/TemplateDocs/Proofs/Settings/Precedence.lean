import Mathlib
import TemplateDocs.Proofs.Settings.Reading
import TemplateDocs.Proofs.Template.Parse
import TemplateDocs.Proofs.Text.Utf8
import TemplateDocs.Yaml.Library

/-! # Which layer a setting comes from

An override wins over the environment, the environment over the file, and the file over the default.
What a higher layer replaces has no effect at all, so it cannot make loading fail either.
-/

namespace TemplateDocs.Settings

open List

/-! ## The environment -/

namespace Setting

/-- The variable that gives a setting. -/
def variableName : Setting → String
  | sections => "BICEP_DOCS_SECTIONS"
  | decorators => "BICEP_DOCS_SHOW_ALL_DECORATORS"
  | verbose => "BICEP_DOCS_VERBOSE"
  | trigger => "BICEP_DOCS_TRIGGER_FILENAME"
  | output => "BICEP_DOCS_OUTPUT_FILENAME"
  | workers => "BICEP_DOCS_MAX_WORKERS"

/-- What the text of a variable means for a setting. A number of workers has to be a whole number. -/
def ofText? : Setting → String → Option Value
  | sections, s => some (.list ((listItems s).map .text))
  | decorators, s => some (.bool (meansYes s))
  | verbose, s => some (.bool (meansYes s))
  | trigger, s => some (.text s)
  | output, s => some (.text s)
  | workers, s => (Text.integer? s).map .int

/-- The value that an environment gives a setting. An empty variable gives none. -/
def valueFrom (env : Environment) (x : Setting) : Option Value :=
  ((entryOf? x.variableName env).filter (· != "")).bind x.ofText?

/-- The entries for settings with values. -/
def entriesOf (xs : List Setting) (values : Setting → Option Value) : Mapping :=
  xs.flatMap fun x => (values x).toList.map fun value => (x.key, value)

theorem mem_entriesOf {xs : List Setting} {values : Setting → Option Value} {e : Key × Value}
    (h : e ∈ entriesOf xs values) : ∃ x ∈ xs, e.1 = x.key ∧ values x = some e.2 := by
  obtain ⟨x, hx, he⟩ := List.mem_flatMap.mp h
  obtain ⟨value, hvalue, rfl⟩ := List.mem_map.mp he
  exact ⟨x, hx, rfl, Option.mem_toList.mp hvalue⟩

theorem entriesOf_cons (x : Setting) (xs : List Setting) (values : Setting → Option Value) :
    entriesOf (x :: xs) values =
      ((values x).toList.map fun value => (x.key, value)) ++ entriesOf xs values :=
  rfl

theorem valueIn_entriesOf (xs : List Setting) (values : Setting → Option Value) (y : Setting) :
    y.valueIn (entriesOf xs values) = if y ∈ xs then values y else none := by
  induction xs with
  | nil => simp [entriesOf, valueIn_nil]
  | cons x xs ih =>
      have hhead : y.valueIn ((values x).toList.map fun value => (x.key, value)) =
          if y = x then values y else none := by
        cases hx : values x with
        | none => by_cases hyx : y = x <;> simp [valueIn_nil, hyx, hx]
        | some value =>
            by_cases hyx : y = x
            · simp [valueIn_cons, hyx, hx]
            · simp [valueIn_cons, valueIn_nil, hyx, Ne.symm hyx]
      have happend : y.valueIn (entriesOf (x :: xs) values) =
          (y.valueIn ((values x).toList.map fun value => (x.key, value))).or
            (y.valueIn (entriesOf xs values)) :=
        Key.find?_text_append _ _
      rw [happend, hhead, ih]
      by_cases hyx : y = x
      · subst hyx
        cases hy : values y <;> simp
      · simp [hyx]

theorem onlySettings_entriesOf {xs : List Setting} (h : xs.Nodup) (values : Setting → Option Value) :
    OnlySettings (entriesOf xs values) := by
  refine ⟨fun e he => ?_, ?_⟩
  · obtain ⟨x, -, hkey, -⟩ := mem_entriesOf he
    exact ⟨x, hkey⟩
  · induction xs with
    | nil => exact List.Pairwise.nil
    | cons x xs ih =>
        obtain ⟨hx, hxs⟩ := List.nodup_cons.mp h
        rw [entriesOf_cons]
        cases values x with
        | none => exact ih hxs
        | some value =>
            refine List.pairwise_cons.mpr ⟨fun e he => ?_, ih hxs⟩
            obtain ⟨y, hy, hkey, -⟩ := mem_entriesOf he
            have hne : ¬ (x.key.same e.1 = true) := by
              rw [key, Key.text_same_iff, hkey]
              intro hsame
              exact hx (key_inj hsame ▸ hy)
            exact Bool.eq_false_iff.mpr hne

/-- No value from an environment is a mapping. -/
theorem not_isMapping_of_valueFrom {env : Environment} {x : Setting} {value : Value}
    (h : x.valueFrom env = some value) : value.isMapping = false := by
  unfold valueFrom at h
  obtain ⟨text, -, htext⟩ := Option.bind_eq_some_iff.mp h
  cases x with
  | workers =>
      obtain ⟨n, -, rfl⟩ := Option.map_eq_some_iff.mp htext
      rfl
  | _ =>
      cases htext
      rfl

end Setting

theorem fromVariable_result {env : Environment} {x : Setting} {read : String → Outcome (Option Value)}
    (hread : ∀ text, (read text).result = .ok (x.ofText? text)) :
    (fromVariable env x.variableName x.name read).result =
      .ok ((x.valueFrom env).toList.map fun value => (x.key, value)) := by
  unfold fromVariable Setting.valueFrom
  cases entryOf? x.variableName env with
  | none => rfl
  | some text =>
      by_cases hempty : text = ""
      · subst hempty
        rfl
      · have hgiven : (some text).filter (· != "") = some text := by simp [Option.filter, hempty]
        rw [hgiven, Option.bind_some]
        simp only [beq_iff_eq, hempty, if_false, Outcome.bind_result, hread]
        cases x.ofText? text <;> rfl

/-- An environment gives each setting the value of its variable. -/
theorem ofEnvironment_result (env : Environment) :
    (ofEnvironment env).result = .ok (Setting.entriesOf Setting.all fun x => x.valueFrom env) := by
  have hworkers : ∀ text, (workersOf text).result = .ok (Setting.workers.ofText? text) := by
    intro text
    simp only [workersOf, Setting.ofText?]
    cases Text.integer? text <;> rfl
  unfold ofEnvironment
  simp only [Outcome.bind_result]
  refine bind_eq_ok_iff.mpr ⟨_, fromVariable_result (x := .sections) fun _ => rfl, ?_⟩
  refine bind_eq_ok_iff.mpr ⟨_, fromVariable_result (x := .decorators) fun _ => rfl, ?_⟩
  refine bind_eq_ok_iff.mpr ⟨_, fromVariable_result (x := .verbose) fun _ => rfl, ?_⟩
  refine bind_eq_ok_iff.mpr ⟨_, fromVariable_result (x := .trigger) fun _ => rfl, ?_⟩
  refine bind_eq_ok_iff.mpr ⟨_, fromVariable_result (x := .output) fun _ => rfl, ?_⟩
  refine bind_eq_ok_iff.mpr ⟨_, fromVariable_result (x := .workers) hworkers, ?_⟩
  simp [Setting.entriesOf, Setting.all, pure]

/-! ## The layers -/

namespace Sources

/-- The override of a setting; null is none. -/
def override? (s : Sources) (x : Setting) : Option Value :=
  (x.valueIn s.overrides).filter fun value => !value.isNull

/-- The value that the environment has for a setting, if it is asked. -/
def fromEnvironment? (s : Sources) (x : Setting) : Option Value :=
  if s.useEnvironment then x.valueFrom s.environment else none

/-- The value that counts for a setting: the one of the highest layer that has one. -/
def chosen (s : Sources) (file : Mapping) (x : Setting) : Option Value :=
  (s.override? x).or ((s.fromEnvironment? x).or (x.valueIn file))

/-- The file and the overrides hold settings, and none in the file is a mapping itself. -/
structure Reads (s : Sources) (file : Mapping) : Prop where
  read : s.fileMapping = .ok file
  only : OnlySettings file
  plain : ∀ e ∈ file, e.2.isMapping = false
  overrides : OnlySettings s.overrides

/-- Sources that differ in no more than what a higher layer replaces. -/
structure SameWhereSeen (s other : Sources) (file otherFile : Mapping) : Prop where
  processors : s.processors = other.processors
  validate : s.validate = other.validate
  overrides : ∀ x, s.override? x = other.override? x
  environment : ∀ x, s.override? x = none → s.fromEnvironment? x = other.fromEnvironment? x
  file : ∀ x : Setting, s.override? x = none → s.fromEnvironment? x = none →
    x.valueIn file = x.valueIn otherFile

theorem SameWhereSeen.chosen_eq {s other : Sources} {file otherFile : Mapping}
    (h : s.SameWhereSeen other file otherFile) (x : Setting) :
    s.chosen file x = other.chosen otherFile x := by
  unfold chosen
  rw [← h.overrides x]
  cases hoverride : s.override? x with
  | some value => rfl
  | none =>
      rw [← h.environment x hoverride]
      cases hvariable : s.fromEnvironment? x with
      | some value => rfl
      | none => rw [h.file x hoverride hvariable]

section Layers

variable {s : Sources} {file : Mapping}

theorem valueIn_givenOverrides (h : OnlySettings s.overrides) (x : Setting) :
    x.valueIn s.givenOverrides = s.override? x :=
  h.once.find?_filter (fun value => !value.isNull) x.name

theorem onlySettings_givenOverrides (h : OnlySettings s.overrides) : OnlySettings s.givenOverrides :=
  ⟨fun e he => h.named e (List.mem_of_mem_filter he), h.once.filter _⟩

/-- The mapping that the environment gives, if it is asked. -/
theorem environment_result (s : Sources) :
    ∃ m, (if s.useEnvironment then ofEnvironment s.environment else pure []).result = .ok m ∧
      OnlySettings m ∧ ∀ x, x.valueIn m = s.fromEnvironment? x := by
  unfold fromEnvironment?
  cases s.useEnvironment with
  | false => exact ⟨[], rfl, onlySettings_nil, fun x => rfl⟩
  | true =>
      refine ⟨_, ofEnvironment_result s.environment,
        Setting.onlySettings_entriesOf (by decide) _, fun x => ?_⟩
      rw [Setting.valueIn_entriesOf, if_pos x.mem_all]
      rfl

theorem not_isMapping_of_fromEnvironment? {x : Setting} {value : Value}
    (h : s.fromEnvironment? x = some value) :
    value.isMapping = false := by
  unfold fromEnvironment? at h
  split at h
  · exact Setting.not_isMapping_of_valueFrom h
  · cases h

/-- The layers together have the value that counts for each setting. -/
theorem Reads.layered (h : s.Reads file) :
    ∃ m, s.layered.result = .ok m ∧ OnlySettings m ∧ ∀ x, x.valueIn m = s.chosen file x := by
  obtain ⟨env, henv, honly, hvalue⟩ := s.environment_result
  have hgiven := onlySettings_givenOverrides h.overrides
  have hbase := onlySettings_nil.merge h.only
  refine ⟨_, ?_, (hbase.merge honly).merge hgiven, fun x => ?_⟩
  · unfold Sources.layered
    rw [Outcome.bind_result]
    refine bind_eq_ok_iff.mpr ⟨file, h.read, ?_⟩
    cases huse : s.useEnvironment <;>
      simp only [huse, if_true, if_false, Bool.false_eq_true, Outcome.bind_result] at henv ⊢ <;>
      exact bind_eq_ok_iff.mpr ⟨env, henv, rfl⟩
  · have hfile : x.valueIn (Mapping.merge [] file) = x.valueIn file := by
      rw [h.only.valueIn_merge x rfl, Setting.valueIn_nil, Option.or_none]
    have hplain : (x.valueIn file).all fun v => !v.isMapping := by
      cases hx : x.valueIn file with
      | none => rfl
      | some value => simpa using h.plain _ (Key.find?_text_of_mem hx)
    have hbelow : x.valueIn (Mapping.merge (Mapping.merge [] file) env) =
        (s.fromEnvironment? x).or (x.valueIn file) := by
      rw [honly.valueIn_merge x (by rw [hfile]; exact hplain), hvalue, hfile]
    have hbelowPlain : ((s.fromEnvironment? x).or (x.valueIn file)).all fun v => !v.isMapping := by
      cases hx : s.fromEnvironment? x with
      | none => exact hplain
      | some value => simpa using not_isMapping_of_fromEnvironment? hx
    rw [hgiven.valueIn_merge x (by rw [hbelow]; exact hbelowPlain), hbelow,
      valueIn_givenOverrides h.overrides]
    rfl

/-- Loading is checking and reading what the layers have. -/
theorem load_result {m : Mapping} (h : s.layered.result = .ok m) :
    s.load.result =
      (if s.validate then (Settings.validate m).mapError Invalid.failure else .ok ()) >>=
        fun _ => (Settings.ofMapping s.processors m).result := by
  unfold load
  rw [Outcome.bind_result, h]
  cases s.validate with
  | false => rfl
  | true =>
      have hcheck : ∀ check : Except Failure Unit,
          (Outcome.ofExcept check >>= fun _ => Settings.ofMapping s.processors m).result =
            check >>= fun _ => (Settings.ofMapping s.processors m).result :=
        fun check => Outcome.bind_result _ _
      exact hcheck _

theorem ofMapping_of_load {m : Mapping} {settings : Settings} (hm : s.layered.result = .ok m)
    (h : s.load.result = .ok settings) :
    (Settings.ofMapping s.processors m).result = .ok settings := by
  rw [load_result hm] at h
  obtain ⟨-, -, hread⟩ := bind_eq_ok_iff.mp h
  exact hread

end Layers

/-- Each setting that is loaded is what the highest layer that has a value for it says, and the default
where none has. What a higher layer replaces makes no difference to the settings or to the failure. -/
theorem load_precedence {s : Sources} {file : Mapping} (h : s.Reads file) :
    (∀ settings, s.load.result = .ok settings → settings.damage = {} ∧
      ∀ x : Setting, x.Holds s.processors settings (s.chosen file x)) ∧
    ∀ other otherFile, Reads other otherFile → s.SameWhereSeen other file otherFile →
      s.load.result = other.load.result := by
  obtain ⟨m, hm, honly, hvalue⟩ := h.layered
  refine ⟨fun settings hload => ?_, fun other otherFile hother hsame => ?_⟩
  · obtain ⟨hdamage, hholds⟩ := holds_of_ofMapping honly (ofMapping_of_load hm hload)
    refine ⟨hdamage, fun x => ?_⟩
    rw [← hvalue x]
    exact hholds x
  · obtain ⟨m', hm', honly', hvalue'⟩ := hother.layered
    have hvalues : ∀ x : Setting, x.valueIn m = x.valueIn m' := by
      intro x
      rw [hvalue, hvalue', hsame.chosen_eq]
    rw [load_result hm, load_result hm', hsame.validate, hsame.processors, validate_congr hvalues,
      ofMapping_congr honly honly' hvalues]

/-! ## The named file -/

/-- The mapping in a named file is the one that its bytes stand for. -/
theorem fileMapping_of_find {s : Sources} {name : String} {bytes : ByteArray} {entries : Mapping}
    (hfile : s.file = some name) (hname : name ≠ "") (hfind : s.files.find name = .ok (.file bytes))
    (hvalue : fileValue s.yaml name bytes = .ok (.dict entries)) : s.fileMapping = .ok entries := by
  simp [fileMapping, hfile, Option.filter, hname, mappingIn, Tree.holds, Tree.read, hfind,
    Except.toOption, hvalue]

/-- A named file that cannot be read is the end. -/
theorem load_of_fileValue_error {s : Sources} {name : String} {bytes : ByteArray} {e : Failure}
    (hfile : s.file = some name) (hname : name ≠ "") (hfind : s.files.find name = .ok (.file bytes))
    (hvalue : fileValue s.yaml name bytes = .error e) : s.load.result = .error e := by
  have hmapping : s.fileMapping = .error e := by
    simp [fileMapping, hfile, Option.filter, hname, mappingIn, Tree.holds, Tree.read, hfind,
      Except.toOption, hvalue]
  simp only [load, layered, hmapping]
  rfl

theorem fileMapping_json {s : Sources} {text : String} {entries : List (String × Json)}
    (hfile : s.file = some "c.json")
    (hfiles : s.files = .folder [("c.json", .file (Text.encode text))])
    (h : Json.read text = .ok (.object entries)) : s.fileMapping = .ok (Value.ofEntries entries) := by
  have hlocate : s.files.locate "c.json" = .ok ["c.json"] := hfiles ▸ rfl
  have hfind : s.files.find "c.json" = .ok (.file (Text.encode text)) := by
    simp only [Tree.find, hlocate]
    rw [hfiles]
    rfl
  have hjson : isYaml "c.json" = false := by decide +kernel
  refine fileMapping_of_find hfile (by decide) hfind ?_
  simp [fileValue, hjson, jsonValue, Text.decode?_encode, h, Value.ofJson]

/-! An example with all four layers: the file has sections that nothing names, but the environment
replaces them; an empty variable, a text that is no number and a null override leave the word to the
layer below. -/

/-- A file of settings next to an environment and overrides. -/
def fourLayers (text : String) : Sources where
  yaml := Yaml.library
  files := .folder [("c.json", .file (Text.encode text))]
  environment := [("BICEP_DOCS_SECTIONS", "Usage,, outputs "), ("BICEP_DOCS_VERBOSE", ""),
    ("BICEP_DOCS_MAX_WORKERS", "many")]
  file := some "c.json"
  overrides := [(.text "trigger_filename", .text "a.bicep"), (.text "verbose", .null)]

theorem fourLayers_fileMapping {text : String} {entries : List (String × Json)}
    (h : Json.read text = .ok (.object entries)) :
    (fourLayers text).fileMapping = .ok (Value.ofEntries entries) :=
  fileMapping_json rfl rfl h

theorem fourLayers_reads {text : String} {entries : List (String × Json)}
    (h : Json.read text = .ok (.object entries)) (honly : OnlySettings (Value.ofEntries entries))
    (hplain : ∀ e ∈ Value.ofEntries entries, e.2.isMapping = false) :
    (fourLayers text).Reads (Value.ofEntries entries) where
  read := fourLayers_fileMapping h
  only := honly
  plain := hplain
  overrides := by
    refine ⟨?_, by simp [Mapping.KeysOnce, fourLayers, Key.same]⟩
    simp only [fourLayers, List.mem_cons, List.not_mem_nil, or_false, forall_eq_or_imp, forall_eq]
    exact ⟨⟨.trigger, rfl⟩, ⟨.verbose, rfl⟩⟩

/-- A file with sections that nothing names. -/
def bogusFile : String := "\x7b\"sections\":\"bogus\",\"verbose\":1\x7d"

/-- The same file without the sections. -/
def verboseFile : String := "\x7b\"verbose\":1\x7d"

theorem load_precedence_fourLayers :
    ∃ settings,
      (fourLayers bogusFile).load.result = .ok settings ∧
      (fourLayers verboseFile).load.result = .ok settings ∧
      settings.sections = [.usage, .outputs] ∧ settings.verbose = .int 1 ∧
      settings.triggerFilename = .text "a.bicep" ∧ settings.outputFilename = .text "README.md" ∧
      settings.maxWorkers = .int 2 := by
  have hread : Json.read bogusFile =
      .ok (.object [("sections", .text "bogus"), ("verbose", .int 1)]) := by cbv
  have hread' : Json.read verboseFile = .ok (.object [("verbose", .int 1)]) := by cbv
  have hreads := fourLayers_reads hread
    ⟨by simpa [Value.ofEntries] using ⟨⟨.sections, rfl⟩, ⟨.verbose, rfl⟩⟩,
      by simp [Mapping.KeysOnce, Value.ofEntries, Key.same]⟩
    (by simp [Value.ofEntries, Value.ofJson, Value.isMapping])
  have hreads' := fourLayers_reads hread'
    ⟨by simpa [Value.ofEntries] using ⟨.verbose, rfl⟩, by simp [Mapping.KeysOnce, Value.ofEntries]⟩
    (by simp [Value.ofEntries, Value.ofJson, Value.isMapping])
  have hload : ∃ settings,
      (fourLayers bogusFile).load.result = .ok settings ∧
        settings.sections = [.usage, .outputs] := by
    simp only [load, layered, fourLayers_fileMapping hread]
    exact ⟨_, rfl, rfl⟩
  obtain ⟨settings, hload, hsections⟩ := hload
  obtain ⟨-, hholds⟩ := (load_precedence hreads).1 settings hload
  have hsame := (load_precedence hreads).2 _ _ hreads'
    ⟨rfl, rfl, fun _ => rfl, fun _ _ => rfl, fun x _ hx => by cases x <;> first | rfl | cases hx⟩
  exact ⟨settings, hload, hsame ▸ hload, hsections, hholds .verbose, hholds .trigger, hholds .output,
    hholds .workers⟩

end Sources

end TemplateDocs.Settings
