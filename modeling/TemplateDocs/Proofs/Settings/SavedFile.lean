import TemplateDocs.Proofs.Files.Tree
import TemplateDocs.Proofs.Settings.SectionLists

/-! # Settings that were saved

Settings are saved in the notation that is asked for, and read in the one that the name of the file
stands for. They come back unless YAML was written to a file whose name does not say so: what is read as
JSON then is none. Of a library for YAML it is asked that it writes blocks, reads back what it wrote and
reads JSON as well.
-/

namespace TemplateDocs.Settings

open List

/-! ## Settings as a mapping -/

/-- Settings as a run needs them: two flags, names that are not blank and at least one worker. -/
structure WellFormed (c : Settings) : Prop where
  decorators : ∃ b, c.showAllDecorators = .bool b
  verbose : ∃ b, c.verbose = .bool b
  trigger : ∃ name, c.triggerFilename = .text name ∧ Text.strip name ≠ ""
  output : ∃ name, c.outputFilename = .text name ∧ Text.strip name ≠ ""
  workers : ∃ n : Int, c.maxWorkers = .int n ∧ 0 < n
  undamaged : c.damage = {}

/-- The value of a setting. -/
def valueOf (c : Settings) : Setting → Value
  | .sections => .list (c.sections.map fun x => .text x.identifier)
  | .decorators => c.showAllDecorators
  | .verbose => c.verbose
  | .trigger => c.triggerFilename
  | .output => c.outputFilename
  | .workers => c.maxWorkers

section Mapping

variable {c : Settings} {m m' : Mapping}

theorem mapping_eq (h : c.damage = {}) :
    c.mapping = Setting.entriesOf Setting.all fun x => some (c.valueOf x) := by
  rw [mapping, h]
  rfl

theorem onlySettings_mapping (h : c.damage = {}) : OnlySettings c.mapping :=
  mapping_eq h ▸ Setting.onlySettings_entriesOf (by decide) _

theorem valueIn_mapping (h : c.damage = {}) (x : Setting) :
    x.valueIn c.mapping = some (c.valueOf x) := by
  rw [mapping_eq h, Setting.valueIn_entriesOf, if_pos x.mem_all]

theorem onlySettings_iff :
    OnlySettings m ↔ (∀ e ∈ m, ∃ x : Setting, e.1 = x.key) ∧ (m.map Prod.fst).Nodup := by
  rw [List.Nodup, List.pairwise_map]
  constructor
  · refine fun h => ⟨h.named, h.once.imp_of_mem fun {e f} he hf hsame heq => ?_⟩
    obtain ⟨x, hx⟩ := h.named f hf
    rw [heq, hx, Setting.key, Key.same_text_iff.mpr rfl] at hsame
    cases hsame
  · refine fun h => ⟨h.1, h.2.imp_of_mem fun {e f} he hf hne => ?_⟩
    obtain ⟨x, hx⟩ := h.1 e he
    rw [hx] at hne
    rw [hx, Setting.key, Bool.eq_false_iff, ne_eq, Key.text_same_iff]
    exact fun heq => hne heq.symm

/-- The order of the entries makes no difference. -/
theorem OnlySettings.perm (h : OnlySettings m) (hp : m' ~ m) : OnlySettings m' := by
  obtain ⟨hnamed, hnodup⟩ := onlySettings_iff.mp h
  exact onlySettings_iff.mpr ⟨fun e he => hnamed e (hp.mem_iff.mp he), (hp.map _).nodup_iff.mpr hnodup⟩

theorem OnlySettings.valueIn_eq_some_iff (h : OnlySettings m) {x : Setting} {value : Value} :
    x.valueIn m = some value ↔ (x.key, value) ∈ m := by
  refine ⟨Key.find?_text_of_mem, fun hmem => ?_⟩
  induction m with
  | nil => cases hmem
  | cons e m ih =>
      obtain ⟨key, own⟩ := e
      obtain ⟨y, rfl⟩ := h.named _ List.mem_cons_self
      rw [Setting.valueIn_cons]
      rcases List.mem_cons.mp hmem with heq | htail
      · obtain ⟨hkey, rfl⟩ := Prod.mk.inj heq
        rw [if_pos (Setting.key_inj hkey.symm)]
      · have hfound := ih h.tail htail
        rw [if_neg, hfound]
        rintro rfl
        rw [h.valueIn_tail] at hfound
        cases hfound

theorem OnlySettings.valueIn_perm (h : OnlySettings m) (hp : m' ~ m) (x : Setting) :
    x.valueIn m' = x.valueIn m :=
  Option.ext fun value => by
    rw [(h.perm hp).valueIn_eq_some_iff, h.valueIn_eq_some_iff, hp.mem_iff]

end Mapping

/-! ## Saving -/

section Saving

variable {c : Settings} {files : Tree} {name : String}

theorem WellFormed.exists_eq (h : c.WellFormed) : ∃ sections decorators verbose trigger output workers,
    c = ⟨sections, .bool decorators, .bool verbose, .text trigger, .text output, .int workers, {}⟩ := by
  obtain ⟨b, hdecorators⟩ := h.decorators
  obtain ⟨b', hverbose⟩ := h.verbose
  obtain ⟨trigger, htrigger, -⟩ := h.trigger
  obtain ⟨output, houtput, -⟩ := h.output
  obtain ⟨n, hworkers, -⟩ := h.workers
  refine ⟨c.sections, b, b', trigger, output, n, ?_⟩
  rw [← hdecorators, ← hverbose, ← htrigger, ← houtput, ← hworkers, ← h.undamaged]

theorem toMapping_eq (h : c.WellFormed) : c.toMapping = .ok c.mapping := by
  obtain ⟨sections, decorators, verbose, trigger, output, workers, rfl⟩ := h.exists_eq
  rfl

/-- Where a file can be written and the settings have bytes, they are saved to it. -/
theorem exists_save (h : c.WellFormed) {yaml : YamlLibrary} {place : List String}
    (hplace : files.filePlace name = .ok place) {format : String} {bytes : ByteArray}
    (hbytes : fileBytes yaml (Text.lower format == "yaml") c.mapping = .ok bytes) :
    ∃ files', c.save yaml files name format = .ok files' ∧ files'.find name = .ok (.file bytes) := by
  have hneeds : c.needs "to_file" = .ok () := by
    obtain ⟨sections, decorators, verbose, trigger, output, workers, rfl⟩ := h.exists_eq
    rfl
  have hwrite : files.write name bytes = .ok (.plant (.file bytes) place files) :=
    Tree.write_eq_ok_iff.mpr ⟨place, hplace, rfl⟩
  refine ⟨_, ?_, Tree.find_of_write hwrite⟩
  simp only [save, hneeds, toMapping_eq h, hplace, hbytes, bind, Except.bind, Except.mapError, pure,
    Except.pure]

end Saving

/-! ## Loading -/

section Loading

variable {c : Settings} {file : Mapping}

/-- Only the file is asked. -/
def Sources.ofFile (yaml : YamlLibrary) (files : Tree) (processors : Option Int) (name : String) :
    Sources where
  yaml
  files
  processors
  file := some name
  useEnvironment := false

theorem WellFormed.not_isMapping (h : c.WellFormed) (x : Setting) : (c.valueOf x).isMapping = false := by
  obtain ⟨sections, decorators, verbose, trigger, output, workers, rfl⟩ := h.exists_eq
  cases x <;> rfl

theorem WellFormed.othersPass (h : c.WellFormed) : OthersPass fun x => some (c.valueOf x) := by
  obtain ⟨trigger, htrigger, htriggerBlank⟩ := h.trigger
  obtain ⟨output, houtput, houtputBlank⟩ := h.output
  obtain ⟨n, hworkers, hpos⟩ := h.workers
  constructor
  · rintro value ⟨⟩
    simp [valueOf, hworkers, checkWorkers, hpos]
  · rintro value ⟨⟩
    simp [valueOf, htrigger, checkFilename, htriggerBlank]
  · rintro value ⟨⟩
    simp [valueOf, houtput, checkFilename, houtputBlank]

theorem WellFormed.withValues_eq (h : c.WellFormed) (processors : Option Int) :
    withValues processors (Settings.default processors) (fun x => some (c.valueOf x)) c.sections =
      c := by
  obtain ⟨sections, decorators, verbose, trigger, output, workers, rfl⟩ := h.exists_eq
  rfl

/-- A file with the values of settings, in whatever order, gives these settings. -/
theorem load_of_perm (h : c.WellFormed) {yaml : YamlLibrary} {files : Tree} {processors : Option Int}
    {name : String} (hread : (Sources.ofFile yaml files processors name).fileMapping = .ok file)
    (hp : file ~ c.mapping) : (Sources.ofFile yaml files processors name).load.result = .ok c := by
  have honly := onlySettings_mapping h.undamaged
  have hchosen : (Sources.ofFile yaml files processors name).chosen file =
      fun x => some (c.valueOf x) := by
    funext x
    have hvalue := (honly.valueIn_perm hp x).trans (valueIn_mapping h.undamaged x)
    rw [Sources.chosen, hvalue]
    rfl
  have hplain : ∀ e ∈ file, e.2.isMapping = false := fun e he => by
    rw [hp.mem_iff, mapping_eq h.undamaged] at he
    obtain ⟨x, -, -, hvalue⟩ := Setting.mem_entriesOf he
    rw [← Option.some.inj hvalue]
    exact h.not_isMapping x
  have hwords : (Sources.ofFile yaml files processors name).HasWords file
      (c.sections.map Section.identifier) :=
    ⟨⟨hread, honly.perm hp, hplain, onlySettings_nil⟩, rfl, _, congrFun hchosen .sections,
      listsWords_identifiers _⟩
  rw [hwords.load_eq_ok_iff, hchosen]
  exact ⟨h.othersPass, c.sections, WordsName.map_identifier_iff.mpr rfl,
    (h.withValues_eq processors).symm⟩

end Loading

/-! ## What is asked of the notations -/

section Notations

variable {ε : Type} {m : Mapping} {text : String} {bytes : ByteArray}

/-- What was read is a mapping, up to the order of its entries. -/
def Gives (read : Except ε Value) (m : Mapping) : Prop :=
  ∃ m', read = .ok (.dict m') ∧ m' ~ m

/-- A text starts with the name of a setting and a colon, like a mapping in YAML that is written as a
block. -/
def InBlockStyle (text : String) : Prop :=
  ∃ (x : Setting) (rest : String), text = x.name ++ ":" ++ rest

/-- The readers undo the writers for a mapping: YAML is written as a block and read back, and JSON is read
back both as JSON and as YAML. -/
structure ReadsBack (yaml : YamlLibrary) (m : Mapping) : Prop where
  asYaml : ∃ text bytes, yaml.dump m = .ok text ∧ Text.encode? text = some bytes ∧ InBlockStyle text ∧
    Gives (yaml.load bytes) m
  asJson : ∃ text bytes, (Value.dict m).indented 0 = .ok text ∧ Text.encode? text = some bytes ∧
    Gives (jsonValue bytes) m ∧ Gives (yaml.load bytes) m

/-- No JSON starts like a mapping that is written as a block. -/
theorem InBlockStyle.read_eq (h : InBlockStyle text) : Json.read text = .error .malformed := by
  obtain ⟨x, rest, rfl⟩ := h
  have hcolon : ":".toList = [':'] := rfl
  rw [Json.read, Json.readWithin, String.toList_append, String.toList_append, hcolon]
  cases x <;> rfl

theorem InBlockStyle.jsonValue_eq (h : InBlockStyle text) (hbytes : Text.encode? text = some bytes) :
    jsonValue bytes = .error SettingsError.malformed.failure := by
  rw [Text.encode?_eq_some hbytes, jsonValue, Text.decode?_encode]
  simp only [h.read_eq]
  rfl

/-- A mapping that YAML has is the value of the file if it has entries. -/
theorem Gives.yamlValue {yaml : YamlLibrary} (h : Gives (yaml.load bytes) m) (hne : m ≠ []) :
    Gives (yamlValue yaml bytes) m := by
  obtain ⟨m', hload, hp⟩ := h
  have htruthy : (Value.dict m').truthy = true := by
    have hne' : m' ≠ [] := fun hnil => hne (hnil ▸ hp).symm.eq_nil
    simpa [Value.truthy] using hne'
  refine ⟨m', ?_, hp⟩
  simp only [Settings.yamlValue, hload, htruthy, if_true]

theorem fileBytes_eq {yaml : YamlLibrary} {asYaml : Bool} (htext : fileText yaml asYaml m = .ok text)
    (hbytes : Text.encode? text = some bytes) : fileBytes yaml asYaml m = .ok bytes := by
  simp only [fileBytes, htext, bind, Except.bind, hbytes]
  rfl

end Notations

/-! ## There and back -/

section Back

variable {c : Settings} {yaml : YamlLibrary} {files : Tree} {name : String} {place : List String}

/-- A file with bytes that give the mapping of settings gives the settings. -/
theorem load_of_gives (h : c.WellFormed) {bytes : ByteArray} (hname : name ≠ "")
    (hfind : files.find name = .ok (.file bytes)) (hgives : Gives (fileValue yaml name bytes) c.mapping)
    (processors : Option Int) : (Sources.ofFile yaml files processors name).load.result = .ok c := by
  obtain ⟨m', hvalue, hp⟩ := hgives
  exact load_of_perm h (Sources.fileMapping_of_find rfl hname hfind hvalue) hp

/-- Settings that are saved and read again come back, in each of the notations, unless YAML is written to
a file that is read as JSON; that file is rejected. -/
theorem saved_settings_come_back (h : c.WellFormed) (hback : ReadsBack yaml c.mapping)
    (hplace : files.filePlace name = .ok place) (format : String) (processors : Option Int) :
    ∃ files', c.save yaml files name format = .ok files' ∧
      (Sources.ofFile yaml files' processors name).load.result =
        if isYaml name = true ∨ Text.lower format ≠ "yaml" then .ok c
        else .error SettingsError.malformed.failure := by
  have hname : name ≠ "" := by
    rintro rfl
    cases (Tree.filePlace_eq_ok_iff.mp hplace).1
  have hne : c.mapping ≠ [] := by
    rw [mapping_eq h.undamaged]
    exact List.cons_ne_nil _ _
  have hformat : Text.lower format ≠ "yaml" ↔ (Text.lower format == "yaml") = false := by simp
  have hsave {bytes : ByteArray}
      (hbytes : fileBytes yaml (Text.lower format == "yaml") c.mapping = .ok bytes) :=
    exists_save h hplace hbytes
  simp only [hformat]
  generalize (Text.lower format == "yaml") = asYaml at hsave ⊢
  cases asYaml with
  | false =>
      obtain ⟨text, bytes, htext, hbytes, hjson, hyaml⟩ := hback.asJson
      obtain ⟨files', hsaved, hfind⟩ := hsave (fileBytes_eq htext hbytes)
      have hgives : Gives (fileValue yaml name bytes) c.mapping := by
        rw [fileValue]
        split
        · exact hyaml.yamlValue hne
        · exact hjson
      refine ⟨files', hsaved, ?_⟩
      simpa using load_of_gives h hname hfind hgives processors
  | true =>
      obtain ⟨text, bytes, htext, hbytes, hblock, hyaml⟩ := hback.asYaml
      obtain ⟨files', hsaved, hfind⟩ := hsave (fileBytes_eq htext hbytes)
      refine ⟨files', hsaved, ?_⟩
      cases hnotation : isYaml name with
      | true =>
          have hgives : Gives (fileValue yaml name bytes) c.mapping := by
            rw [fileValue, hnotation]
            exact hyaml.yamlValue hne
          simpa using load_of_gives h hname hfind hgives processors
      | false =>
          have hvalue : fileValue yaml name bytes = .error SettingsError.malformed.failure := by
            rw [fileValue, hnotation]
            exact hblock.jsonValue_eq hbytes
          simpa using Sources.load_of_fileValue_error rfl hname hfind hvalue

end Back

/-! Settings like those after a first change, with a name that needs quotes in YAML. -/

/-- One section, a flag that is set, three workers and a document with a colon in its name. -/
def quotedName : Settings where
  sections := [.usage]
  verbose := .bool true
  outputFilename := .text "a: b.md"
  maxWorkers := .int 3

/-- The settings as YAML. -/
def quotedNameYaml : String :=
  "max_workers: 3\noutput_filename: 'a: b.md'\nsections:\n- usage\nshow_all_decorators: false\n" ++
    "trigger_filename: main.bicep\nverbose: true\n"

/-- The settings as JSON. -/
def quotedNameJson : String :=
  "\x7b\n  \"sections\": [\n    \"usage\"\n  ],\n  \"show_all_decorators\": false,\n" ++
    "  \"verbose\": true,\n  \"trigger_filename\": \"main.bicep\",\n" ++
    "  \"output_filename\": \"a: b.md\",\n  \"max_workers\": 3\n\x7d"

/-- The settings in the order of their names. -/
def Setting.inOrder : List Setting :=
  [workers, output, sections, decorators, trigger, verbose]

/-- Whether one setting stands before another by name, or is the same. -/
def Setting.before (x y : Setting) : Bool :=
  !y.key.less x.key

theorem Setting.mergeSort_all : Setting.all.mergeSort Setting.before = Setting.inOrder := by
  have htrans : ∀ x ∈ all, ∀ y ∈ all, ∀ z ∈ all, before x y = true → before y z = true →
      before x z = true := by decide +kernel
  have htotal : ∀ x ∈ all, ∀ y ∈ all, (before x y || before y x) = true := by decide +kernel
  have hanti : ∀ x ∈ all, ∀ y ∈ all, before x y = true → before y x = true → x = y := by decide +kernel
  have hsorted : (all.mergeSort before).Pairwise fun x y => before x y = true :=
    List.pairwise_mergeSort (fun x y z => htrans x x.mem_all y y.mem_all z z.mem_all)
      (fun x y => htotal x x.mem_all y y.mem_all) all
  have hinOrder : inOrder.Pairwise fun x y => before x y = true := by decide +kernel
  have hperm : inOrder ~ all := by decide
  exact List.Perm.eq_of_pairwise (fun x y _ _ => hanti x x.mem_all y y.mem_all) hsorted hinOrder
    ((List.mergeSort_perm _ _).trans hperm.symm)

theorem sortEntries_mapping {c : Settings} (h : c.damage = {}) :
    Key.sortEntries c.mapping = Setting.inOrder.map fun x => (x.key, c.valueOf x) := by
  have hmapping : c.mapping = Setting.all.map fun x => (x.key, c.valueOf x) := by
    rw [mapping, h]
    rfl
  rw [hmapping, ← Setting.mergeSort_all]
  symm
  apply List.map_mergeSort
  exact fun _ _ _ _ => rfl

theorem withSortedKeys_quotedName : Yaml.withSortedKeys (.dict quotedName.mapping) =
    .dict (Setting.inOrder.map fun x => (x.key, quotedName.valueOf x)) := by
  have hentries : Yaml.entriesWithSortedKeys quotedName.mapping = quotedName.mapping := by rfl
  have hordered : Key.ordered (quotedName.mapping.map Prod.fst) = true := by rfl
  rw [Yaml.withSortedKeys, hentries, if_pos hordered, sortEntries_mapping rfl]

/-- The library reads the mapping that the nodes of a text stand for. -/
theorem load_of_nodes {text : String} (nodes : Array Yaml.Node) {entries : Mapping}
    (hnodes : (Yaml.Graph.ofSource (.ofString text)).toOption.map
      (Option.map fun g => (g.1.nodes, g.1.knotted, g.2)) = some (some (nodes, false, 0)))
    (hcells : (Yaml.Graph.cells ⟨nodes, false⟩ 0).map (fun cells => Yaml.Cells.value cells false 0) =
      .ok (.dict entries)) : Yaml.library.load (Text.encode text) = .ok (.dict entries) := by
  have hsource : Yaml.Source.ofBytes (Text.encode text) = .ofString text := by
    simp only [Yaml.Source.ofBytes, Yaml.decoded, Text.decode?_encode, Yaml.Source.ofString]
  have hgraph : Yaml.Graph.ofSource (.ofString text) = .ok (some (⟨nodes, false⟩, 0)) := by
    rcases hg : Yaml.Graph.ofSource (.ofString text) with e | _ | ⟨⟨found, knotted⟩, root⟩ <;>
      rw [hg] at hnodes
    · simp [Except.toOption] at hnodes
    · simp [Except.toOption] at hnodes
    · simp only [Except.toOption, Option.map_some, Option.some.injEq, Prod.mk.injEq] at hnodes
      obtain ⟨rfl, rfl, rfl⟩ := hnodes
      rfl
  have hread : Yaml.read (.ofString text) = .ok (.dict entries) := by
    simp only [Yaml.read, hgraph, bind, Except.bind]
    cases hc : Yaml.Graph.cells ⟨nodes, false⟩ 0 with
    | error e =>
        rw [hc] at hcells
        simp [Except.map] at hcells
    | ok cells =>
        rw [hc] at hcells
        simp only [Except.map] at hcells
        exact hcells
  simp only [Yaml.library, hsource, hread, Except.mapError]

theorem wellFormed_quotedName : quotedName.WellFormed where
  decorators := ⟨false, rfl⟩
  verbose := ⟨true, rfl⟩
  trigger := ⟨_, rfl, by decide⟩
  output := ⟨_, rfl, by decide⟩
  workers := ⟨3, rfl, by decide⟩
  undamaged := rfl

theorem dump_quotedName : Yaml.library.dump quotedName.mapping = .ok quotedNameYaml := by
  have hwrite : Yaml.write quotedName.mapping = quotedNameYaml := by
    rw [Yaml.write, withSortedKeys_quotedName]
    decide +kernel
  simp only [Yaml.library, hwrite]

theorem read_quotedNameJson : Json.read quotedNameJson = .ok (.object [
    ("sections", .array [.text "usage"]), ("show_all_decorators", .bool false),
    ("verbose", .bool true), ("trigger_filename", .text "main.bicep"),
    ("output_filename", .text "a: b.md"), ("max_workers", .int 3)]) := by cbv

theorem readsBack_quotedName : ReadsBack Yaml.library quotedName.mapping where
  asYaml := by
    have hblock : InBlockStyle quotedNameYaml :=
      ⟨.workers, (quotedNameYaml.drop 12).toString, by decide +kernel⟩
    have hbytes := Text.encode?_of_not_hasHalf (s := quotedNameYaml) (by decide +kernel)
    refine ⟨quotedNameYaml, Text.encode quotedNameYaml, dump_quotedName, hbytes, hblock,
      Setting.inOrder.map fun x => (x.key, quotedName.valueOf x), ?_, ?_⟩
    · exact load_of_nodes #[
        .mapping .mapping #[(1, 2), (3, 4), (5, 6), (8, 9), (10, 11), (12, 13)],
        .scalar .text "max_workers", .scalar .int "3", .scalar .text "output_filename",
        .scalar .text "a: b.md", .scalar .text "sections", .sequence .sequence #[7],
        .scalar .text "usage", .scalar .text "show_all_decorators", .scalar .bool "false",
        .scalar .text "trigger_filename", .scalar .text "main.bicep", .scalar .text "verbose",
        .scalar .bool "true"] (by decide +kernel) (by rfl)
    · rw [← sortEntries_mapping rfl]
      exact List.mergeSort_perm _ _
  asJson := by
    have hjson : jsonValue (Text.encode quotedNameJson) = .ok (.dict quotedName.mapping) := by
      rw [jsonValue, Text.decode?_encode]
      simp only [read_quotedNameJson]
      rfl
    have hbytes := Text.encode?_of_not_hasHalf (s := quotedNameJson) (by decide +kernel)
    refine ⟨quotedNameJson, Text.encode quotedNameJson, by decide +kernel, hbytes,
      ⟨_, hjson, .refl _⟩, quotedName.mapping, ?_, .refl _⟩
    exact load_of_nodes #[
      .mapping .mapping #[(1, 2), (4, 5), (6, 7), (8, 9), (10, 11), (12, 13)],
      .scalar .text "sections", .sequence .sequence #[3], .scalar .text "usage",
      .scalar .text "show_all_decorators", .scalar .bool "false", .scalar .text "verbose",
      .scalar .bool "true", .scalar .text "trigger_filename", .scalar .text "main.bicep",
      .scalar .text "output_filename", .scalar .text "a: b.md", .scalar .text "max_workers",
      .scalar .int "3"] (by decide +kernel) (by rfl)

/-- They come back from YAML and from JSON, also from JSON in a file that is read as YAML. -/
theorem saved_settings_come_back_quotedName :
    (∃ files', quotedName.save Yaml.library .empty "saved.yml" "YAML" = .ok files' ∧
      (Sources.ofFile Yaml.library files' none "saved.yml").load.result = .ok quotedName) ∧
    (∃ files', quotedName.save Yaml.library .empty "saved.json" "json" = .ok files' ∧
      (Sources.ofFile Yaml.library files' none "saved.json").load.result = .ok quotedName) ∧
    ∃ files', quotedName.save Yaml.library .empty "saved.yml" "json" = .ok files' ∧
      (Sources.ofFile Yaml.library files' none "saved.yml").load.result = .ok quotedName := by
  have hyaml : isYaml "saved.yml" = true := by decide +kernel
  have hformat : Text.lower "json" ≠ "yaml" := by decide +kernel
  have hback {name : String} (hplace : Tree.empty.filePlace name = .ok [name]) :=
    saved_settings_come_back wellFormed_quotedName readsBack_quotedName hplace
  have hplace : Tree.empty.filePlace "saved.yml" = .ok ["saved.yml"] := by rfl
  have hplace' : Tree.empty.filePlace "saved.json" = .ok ["saved.json"] := by rfl
  refine ⟨?_, ?_, ?_⟩
  · simpa only [hyaml, true_or, if_true] using hback hplace "YAML" none
  · simpa only [hformat, ne_eq, not_false_eq_true, or_true, if_true] using hback hplace' "json" none
  · simpa only [hyaml, true_or, if_true] using hback hplace "json" none

/-- YAML in a file with another name is rejected. -/
theorem yaml_rejected_as_json :
    quotedName.WellFormed ∧ ReadsBack Yaml.library quotedName.mapping ∧
      Tree.empty.filePlace "saved.json" = .ok ["saved.json"] ∧
      ∃ files', quotedName.save Yaml.library .empty "saved.json" "yaml" = .ok files' ∧
        (Sources.ofFile Yaml.library files' none "saved.json").load.result =
          .error SettingsError.malformed.failure := by
  have hplace : Tree.empty.filePlace "saved.json" = .ok ["saved.json"] := by rfl
  have hjson : isYaml "saved.json" = false := by decide +kernel
  have hformat : (Text.lower "yaml" == "yaml") = true := by decide +kernel
  obtain ⟨text, bytes, htext, hbytes, hblock, -⟩ := readsBack_quotedName.asYaml
  have hsaved : fileBytes Yaml.library (Text.lower "yaml" == "yaml") quotedName.mapping = .ok bytes :=
    hformat ▸ fileBytes_eq htext hbytes
  obtain ⟨files', hsave, hfind⟩ := exists_save wellFormed_quotedName hplace hsaved
  have hvalue : fileValue Yaml.library "saved.json" bytes = .error SettingsError.malformed.failure := by
    rw [fileValue, hjson]
    exact hblock.jsonValue_eq hbytes
  exact ⟨wellFormed_quotedName, readsBack_quotedName, hplace, files', hsave,
    Sources.load_of_fileValue_error rfl (by decide) hfind hvalue⟩

end TemplateDocs.Settings
