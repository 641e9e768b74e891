import TemplateDocs.Proofs.Settings.Validation

/-! # Keys that are no settings

A mapping may have other keys than the settings. They are passed over with a warning each, exactly if
they are texts and settings have nothing of their name. Otherwise they pass for known: some change what
settings can be used for, and some cannot be set at all.
-/

namespace TemplateDocs.Settings

open List

/-! ## Settings and other entries -/

/-- Whether a key is a setting. -/
def isSettingKey (key : Key) : Bool :=
  Setting.all.any fun x => decide (key = x.key)

/-- The settings in a mapping. -/
def settingsIn (m : Mapping) : Mapping :=
  m.filter fun e => isSettingKey e.1

/-- The other entries of a mapping. -/
def othersIn (m : Mapping) : Mapping :=
  m.filter fun e => !isSettingKey e.1

/-- What settings have by name besides the settings. -/
def attributeNames : List String :=
  operations ++ reservedNames ++ [fieldsName, allName] ++ fixedNames.map Prod.fst

/-- A text that is the name of nothing that settings have. -/
def IsUnknown (key : Key) : Prop :=
  ∃ name, key = .text name ∧ name ∉ attributeNames

theorem isSettingKey_iff {key : Key} : isSettingKey key = true ↔ ∃ x : Setting, key = x.key := by
  unfold isSettingKey
  rw [List.any_eq_true]
  exact ⟨fun ⟨x, _, hx⟩ => ⟨x, of_decide_eq_true hx⟩, fun ⟨x, hx⟩ => ⟨x, x.mem_all, decide_eq_true hx⟩⟩

theorem onlySettings_settingsIn {m : Mapping} (h : m.KeysOnce) : OnlySettings (settingsIn m) :=
  ⟨fun _ he => isSettingKey_iff.mp (List.mem_filter.mp he).2, h.filter _⟩

theorem valueIn_settingsIn (m : Mapping) (x : Setting) : x.valueIn (settingsIn m) = x.valueIn m :=
  Key.find?_text_filter fun _ => isSettingKey_iff.mpr ⟨x, rfl⟩

theorem validate_settingsIn (m : Mapping) : validate (settingsIn m) = validate m :=
  validate_congr (valueIn_settingsIn m)

/-! ## One entry at a time -/

section Steps

variable {processors : Option Int} {s s' : Settings} {m : Mapping}

/-- No more than the sections and the workers are lost. -/
def LosesFew (s : Settings) : Prop :=
  ∀ name ∈ s.damage.lost, name = "sections" ∨ name = "max_workers"

/-- A step that tells of no name that settings have, and after which no more than the sections and the
workers are lost. -/
structure TellsUnknown (o : Outcome Settings) : Prop where
  warnings : ∀ w ∈ o.warnings, ∃ name, w = .unknownSetting name ∧ name ∉ attributeNames
  losesFew : ∀ s', o.result = .ok s' → s'.LosesFew

theorem TellsUnknown.pure (h : s.LosesFew) : TellsUnknown (Pure.pure s) := by
  refine ⟨fun w hw => (by cases hw), fun s' hs' => ?_⟩
  cases hs'
  exact h

theorem TellsUnknown.fail (e : Failure) : TellsUnknown (Outcome.fail e) :=
  ⟨fun w hw => (by cases hw), fun s' hs' => (by cases hs')⟩

theorem TellsUnknown.warnUnknown (h : s.LosesFew) {name : String} (hname : name ∉ attributeNames) :
    TellsUnknown (s.warnUnknown name) := by
  refine ⟨fun w hw => ⟨name, ?_, hname⟩, fun s' hs' => ?_⟩
  · simpa [Settings.warnUnknown, Outcome.warn, bind, Outcome.andThen, Pure.pure] using hw
  · cases hs'
    exact h

theorem TellsUnknown.setSections (h : s.LosesFew) (value : Value) :
    TellsUnknown (s.setSections value) := by
  unfold Settings.setSections
  split
  · exact .fail _
  · rename_i words _
    refine ⟨fun w hw => (by cases hw), fun s' hs' => ?_⟩
    cases hsections : sectionsOf words with
    | error e =>
        simp only [Outcome.ofExcept, hsections] at hs'
        cases hs'
    | ok sections =>
        simp only [Outcome.ofExcept, hsections] at hs'
        cases hs'
        exact h

theorem lost_hide (d : Damage) (name : String) (value : Value) : (d.hide name value).lost = d.lost := by
  unfold Damage.hide
  split
  · rfl
  · split
    · split <;> rfl
    · rfl

theorem losesFew_replaceAll (entries : Mapping) : (replaceAll processors entries).LosesFew := by
  intro name hname
  have hlost := List.mem_of_mem_filter hname
  simpa using hlost

theorem lookup_fixedNames_eq_none_iff {name : String} :
    fixedNames.lookup name = none ↔ name ∉ fixedNames.map Prod.fst := by
  rw [List.lookup_eq_none_iff]
  simp only [fixedNames, List.mem_cons, List.not_mem_nil, or_false, forall_eq_or_imp, forall_eq,
    bne_iff_ne, List.map_cons, List.map_nil, not_or, ne_eq]

theorem not_mem_attributeNames {name : String} (hall : name ≠ allName)
    (hfixed : fixedNames.lookup name = none)
    (hhidden : (operations.contains name || name == fieldsName) = false)
    (hreserved : reservedNames.contains name = false) : name ∉ attributeNames := by
  rw [Bool.or_eq_false_iff] at hhidden
  simp only [attributeNames, List.mem_append, List.mem_cons, List.not_mem_nil, or_false, not_or]
  refine ⟨⟨⟨?_, ?_⟩, ?_, hall⟩, lookup_fixedNames_eq_none_iff.mp hfixed⟩
  · simpa using hhidden.1
  · simpa using hreserved
  · simpa using hhidden.2

theorem TellsUnknown.setOther (h : s.LosesFew) (name : String) (value : Value) :
    TellsUnknown (s.setOther processors name value) := by
  unfold Settings.setOther
  split
  · split
    · exact .pure (losesFew_replaceAll _)
    · exact .fail _
  · rename_i hall
    split
    · exact .fail _
    · rename_i hfixed
      split
      · refine .pure ?_
        intro name' hname'
        rw [lost_hide] at hname'
        exact h name' hname'
      · rename_i hhidden
        split
        · exact .pure h
        · rename_i hreserved
          rw [Bool.not_eq_true, Bool.or_eq_false_iff] at hreserved
          exact .warnUnknown h (not_mem_attributeNames (by simpa using hall) hfixed
            (by simpa using hhidden) hreserved.1)

/-- One entry tells of nothing that settings have. -/
theorem TellsUnknown.set (h : s.LosesFew) (key : Key) (value : Value) :
    TellsUnknown (s.set processors key value) := by
  unfold Settings.set
  split
  · rename_i name
    unfold Settings.setNamed
    split
    · rename_i hlost
      refine .warnUnknown h ?_
      rcases h name (by simpa using hlost) with rfl | rfl <;> decide
    · split
      · exact .setSections h value
      all_goals first | exact .pure h | exact .setOther h _ value
  · exact .fail _

theorem TellsUnknown.bind {o : Outcome Settings} {next : Settings → Outcome Settings}
    (h : TellsUnknown o) (hnext : ∀ s : Settings, s.LosesFew → TellsUnknown (next s)) :
    TellsUnknown (o >>= next) := by
  obtain ⟨warnings, e | s⟩ := o
  · exact ⟨h.warnings, fun s' hs' => (by cases hs')⟩
  · have hafter := hnext s (h.losesFew s rfl)
    refine ⟨fun w hw => ?_, hafter.losesFew⟩
    rcases List.mem_append.mp hw with hw | hw
    · exact h.warnings w hw
    · exact hafter.warnings w hw

/-- A whole mapping tells of nothing that settings have. -/
theorem TellsUnknown.readOnto (processors : Option Int) (h : s.LosesFew) (m : Mapping) :
    TellsUnknown (Settings.readOnto processors s m) := by
  induction m generalizing s with
  | nil => exact .pure h
  | cons e m ih =>
      rw [readOnto_cons]
      exact (TellsUnknown.set h e.1 e.2).bind fun s' hs' => ih hs'

/-- A mapping with a key that is no text cannot be read. -/
theorem isText_of_readOnto (h : (readOnto processors s m).result = .ok s') :
    ∀ e ∈ m, ∃ name, e.1 = .text name := by
  induction m generalizing s with
  | nil => simp
  | cons e m ih =>
      rw [readOnto_cons, Outcome.bind_result] at h
      obtain ⟨next, hnext, hrest⟩ := bind_eq_ok_iff.mp h
      intro f hf
      rcases List.mem_cons.mp hf with rfl | hf
      · unfold Settings.set at hnext
        split at hnext
        · rename_i name hkey
          exact ⟨name, hkey⟩
        · cases hnext
      · exact ih hrest f hf

/-- A text that nothing is known by is told and has no effect. -/
theorem set_unknown (hs : s.damage = {}) {name : String} (hsetting : isSettingKey (.text name) = false)
    (hname : name ∉ attributeNames) (value : Value) :
    s.set processors (.text name) value = { warnings := [.unknownSetting name], result := .ok s } := by
  simp only [attributeNames, List.mem_append, List.mem_cons, List.not_mem_nil, or_false, not_or] at hname
  obtain ⟨⟨⟨hoperation, hreserved⟩, hfields, hall⟩, hfixed⟩ := hname
  have hlookup := lookup_fixedNames_eq_none_iff.mpr hfixed
  have hother : s.setOther processors name value = s.warnUnknown name := by
    simp [setOther, hall, hlookup, hoperation, hfields, hreserved, hs]
  have hset : s.set processors (.text name) value = s.setOther processors name value := by
    simp only [set, setNamed, hs]
    split
    · rename_i hlost
      cases hlost
    · split <;> first | rfl | cases hsetting
  rw [hset, hother]
  rfl

/-- A setting is told of by no warning, and no damage comes from it. -/
theorem set_setting (processors : Option Int) (hs : s.damage = {}) (x : Setting) (value : Value) :
    (s.set processors x.key value).warnings = [] ∧
      ∀ s', (s.set processors x.key value).result = .ok s' → s'.damage = {} := by
  by_cases hx : x = .sections
  · subst hx
    rw [set_sections hs]
    refine ⟨rfl, fun s' hs' => ?_⟩
    cases hsections : sectionsGiven value with
    | error e =>
        rw [hsections] at hs'
        cases hs'
    | ok sections =>
        rw [hsections] at hs'
        cases hs'
        exact hs
  · rw [set_other hs hx]
    refine ⟨rfl, fun s' hs' => ?_⟩
    cases hs'
    exact hs

/-- Where all other keys are unknown, reading goes on as without them: the induction is on the entries,
over settings without damage. -/
theorem readOnto_unknown (processors : Option Int) (hm : ∀ e ∈ othersIn m, IsUnknown e.1)
    (hs : s.damage = {}) :
    (readOnto processors s m).result = (readOnto processors s (settingsIn m)).result ∧
    ∀ s', (readOnto processors s m).result = .ok s' → (readOnto processors s m).warnings =
      (othersIn m).map fun e => .unknownSetting (e.1.display.toOption.getD "") := by
  induction m generalizing s with
  | nil => exact ⟨rfl, fun _ _ => rfl⟩
  | cons e m ih =>
      obtain ⟨key, value⟩ := e
      cases hkey : isSettingKey key with
      | false =>
          have hothers : othersIn ((key, value) :: m) = (key, value) :: othersIn m := by
            simp [othersIn, hkey]
          have hsettings : settingsIn ((key, value) :: m) = settingsIn m := by simp [settingsIn, hkey]
          rw [hothers] at hm ⊢
          obtain ⟨name, rfl, hname⟩ := hm (key, value) List.mem_cons_self
          obtain ⟨hresult, hwarnings⟩ := ih (fun e he => hm e (List.mem_cons_of_mem _ he)) hs
          rw [hsettings, readOnto_cons, set_unknown hs hkey hname]
          refine ⟨hresult, fun s' hs' => ?_⟩
          exact congrArg (List.cons (Warning.unknownSetting name)) (hwarnings s' hs')
      | true =>
          have hothers : othersIn ((key, value) :: m) = othersIn m := by simp [othersIn, hkey]
          have hsettings : settingsIn ((key, value) :: m) = (key, value) :: settingsIn m := by
            simp [settingsIn, hkey]
          rw [hothers] at hm ⊢
          obtain ⟨x, rfl⟩ := isSettingKey_iff.mp hkey
          obtain ⟨hquiet, hundamaged⟩ := set_setting processors hs x value
          rw [hsettings, readOnto_cons, readOnto_cons]
          generalize s.set processors x.key value = o at hquiet hundamaged ⊢
          obtain ⟨warnings, e | next⟩ := o
          · exact ⟨rfl, fun s' hs' => (by cases hs')⟩
          · cases hquiet
            exact ih hm (hundamaged next rfl)

end Steps

/-! ## Whole mappings -/

/-- Checks a mapping and reads it. -/
def checked (processors : Option Int) (m : Mapping) : Outcome Settings := do
  .ofExcept ((validate m).mapError Invalid.failure)
  ofMapping processors m

/-- The same failure, or the same values that are also shown as the same mapping. -/
inductive SameSettings : Except Failure Settings → Except Failure Settings → Prop where
  | failed (e : Failure) : SameSettings (.error e) (.error e)
  | done {s t : Settings} (values : { s with damage := {} } = { t with damage := {} })
      (mapping : s.toMapping = t.toMapping) : SameSettings (.ok s) (.ok t)

/-- Entries that are no settings have no effect: without them the outcome is the same, and if the mapping
is read at all there is exactly one warning for each of them. -/
structure IgnoresOthers (processors : Option Int) (m : Mapping) : Prop where
  same : SameSettings (checked processors m).result (checked processors (settingsIn m)).result
  told : validate m = .ok () → (checked processors m).warnings =
    (othersIn m).map fun e => .unknownSetting (e.1.display.toOption.getD "")

section Whole

variable {processors : Option Int} {m : Mapping}

theorem SameSettings.refl (r : Except Failure Settings) : SameSettings r r := by
  cases r with
  | error e => exact .failed e
  | ok s => exact .done rfl rfl

theorem checked_of_valid (h : validate m = .ok ()) : checked processors m = ofMapping processors m := by
  unfold checked
  rw [h]
  rfl

theorem checked_of_invalid {e : Invalid} (h : validate m = .error e) :
    checked processors m = .fail e.failure := by
  unfold checked
  rw [h]
  rfl

/-- A mapping that does not pass the check is not read. -/
theorem ignoresOthers_of_invalid (h : validate m ≠ .ok ()) : IgnoresOthers processors m := by
  cases hcheck : validate m with
  | ok _ => exact absurd hcheck h
  | error e =>
      have hcheck' : validate (settingsIn m) = .error e := (validate_settingsIn m).trans hcheck
      refine ⟨?_, fun hvalid => absurd hvalid h⟩
      rw [checked_of_invalid hcheck, checked_of_invalid hcheck']
      exact .refl _

/-- Unknown keys have no effect on a mapping that passes the check. -/
theorem ignoresOthers_of_unknown (honce : m.KeysOnce) (h : validate m = .ok ())
    (hothers : ∀ e ∈ othersIn m, IsUnknown e.1) : IgnoresOthers processors m := by
  have h' : validate (settingsIn m) = .ok () := (validate_settingsIn m).trans h
  obtain ⟨settings, hread, -⟩ := exists_ofMapping processors (onlySettings_settingsIn honce) h'
  obtain ⟨hresult, hwarnings⟩ :=
    readOnto_unknown processors (s := Settings.default processors) hothers rfl
  rw [← ofMapping_eq_readOnto, ← ofMapping_eq_readOnto] at hresult
  refine ⟨?_, fun _ => ?_⟩
  · rw [checked_of_valid h, checked_of_valid h', hresult]
    exact .refl _
  · rw [checked_of_valid h]
    exact hwarnings settings (by rw [← ofMapping_eq_readOnto, hresult, hread]; rfl)

/-- If other keys have no effect on a mapping that passes the check, they are unknown. -/
theorem unknown_of_ignoresOthers (honce : m.KeysOnce) (h : validate m = .ok ())
    (hignores : IgnoresOthers processors m) : ∀ e ∈ othersIn m, IsUnknown e.1 := by
  have h' : validate (settingsIn m) = .ok () := (validate_settingsIn m).trans h
  obtain ⟨settings, hread, -⟩ := exists_ofMapping processors (onlySettings_settingsIn honce) h'
  have hsame := hignores.same
  have htold := hignores.told h
  rw [checked_of_valid h, checked_of_valid h', hread] at hsame
  rw [checked_of_valid h] at htold
  obtain ⟨s, hs⟩ : ∃ s, (ofMapping processors m).result = .ok s := by
    generalize (ofMapping processors m).result = r at hsame
    cases hsame
    exact ⟨_, rfl⟩
  have hfew : (Settings.default processors).LosesFew := fun name hname => by cases hname
  have hunknown := (TellsUnknown.readOnto processors hfew m).warnings
  intro e he
  obtain ⟨name, hkey⟩ := isText_of_readOnto hs e (List.mem_of_mem_filter he)
  have hmem : Warning.unknownSetting name ∈ (ofMapping processors m).warnings := by
    rw [htold]
    exact List.mem_map.mpr ⟨e, he, by rw [hkey]; rfl⟩
  obtain ⟨other, hother, hnot⟩ := hunknown _ hmem
  cases hother
  exact ⟨name, hkey, hnot⟩

end Whole

/-- Other keys have no effect exactly if the mapping does not pass the check, or if all of them are texts
by which settings have nothing. -/
theorem ignoresOthers_iff {m : Mapping} (honce : m.KeysOnce) (processors : Option Int) :
    IgnoresOthers processors m ↔
      (validate m ≠ .ok () ∨ ∀ e ∈ othersIn m, IsUnknown e.1) := by
  by_cases h : validate m = .ok ()
  · constructor
    · exact fun hignores => .inr (unknown_of_ignoresOthers honce h hignores)
    · rintro (hinvalid | hothers)
      · exact absurd h hinvalid
      · exact ignoresOthers_of_unknown honce h hothers
  · exact iff_of_true (ignoresOthers_of_invalid h) (.inl h)

/-- Two unknown keys around a setting have no effect, the name of an operation has one. -/
theorem ignoresOthers_iff_colour :
    IgnoresOthers none
        [(.text "colour", .null), (.text "sections", .text "usage"), (.text "Sections", .int 1)] ∧
      ¬ IgnoresOthers none [(.text "to_dict", .int 1)] := by
  constructor
  · refine (ignoresOthers_iff (by simp [Mapping.KeysOnce, Key.same]) none).mpr (.inr ?_)
    have hothers : othersIn
        [(.text "colour", .null), (.text "sections", .text "usage"), (.text "Sections", .int 1)] =
        [(.text "colour", .null), (.text "Sections", .int 1)] := rfl
    rw [hothers]
    simp only [List.mem_cons, List.not_mem_nil, or_false, forall_eq_or_imp, forall_eq]
    exact ⟨⟨"colour", rfl, by decide⟩, ⟨"Sections", rfl, by decide⟩⟩
  · rw [ignoresOthers_iff (by simp [Mapping.KeysOnce]) none]
    rintro (hinvalid | hothers)
    · exact hinvalid rfl
    · obtain ⟨name, hname, hnot⟩ := hothers (.text "to_dict", .int 1) List.mem_cons_self
      cases hname
      exact hnot (by decide)

/-- Keys that are no settings and still pass for known: one is not told of, with another one the settings
cannot be shown as a mapping any more, and a key that is no text is refused. -/
theorem others_not_ignored :
    (checked none [(.text "default", .int 1)]).warnings = [] ∧
    (∃ s, (checked none [(.text "to_dict", .int 1)]).result = .ok s ∧
      s.toMapping = .error (.fault .wrongKind)) ∧
    (checked none [(.int 1, .text "x")]).result = .error (.fault .wrongKind) :=
  ⟨rfl, ⟨_, rfl, rfl⟩, rfl⟩

end TemplateDocs.Settings
