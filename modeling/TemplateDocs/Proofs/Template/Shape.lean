import TemplateDocs.Proofs.Json.Reader
import TemplateDocs.Proofs.Template.Decode

/-! # Which documents are decoded

The shape of a compiled template, said field by field, and the proof that decoding asks for this shape
and besides only for labels that can be shown, which those of documents within the limits of the reader
always can. A key that is missing reads as null, so `OrNull` covers both.
-/

namespace TemplateDocs.Json

/-! ## Kinds -/

def IsObject (v : Json) : Prop :=
  ∃ entries, v = .object entries

def IsArray (v : Json) : Prop :=
  ∃ items, v = .array items

def IsText (v : Json) : Prop :=
  ∃ s, v = .text s

def IsInt (v : Json) : Prop :=
  ∃ n, v = .int n

def IsBool (v : Json) : Prop :=
  ∃ b, v = .bool b

/-- Missing, null, or as `p` asks. -/
def OrNull (p : Json → Prop) (v : Json) : Prop :=
  v = .null ∨ p v

/-- An object all of whose values are as `p` asks. -/
def ObjectOf (p : Json → Prop) (v : Json) : Prop :=
  ∃ entries, v = .object entries ∧ ∀ e ∈ entries, p e.2

/-- An array all of whose items are as `p` asks. -/
def ArrayOf (p : Json → Prop) (v : Json) : Prop :=
  ∃ items, v = .array items ∧ ∀ x ∈ items, p x

/-! ## Shapes -/

/-- A type is given by a reference or by name, or not at all. -/
def IsTyped (v : Json) : Prop :=
  IsText (v.get "$ref") ∨ IsText (v.get "type") ∨ (v.get "$ref" = .null ∧ v.get "type" = .null)

/-- The keys of the four bounds. -/
def boundKeys : List String :=
  ["minLength", "maxLength", "minValue", "maxValue"]

/-- What defines a parameter, an output or a property. -/
structure IsDefinition (v : Json) : Prop where
  object : IsObject v
  typed : IsTyped v
  items : OrNull (fun i => IsBool i ∨ (IsObject i ∧ IsTyped i)) (v.get "items")
  allowedValues : OrNull IsArray (v.get "allowedValues")
  bounds : ∀ key ∈ boundKeys, OrNull IsInt (v.get key)
  metadata : OrNull IsObject (v.get "metadata")

/-- What defines a data type: it may list properties besides. -/
structure IsDataType (v : Json) : Prop where
  definition : IsDefinition v
  properties : OrNull (ObjectOf IsDefinition) (v.get "properties")

/-- A loop that makes variables has a name. -/
structure IsLoop (v : Json) : Prop where
  object : IsObject v
  name : IsText (v.get "name")

/-- Variables have any values, but a list under the key `copy` holds loops. -/
def IsVariables (v : Json) : Prop :=
  ∃ entries, v = .object entries ∧ ∀ loops, ("copy", .array loops) ∈ entries → ∀ l ∈ loops, IsLoop l

structure IsFunction (v : Json) : Prop where
  object : IsObject v
  parameters : (v.get "parameters").truthy = false ∨ ArrayOf IsDefinition (v.get "parameters")
  output : OrNull IsDefinition (v.get "output")
  metadata : OrNull IsObject (v.get "metadata")

structure IsNamespace (v : Json) : Prop where
  object : IsObject v
  members : OrNull (ObjectOf IsFunction) (v.get "members")

/-- A compiled template. -/
structure IsTemplate (v : Json) : Prop where
  object : IsObject v
  parameters : OrNull (ObjectOf IsDefinition) (v.get "parameters")
  definitions : OrNull (ObjectOf IsDataType) (v.get "definitions")
  vars : OrNull IsVariables (v.get "variables")
  outputs : OrNull (ObjectOf IsDefinition) (v.get "outputs")
  functions : OrNull (ArrayOf IsNamespace) (v.get "functions")
  metadata : OrNull IsObject (v.get "metadata")

/-! ## Labels -/

/-- The labels of a function's parameters can be shown. -/
def ArgumentsShown (v : Json) : Prop :=
  ∀ argument ∈ v.itemsAt "parameters", (argument.get "name").InLimits

/-- The label of a namespace can be shown, which is done for every member, and so can those of the members'
parameters. -/
def MembersShown (v : Json) : Prop :=
  ∀ e ∈ v.entriesAt "members", (v.get "namespace").InLimits ∧ e.2.ArgumentsShown

/-- All labels that the names of fields are made with can be shown. -/
def LabelsShown (v : Json) : Prop :=
  ∀ space ∈ v.itemsAt "functions", space.MembersShown

theorem InLimits.labelsShown {v : Json} (h : v.InLimits) : v.LabelsShown := by
  intro space hspace e he
  have hlimits := h.itemsAt "functions" space hspace
  refine ⟨hlimits.get "namespace", fun argument hargument => ?_⟩
  exact ((hlimits.entriesAt "members" e he).itemsAt "parameters" argument hargument).get "name"

/-- What counts as no can always be shown. -/
theorem inLimits_of_not_truthy {v : Json} (h : v.truthy = false) : v.InLimits := by
  cases v with
  | int n =>
      have hzero : n = 0 := by simpa [truthy] using h
      subst hzero
      exact ⟨by decide, by decide⟩
  | array items =>
      have hempty : items = [] := by simpa [truthy] using h
      subst hempty
      exact ⟨by decide, by decide⟩
  | object entries =>
      have hempty : entries = [] := by simpa [truthy] using h
      subst hempty
      exact ⟨by decide, by decide⟩
  | _ => exact ⟨Nat.zero_le _, Nat.zero_le _⟩

theorem get_object (entries : List (String × Json)) (key : String) :
    (Json.object entries).get key = Decode.field entries key :=
  rfl

theorem orNull_of_ne_null {p : Json → Prop} {v : Json} (h : v ≠ .null) : OrNull p v ↔ p v :=
  or_iff_right h

end TemplateDocs.Json

namespace TemplateDocs.Decode

open Json

/-! ## Checks -/

/-- The computation succeeds exactly if `p` holds and what it has to show can be shown. Otherwise it names a
field at fault, or it ends at something that cannot be shown. -/
structure ChecksShown {α : Type} (x : Except DecodeError α) (p shown : Prop) : Prop where
  accepts : p → shown → ∃ a, x = .ok a
  refuses : ¬ (p ∧ shown) → (∃ field problem, x = .error (.malformed field problem)) ∨
    (¬ shown ∧ ∃ fault, x = .error (.unshown fault))

section ChecksShown

variable {α β : Type} {x : Except DecodeError α} {p q shown shown' : Prop}

theorem ChecksShown.ok (a : α) (hp : p) (hshown : shown) : ChecksShown (.ok a) p shown :=
  ⟨fun _ _ => ⟨a, rfl⟩, fun h => absurd ⟨hp, hshown⟩ h⟩

theorem ChecksShown.malformed {field : String} {problem : Problem} (hp : ¬ p) :
    ChecksShown (.error (.malformed field problem) : Except DecodeError α) p shown :=
  ⟨fun h => absurd h hp, fun _ => .inl ⟨field, problem, rfl⟩⟩

theorem ChecksShown.of_ok {a : α} (h : ChecksShown x p shown) (hx : x = .ok a) : p ∧ shown := by
  by_contra hnot
  rcases h.refuses hnot with ⟨field, problem, he⟩ | ⟨-, fault, he⟩
  · rw [hx] at he
    cases he
  · rw [hx] at he
    cases he

theorem ChecksShown.congr (h : ChecksShown x p shown) (hp : p ↔ q) (hshown : shown ↔ shown') :
    ChecksShown x q shown' := by
  rwa [← propext hp, ← propext hshown]

theorem ChecksShown.bind {f : α → Except DecodeError β} (h : ChecksShown x p shown)
    (hf : ∀ a, x = .ok a → ChecksShown (f a) q shown') :
    ChecksShown (x >>= f) (p ∧ q) (shown ∧ shown') where
  accepts := by
    rintro ⟨hp, hq⟩ ⟨hshown, hshown'⟩
    obtain ⟨a, ha⟩ := h.accepts hp hshown
    obtain ⟨b, hb⟩ := (hf a ha).accepts hq hshown'
    exact ⟨b, bind_eq_ok_iff.mpr ⟨a, ha, hb⟩⟩
  refuses := by
    intro hfails
    by_cases hfirst : p ∧ shown
    · obtain ⟨a, ha⟩ := h.accepts hfirst.1 hfirst.2
      have hnext : ¬ (q ∧ shown') := fun hall => hfails ⟨⟨hfirst.1, hall.1⟩, hfirst.2, hall.2⟩
      rw [ha]
      exact ((hf a ha).refuses hnext).imp_right fun hend => ⟨fun hall => hend.1 hall.2, hend.2⟩
    · rcases h.refuses hfirst with ⟨field, problem, he⟩ | ⟨hshown, fault, he⟩
      · exact .inl ⟨field, problem, by rw [he]; rfl⟩
      · exact .inr ⟨fun hall => hshown hall.1, fault, by rw [he]; rfl⟩

theorem ChecksShown.bind_pure (h : ChecksShown x p shown) (f : α → β) :
    ChecksShown (x >>= fun a => pure (f a)) p shown :=
  (h.bind fun a _ => .ok (f a) trivial trivial).congr (and_iff_left trivial) (and_iff_left trivial)

theorem ChecksShown.mapM {f : α → Except DecodeError β} {p shown : α → Prop} {xs : List α}
    (h : ∀ a ∈ xs, ChecksShown (f a) (p a) (shown a)) :
    ChecksShown (xs.mapM f) (∀ a ∈ xs, p a) (∀ a ∈ xs, shown a) := by
  induction xs with
  | nil => exact .ok [] (by simp) (by simp)
  | cons a xs ih =>
      rw [List.mapM_cons]
      have hrest := ih fun b hb => h b (List.mem_cons_of_mem a hb)
      have hall := (h a List.mem_cons_self).bind fun b _ => hrest.bind_pure (b :: ·)
      exact hall.congr List.forall_mem_cons.symm List.forall_mem_cons.symm

/-- What asks for an object first checks a shape that only objects have. -/
theorem ChecksShown.object_bind {f : Entries → Except DecodeError α} {p q : Json → Prop} {v : Json}
    (path : String) (hobject : p v → v.IsObject)
    (hf : ∀ entries, ChecksShown (f entries) (p (.object entries)) (q (.object entries))) :
    ChecksShown (object path v >>= f) (p v) (q v) := by
  cases v with
  | object entries => exact hf entries
  | _ =>
      refine .malformed fun hp => ?_
      obtain ⟨entries, h⟩ := hobject hp
      cases h

end ChecksShown

/-- The computation succeeds exactly if `p` holds, and otherwise it names a field at fault. Nothing has to
be shown. -/
def Checks {α : Type} (x : Except DecodeError α) (p : Prop) : Prop :=
  ChecksShown x p True

section Checks

variable {α β : Type} {x : Except DecodeError α} {p q : Prop}

theorem ChecksShown.of_shown {shown : Prop} (h : ChecksShown x p shown) (hshown : shown) : Checks x p :=
  ChecksShown.congr h Iff.rfl (iff_true_intro hshown)

theorem Checks.accepts (h : Checks x p) (hp : p) : ∃ a, x = .ok a :=
  ChecksShown.accepts h hp trivial

theorem Checks.refuses (h : Checks x p) (hp : ¬ p) :
    ∃ field problem, x = .error (.malformed field problem) :=
  (ChecksShown.refuses h fun hall => hp hall.1).resolve_right fun hend => hend.1 trivial

theorem Checks.shown (h : Checks x p) : ChecksShown x p True :=
  h

theorem Checks.ok (a : α) (hp : p) : Checks (.ok a) p :=
  ChecksShown.ok a hp trivial

theorem Checks.malformed {field : String} {problem : Problem} (hp : ¬ p) :
    Checks (.error (.malformed field problem) : Except DecodeError α) p :=
  ChecksShown.malformed hp

theorem Checks.congr (h : Checks x p) (hpq : p ↔ q) : Checks x q :=
  ChecksShown.congr h hpq Iff.rfl

theorem Checks.bind {f : α → Except DecodeError β} (h : Checks x p)
    (hf : ∀ a, x = .ok a → Checks (f a) q) : Checks (x >>= f) (p ∧ q) :=
  (ChecksShown.bind h hf).congr Iff.rfl (and_iff_left trivial)

theorem Checks.bind_pure (h : Checks x p) (f : α → β) : Checks (x >>= fun a => pure (f a)) p :=
  ChecksShown.bind_pure h f

theorem Checks.mapM {f : α → Except DecodeError β} {p : α → Prop} {xs : List α}
    (h : ∀ a ∈ xs, Checks (f a) (p a)) : Checks (xs.mapM f) (∀ a ∈ xs, p a) :=
  (ChecksShown.mapM h).congr Iff.rfl (iff_true_intro fun _ _ => trivial)

theorem Checks.object_bind {f : Entries → Except DecodeError α} {p : Json → Prop} {v : Json}
    (path : String) (hobject : p v → v.IsObject)
    (hf : ∀ entries, Checks (f entries) (p (.object entries))) :
    Checks (object path v >>= f) (p v) :=
  ChecksShown.object_bind (q := fun _ => True) path hobject hf

end Checks

/-! ## Definitions -/

theorem object_checks (path : String) (v : Json) : Checks (object path v) v.IsObject := by
  cases v with
  | object entries => exact .ok entries ⟨entries, rfl⟩
  | _ => exact .malformed (by rintro ⟨entries, h⟩; cases h)

/-- The values under a key are checked one by one, and then what follows. -/
theorem entriesUnder_checks {α β : Type} {decode : String → Json → Except DecodeError α}
    {next : List α → Except DecodeError β} {p : Json → Prop} {q : Prop} (doc : Entries) (key : String)
    (h : ∀ name v, Checks (decode name v) (p v)) (hnext : ∀ items, Checks (next items) q) :
    Checks (entriesUnder doc key >>= fun entries =>
      (entries.mapM fun e => decode e.1 e.2) >>= next) (OrNull (ObjectOf p) (field doc key) ∧ q) := by
  unfold entriesUnder
  cases field doc key with
  | null => exact (hnext []).congr (iff_and_self.mpr fun _ => .inl rfl)
  | object entries =>
      have hall : Checks (entries.mapM fun e => decode e.1 e.2) (∀ e ∈ entries, p e.2) :=
        .mapM fun e _ => h e.1 e.2
      refine (hall.bind fun items _ => hnext items).congr ?_
      simp [OrNull, ObjectOf]
  | _ => exact .malformed (by simp [OrNull, ObjectOf])

/-- The values under a key are checked one by one, and so is what has to be shown of them. -/
theorem entriesUnder_checksShown {α : Type} {decode : String → Json → Except DecodeError α}
    {p shown : Json → Prop} (doc : Entries) (key : String)
    (h : ∀ name v, ChecksShown (decode name v) (p v) (shown v)) :
    ChecksShown (entriesUnder doc key >>= fun entries => entries.mapM fun e => decode e.1 e.2)
      (OrNull (ObjectOf p) (field doc key)) (∀ e ∈ (Json.object doc).entriesAt key, shown e.2) := by
  unfold entriesUnder Json.entriesAt
  rw [get_object]
  cases field doc key with
  | null => exact .ok [] (.inl rfl) (by simp [entries?])
  | object entries =>
      have hall : ChecksShown (entries.mapM fun e => decode e.1 e.2) (∀ e ∈ entries, p e.2)
          (∀ e ∈ entries, shown e.2) := .mapM fun e _ => h e.1 e.2
      refine hall.congr ?_ Iff.rfl
      simp [OrNull, ObjectOf]
  | _ => exact .malformed (by simp [OrNull, ObjectOf])

theorem type_checks (entries : Entries) (path : String) :
    Checks (type entries path) (IsTyped (.object entries)) := by
  simp only [type, IsTyped, get_object]
  split
  case h_1 ref href => exact .ok _ (.inl ⟨ref, href⟩)
  case h_2 name hname _ => exact .ok _ (.inr (.inl ⟨name, hname⟩))
  case h_3 href hname => exact .ok _ (.inr (.inr ⟨href, hname⟩))
  case h_4 hrefText hnameText hnull =>
    refine .malformed ?_
    rintro (⟨ref, href⟩ | ⟨name, hname⟩ | ⟨href, hname⟩)
    · exact hrefText ref href
    · exact hnameText name hname
    · exact hnull href hname

theorem items_checks (entries : Entries) (path : String) :
    Checks (items entries path)
      (OrNull (fun i => IsBool i ∨ (IsObject i ∧ IsTyped i)) (field entries "items")) := by
  unfold items
  cases field entries "items" with
  | null => exact .ok none (.inl rfl)
  | bool b => exact .ok none (.inr (.inl ⟨b, rfl⟩))
  | object inner =>
      refine ((type_checks inner _).bind_pure some).congr ?_
      simp [OrNull, IsBool, IsObject]
  | _ => exact .malformed (by simp [OrNull, IsBool, IsObject])

theorem allowedValues_checks (entries : Entries) (path : String) :
    Checks (allowedValues entries path) (OrNull IsArray (field entries "allowedValues")) := by
  unfold allowedValues
  cases field entries "allowedValues" with
  | null => exact .ok none (.inl rfl)
  | array values => exact .ok _ (.inr ⟨values, rfl⟩)
  | _ => exact .malformed (by simp [OrNull, IsArray])

theorem bound_checks (entries : Entries) (path key : String) :
    Checks (bound entries path key) (OrNull IsInt (field entries key)) := by
  unfold bound
  cases field entries key with
  | null => exact .ok none (.inl rfl)
  | int n => exact .ok (some n) (.inr ⟨n, rfl⟩)
  | _ => exact .malformed (by simp [OrNull, IsInt])

theorem constraints_checks (entries : Entries) (path : String) :
    Checks (constraints entries path) (OrNull IsArray (field entries "allowedValues") ∧
      ∀ key ∈ boundKeys, OrNull IsInt (field entries key)) := by
  have hall := (allowedValues_checks entries path).bind fun allowed _ =>
    (bound_checks entries path "minLength").bind fun minLength _ =>
    (bound_checks entries path "maxLength").bind fun maxLength _ =>
    (bound_checks entries path "minValue").bind fun minValue _ =>
    (bound_checks entries path "maxValue").bind_pure fun maxValue =>
      ({ allowedValues := allowed, minLength, maxLength, minValue, maxValue } : Constraints)
  exact hall.congr (by simp [boundKeys])

theorem metadata_checks (path : String) (v : Json) :
    Checks (metadata path v) (OrNull IsObject v) := by
  unfold metadata
  split
  case h_1 => exact .ok none (.inl rfl)
  case h_2 hnull =>
    refine ((object_checks path v).bind_pure _).congr ?_
    exact (orNull_of_ne_null hnull).symm

theorem definitionOf_checks (entries : Entries) (path : String) :
    Checks (definitionOf entries path) (IsDefinition (.object entries)) := by
  have hall := (type_checks entries path).bind fun type _ =>
    (items_checks entries path).bind fun items _ =>
    (constraints_checks entries path).bind fun constraints _ =>
    (metadata_checks (path ++ ".metadata") (field entries "metadata")).bind_pure fun metadata =>
      ({ type, items, nullable := (field entries "nullable").truthy, constraints, metadata } :
        Definition)
  refine hall.congr ⟨?_, ?_⟩
  · rintro ⟨htyped, hitems, ⟨hallowed, hbounds⟩, hmetadata⟩
    exact ⟨⟨entries, rfl⟩, htyped, hitems, hallowed, hbounds, hmetadata⟩
  · rintro ⟨-, htyped, hitems, hallowed, hbounds, hmetadata⟩
    exact ⟨htyped, hitems, ⟨hallowed, hbounds⟩, hmetadata⟩

theorem definition_checks (path : String) (v : Json) :
    Checks (definition path v) v.IsDefinition :=
  .object_bind path (fun h => h.object) fun entries => definitionOf_checks entries path

theorem entity_checks (path name : String) (v : Json) :
    Checks (entity path name v) v.IsDefinition :=
  (definition_checks path v).bind_pure fun definition =>
    ({ toDefinition := definition, name } : Entity)

/-! ## Parameters, data types and outputs -/

theorem parameter_checks (name : String) (v : Json) :
    Checks (parameter name v) v.IsDefinition :=
  (entity_checks ("parameters." ++ name) name v).bind_pure fun entity =>
    ({ toEntity := entity, default := defaultValue v } : Parameter)

theorem dataType_checks (name : String) (v : Json) : Checks (dataType name v) v.IsDataType := by
  refine .object_bind _ (fun h => h.definition.object) fun entries => ?_
  have hall := (definitionOf_checks entries ("definitions." ++ name)).bind fun own _ =>
    entriesUnder_checks entries "properties"
      (fun key v => entity_checks ("definitions." ++ name ++ ".properties." ++ key) key v)
      fun properties => .ok ({ toDefinition := own, name, properties } : DataType) trivial
  refine hall.congr ⟨?_, ?_⟩
  · rintro ⟨hown, hproperties, -⟩
    exact ⟨hown, hproperties⟩
  · rintro ⟨hown, hproperties⟩
    exact ⟨hown, hproperties, trivial⟩

theorem output_checks (name : String) (v : Json) : Checks (output name v) v.IsDefinition :=
  entity_checks ("outputs." ++ name) name v

/-! ## Variables -/

/-- The induction is on the loops that are left. -/
theorem copies_checks (loops : List Json) (index : Nat) :
    Checks (copies index loops) (∀ l ∈ loops, l.IsLoop) := by
  induction loops generalizing index with
  | nil => exact .ok [] (by simp)
  | cons v rest ih =>
      have hrest := ih (index + 1)
      have hall : Checks (copies index (v :: rest)) (v.IsLoop ∧ ∀ l ∈ rest, l.IsLoop) := by
        refine .object_bind (p := fun v => v.IsLoop ∧ ∀ l ∈ rest, l.IsLoop) _ (fun h => h.1.object) ?_
        intro entries
        have hname : (Json.object entries).IsLoop ↔ IsText (field entries "name") :=
          ⟨fun h => h.name, fun h => ⟨⟨entries, rfl⟩, h⟩⟩
        rw [hname]
        cases field entries "name" with
        | text name =>
            refine (hrest.bind_pure _).congr ?_
            simp [IsText]
        | _ => exact .malformed (by simp [IsText])
      exact hall.congr (by simp)

theorem variablesOfEntry_checks (name : String) (v : Json) :
    Checks (variablesOfEntry name v)
      (∀ loops, name = "copy" → v = .array loops → ∀ l ∈ loops, l.IsLoop) := by
  have hplain (hp : ∀ loops, name = "copy" → v = .array loops → ∀ l ∈ loops, l.IsLoop) :
      Checks (if isReserved name || isInjected name then .ok []
        else .ok [{ name, value := Value.ofJson v }] : Except DecodeError (List Variable))
        (∀ loops, name = "copy" → v = .array loops → ∀ l ∈ loops, l.IsLoop) := by
    split
    · exact .ok _ hp
    · exact .ok _ hp
  unfold variablesOfEntry copyList?
  by_cases hname : name = "copy"
  · cases v with
    | array loops =>
        simp only [hname, beq_self_eq_true, if_true, Json.items?]
        refine (copies_checks loops 0).congr ?_
        simp
    | _ =>
        simp only [hname, beq_self_eq_true, if_true, Json.items?] at hplain ⊢
        exact hplain (by simp)
  · rw [if_neg (by simpa using hname)]
    exact hplain fun _ h => absurd h hname

theorem variableSection_checks (v : Json) :
    Checks (variableSection v).2 (OrNull IsVariables v) := by
  rw [variableSection_result]
  split
  case h_1 => exact .ok [] (.inl rfl)
  case h_2 hnull =>
    refine .congr (p := v.IsVariables) ?_ (orNull_of_ne_null hnull).symm
    refine .object_bind _ (fun ⟨entries, h, _⟩ => ⟨entries, h⟩) fun entries => ?_
    have hall : Checks (entries.mapM fun e => variablesOfEntry e.1 e.2) (∀ e ∈ entries,
        ∀ loops, e.1 = "copy" → e.2 = .array loops → ∀ l ∈ loops, l.IsLoop) :=
      .mapM fun e _ => variablesOfEntry_checks e.1 e.2
    refine (hall.bind_pure List.flatten).congr ⟨?_, ?_⟩
    · intro h
      exact ⟨entries, rfl, fun loops hmem => h _ hmem loops rfl rfl⟩
    · rintro ⟨_, ⟨rfl⟩, h⟩ ⟨key, v⟩ hmem loops rfl rfl
      exact h loops hmem

/-! ## Labels -/

theorem shownLabel_checks (label : Json) : ChecksShown (shownLabel label) True label.InLimits where
  accepts _ h := exists_shownLabel_iff.mpr h
  refuses h := by
    have hlimits : ¬ label.InLimits := fun hlimits => h ⟨trivial, hlimits⟩
    refine .inr ⟨hlimits, ?_⟩
    rw [← exists_shownLabel_iff] at hlimits
    unfold shownLabel at hlimits ⊢
    cases hshown : (Value.ofJson label).display with
    | error fault => exact ⟨fault, rfl⟩
    | ok s =>
        rw [hshown] at hlimits
        exact absurd ⟨s, rfl⟩ hlimits

/-- A parameter without a label is known by its index. -/
theorem argumentName_checks (index : Nat) (entries : Entries) :
    ChecksShown (argumentName index ((entryOf? "name" entries).getD (.text ""))) True
      ((Json.object entries).get "name").InLimits := by
  rw [get_object, field]
  cases entryOf? "name" entries with
  | none => exact .ok _ trivial inLimits_null
  | some label =>
      rw [Option.getD_some, Option.getD_some, argumentName]
      split
      case isTrue => exact shownLabel_checks label
      case isFalse hfalsy =>
        exact .ok _ trivial (inLimits_of_not_truthy (Bool.eq_false_iff.mpr hfalsy))

/-- A namespace without a label is known by its index. -/
theorem namespaceName_checks (index : Nat) (entries : Entries) :
    ChecksShown (namespaceName index entries) True ((Json.object entries).get "namespace").InLimits := by
  rw [get_object, field, namespaceName]
  cases entryOf? "namespace" entries with
  | none => exact .ok _ trivial inLimits_null
  | some label => exact shownLabel_checks label

/-! ## Functions -/

/-- The induction is on the parameters that are left. -/
theorem arguments_checks (path : String) (values : List Json) (index : Nat) :
    ChecksShown (arguments path index values) (∀ v ∈ values, v.IsDefinition)
      (∀ v ∈ values, (v.get "name").InLimits) := by
  induction values generalizing index with
  | nil => exact .ok [] (by simp) (by simp)
  | cons v rest ih =>
      have hall : ChecksShown (arguments path index (v :: rest))
          (v.IsDefinition ∧ ∀ v ∈ rest, v.IsDefinition)
          ((v.get "name").InLimits ∧ ∀ v ∈ rest, (v.get "name").InLimits) := by
        refine .object_bind (p := fun v => v.IsDefinition ∧ ∀ v ∈ rest, v.IsDefinition)
          (q := fun v => (v.get "name").InLimits ∧ ∀ v ∈ rest, (v.get "name").InLimits) _
          (fun h => h.1.object) fun entries => ?_
        refine .congr ?_ (and_iff_right trivial) (and_congr_right fun _ => and_iff_right trivial)
        exact (argumentName_checks index entries).bind fun known _ =>
          (definitionOf_checks entries (path ++ ".parameters." ++ known)).shown.bind fun own _ =>
            (ih (index + 1)).bind_pure _
      exact hall.congr (by simp) (by simp)

theorem argumentList_checks (path : String) (v : Json) :
    ChecksShown (argumentList path v >>= arguments path 0)
      (v.truthy = false ∨ ArrayOf IsDefinition v)
      (∀ argument ∈ v.items?.getD [], (argument.get "name").InLimits) := by
  unfold argumentList
  split
  case isFalse hfalsy =>
    have hempty : v.items?.getD [] = [] := by
      cases v with
      | array items => simpa [truthy, items?] using hfalsy
      | _ => rfl
    rw [hempty]
    exact .ok [] (.inl (by simpa using hfalsy)) (by simp)
  case isTrue htruthy =>
    cases v with
    | array values =>
        refine (arguments_checks path values 0).congr ?_ Iff.rfl
        simp [htruthy, ArrayOf]
    | _ => exact .malformed (by simp [htruthy, ArrayOf])

theorem returned_checks (path : String) (v : Json) :
    Checks (returned path v) (OrNull IsDefinition v) := by
  unfold returned
  split
  case h_1 => exact .ok _ (.inl rfl)
  case h_2 hnull => exact (definition_checks path v).congr (orNull_of_ne_null hnull).symm

theorem function_checks (path name : String) (v : Json) :
    ChecksShown (function path name v) v.IsFunction v.ArgumentsShown := by
  refine .object_bind path (fun h => h.object) fun entries => ?_
  have hall := (argumentList_checks path (field entries "parameters")).bind fun arguments _ =>
    (returned_checks (path ++ ".output") (field entries "output")).bind fun output _ =>
    (metadata_checks (path ++ ".metadata") (field entries "metadata")).bind_pure fun metadata =>
      ({ name, arguments, output, metadata } : UserFunction)
  rw [bind_assoc] at hall
  refine hall.congr ⟨?_, ?_⟩ (and_iff_left trivial)
  · rintro ⟨hparameters, houtput, hmetadata⟩
    exact ⟨⟨entries, rfl⟩, hparameters, houtput, hmetadata⟩
  · rintro ⟨-, hparameters, houtput, hmetadata⟩
    exact ⟨hparameters, houtput, hmetadata⟩

theorem member_checks (index : Nat) (entries : Entries) (name : String) (v : Json) :
    ChecksShown (member index entries name v) v.IsFunction
      (((Json.object entries).get "namespace").InLimits ∧ v.ArgumentsShown) := by
  have hall := (namespaceName_checks index entries).bind fun label _ =>
    function_checks ("functions." ++ label ++ "." ++ name) name v
  exact hall.congr (and_iff_right trivial) Iff.rfl

theorem members_checks (index : Nat) (v : Json) :
    ChecksShown (members index v) v.IsNamespace v.MembersShown := by
  refine .object_bind _ (fun h => h.object) fun entries => ?_
  have hall := entriesUnder_checksShown entries "members" fun name v => member_checks index entries name v
  exact hall.congr ⟨fun h => ⟨⟨entries, rfl⟩, h⟩, fun h => h.members⟩ Iff.rfl

/-- The induction is on the namespaces that are left. -/
theorem namespaces_checks (values : List Json) (index : Nat) :
    ChecksShown (namespaces index values) (∀ v ∈ values, v.IsNamespace)
      (∀ v ∈ values, v.MembersShown) := by
  induction values generalizing index with
  | nil => exact .ok [] (by simp) (by simp)
  | cons v rest ih =>
      rw [namespaces_cons]
      have hall := (members_checks index v).bind fun own _ => (ih (index + 1)).bind_pure (own ++ ·)
      exact hall.congr List.forall_mem_cons.symm List.forall_mem_cons.symm

theorem functions_checks (v : Json) :
    ChecksShown (functions v) (OrNull (ArrayOf IsNamespace) v)
      (∀ space ∈ v.items?.getD [], space.MembersShown) := by
  cases v with
  | null => exact .ok [] (.inl rfl) (by simp [items?])
  | array values =>
      refine (namespaces_checks values 0).congr ?_ Iff.rfl
      simp [OrNull, ArrayOf]
  | _ => exact .malformed (by simp [OrNull, ArrayOf])

/-! ## The document -/

theorem addEach_checks {α : Type} {decode : String → Json → Except DecodeError α}
    {add : Template → List α → Template} {p : Json → Prop} (doc : Entries) (key : String)
    (h : ∀ name v, Checks (decode name v) (p v)) (t : Template) :
    Checks (addEach doc key decode add t).result (OrNull (ObjectOf p) (field doc key)) := by
  rw [addEach_result]
  have hall := entriesUnder_checks doc key h fun items => .ok (add t items) trivial
  exact hall.congr (and_iff_left trivial)

theorem addParameters_checks (doc : Entries) (t : Template) :
    Checks (addParameters doc t).result (OrNull (ObjectOf IsDefinition) (field doc "parameters")) :=
  addEach_checks doc "parameters" parameter_checks t

theorem addDataTypes_checks (doc : Entries) (t : Template) :
    Checks (addDataTypes doc t).result (OrNull (ObjectOf IsDataType) (field doc "definitions")) :=
  addEach_checks doc "definitions" dataType_checks t

theorem addOutputs_checks (doc : Entries) (t : Template) :
    Checks (addOutputs doc t).result (OrNull (ObjectOf IsDefinition) (field doc "outputs")) :=
  addEach_checks doc "outputs" output_checks t

theorem addVariables_checks (doc : Entries) (t : Template) :
    Checks (addVariables doc t).result (OrNull IsVariables (field doc "variables")) := by
  rw [addVariables_result]
  exact (variableSection_checks (field doc "variables")).bind_pure _

theorem addFunctions_checks (doc : Entries) (t : Template) :
    ChecksShown (addFunctions doc t).result (OrNull (ArrayOf IsNamespace) (field doc "functions"))
      (Json.object doc).LabelsShown := by
  rw [addFunctions_result]
  exact (functions_checks (field doc "functions")).bind_pure _

theorem setMetadata_checks (doc : Entries) (t : Template) :
    Checks (setMetadata doc t).result (OrNull IsObject (field doc "metadata")) := by
  rw [setMetadata_result]
  unfold field
  cases entryOf? "metadata" doc with
  | none => exact .ok t (.inl rfl)
  | some v => exact (metadata_checks "metadata" v).bind_pure _

theorem decode_checks (t : Template) (document : Json) :
    ChecksShown (t.decode document).result document.IsTemplate document.LabelsShown := by
  rw [decode_result]
  refine .object_bind "template" (fun h => h.object) fun doc => ?_
  have hall := (addParameters_checks doc t).shown.bind fun t _ =>
    (addDataTypes_checks doc t).shown.bind fun t _ =>
    (addVariables_checks doc t).shown.bind fun t _ =>
    (addOutputs_checks doc t).shown.bind fun t _ =>
    (addFunctions_checks doc t).bind fun t _ =>
    (setMetadata_checks doc t).shown.bind_pure Template.sort
  refine hall.congr ⟨?_, ?_⟩ (by simp)
  · rintro ⟨hparameters, hdefinitions, hvariables, houtputs, hfunctions, hmetadata⟩
    exact ⟨⟨doc, rfl⟩, hparameters, hdefinitions, hvariables, houtputs, hfunctions, hmetadata⟩
  · rintro ⟨-, hparameters, hdefinitions, hvariables, houtputs, hfunctions, hmetadata⟩
    exact ⟨hparameters, hdefinitions, hvariables, houtputs, hfunctions, hmetadata⟩

/-- Decoding gives a template exactly when the document has the shape of one and all labels of functions
can be shown. Otherwise it names a field at fault, or it ends without a report at a label that cannot be
shown. No document within the limits of the reader has such a label, so of what was read decoding gives
a template or names a field at fault, and it gives a template exactly when the shape is that of one. -/
theorem decode_eq_ok_iff_isTemplate (t : Template) (document : Json) :
    ((∃ u, (t.decode document).result = .ok u) ↔ document.IsTemplate ∧ document.LabelsShown) ∧
    ((∃ u, (t.decode document).result = .ok u) ∨
      (∃ field problem, (t.decode document).result = .error (.malformed field problem)) ∨
      ¬ document.LabelsShown ∧ ∃ fault, (t.decode document).result = .error (.unshown fault)) ∧
    ∀ text, Json.read text = .ok document →
      ((∃ u, (t.decode document).result = .ok u) ∨
        ∃ field problem, (t.decode document).result = .error (.malformed field problem)) ∧
      ((∃ u, (t.decode document).result = .ok u) ↔ document.IsTemplate) := by
  have hchecks := decode_checks t document
  have haccepted : (∃ u, (t.decode document).result = .ok u) ↔
      document.IsTemplate ∧ document.LabelsShown :=
    ⟨fun ⟨u, hu⟩ => hchecks.of_ok hu, fun h => hchecks.accepts h.1 h.2⟩
  have houtcome : (∃ u, (t.decode document).result = .ok u) ∨
      (∃ field problem, (t.decode document).result = .error (.malformed field problem)) ∨
      ¬ document.LabelsShown ∧ ∃ fault, (t.decode document).result = .error (.unshown fault) := by
    by_cases h : document.IsTemplate ∧ document.LabelsShown
    · exact .inl (hchecks.accepts h.1 h.2)
    · exact .inr (hchecks.refuses h)
  refine ⟨haccepted, houtcome, fun text hread => ?_⟩
  have hshown := (Json.read_inLimits hread).labelsShown
  exact ⟨houtcome.imp_right fun h => h.resolve_right fun hend => hend.1 hshown,
    haccepted.trans (and_iff_left hshown)⟩

/-- A namespace whose label is a list. -/
theorem decode_eq_ok_iff_isTemplate_listed :
    ∃ document, Json.read
        "\x7b\"functions\": [\x7b\"namespace\": [7], \"members\": \x7b\"f\": \x7b\x7d\x7d\x7d]\x7d" =
          .ok document ∧
      (∃ u, (Template.decode {} document).result = .ok u) ∧ document.IsTemplate := by
  obtain ⟨u, hu⟩ := exists_eq_ok (x := Json.read
    "\x7b\"functions\": [\x7b\"namespace\": [7], \"members\": \x7b\"f\": \x7b\x7d\x7d\x7d]\x7d" >>=
      fun document => (Template.decode {} document).result.mapError fun _ => .malformed)
    (by decide +kernel)
  obtain ⟨document, hread, hdecode⟩ := bind_eq_ok_iff.mp hu
  have haccepted : ∃ u, (Template.decode {} document).result = .ok u := by
    cases hresult : (Template.decode {} document).result with
    | error e =>
        rw [hresult] at hdecode
        cases hdecode
    | ok t => exact ⟨t, rfl⟩
  obtain ⟨-, -, hofRead⟩ := decode_eq_ok_iff_isTemplate {} document
  exact ⟨document, hread, haccepted, (hofRead _ hread).2.mp haccepted⟩

end TemplateDocs.Decode
