import TemplateDocs.Proofs.Template.Shape

/-! # Where a decoding error points

Each parameter, data type, output and function of a document has a path, and what is wrong inside of it is
reported below that path. There is one exception: properties of a data type that are not an object are
reported without the path.
-/

namespace TemplateDocs.Json

/-- The document without what stands under a key. -/
def without (key : String) : Json → Json
  | object entries => object (entries.filter fun e => e.1 != key)
  | v => v

theorem get_without {key other : String} (h : other ≠ key) (entries : List (String × Json)) :
    ((object entries).without key).get other = Decode.field entries other := by
  change Decode.field (entries.filter fun e => e.1 != key) other = _
  unfold Decode.field entryOf?
  congr 1
  induction entries with
  | nil => rfl
  | cons e entries ih =>
      obtain ⟨k, v⟩ := e
      by_cases hk : k = key
      · have hother : (other == k) = false := beq_false_of_ne (hk ▸ h)
        simp [hk, ← ih, List.lookup_cons, hk ▸ hother]
      · simp [hk, List.lookup_cons, ih]

theorem IsTemplate.of_without {key : String} {document : Json}
    (h : (document.without key).IsTemplate) : document.IsObject := by
  cases document with
  | object entries => exact ⟨entries, rfl⟩
  | _ => exact h.object

end TemplateDocs.Json

namespace TemplateDocs.Decode

open Json

/-! ## Paths -/

/-- The place goes on from the path after a point. -/
def Inside (path place : String) : Prop :=
  path.toList ++ ['.'] <+: place.toList

/-- The place is the one of the path or stands inside of it. -/
def Below (path place : String) : Prop :=
  place = path ∨ Inside path place

/-- A failure of the computation names a place at the path or inside of it. -/
def Locates {α : Type} (path : String) (x : Except DecodeError α) : Prop :=
  ∀ e, x = .error e → ∃ place problem, e = .malformed place problem ∧ Below path place

section Locates

variable {α β : Type} {path place inner : String} {x : Except DecodeError α}

theorem Below.refl (path : String) : Below path path :=
  .inl rfl

theorem Below.prefix_toList (h : Below path place) : path.toList <+: place.toList := by
  rcases h with rfl | h
  · exact List.prefix_rfl
  · exact (List.prefix_append _ _).trans h

theorem Below.trans (h : Below path inner) (hplace : Below inner place) : Below path place := by
  rcases h with rfl | h
  · exact hplace
  · exact .inr (List.IsPrefix.trans h hplace.prefix_toList)

theorem inside_append {part : String} (h : ['.'] <+: part.toList) : Inside path (path ++ part) := by
  rw [Inside, String.toList_append, List.prefix_append_right_inj]
  exact h

theorem Inside.append (h : Inside path place) (tail : String) : Inside path (place ++ tail) := by
  rw [Inside, String.toList_append]
  exact h.trans (List.prefix_append _ _)

theorem Locates.ok (path : String) (a : α) : Locates path (.ok a : Except DecodeError α) := by
  intro e he
  cases he

theorem Locates.malformed (problem : Problem) (h : Below path place) :
    Locates path (.error (.malformed place problem) : Except DecodeError α) := by
  intro e he
  cases he
  exact ⟨place, problem, rfl, h⟩

theorem Locates.inside (h : Locates inner x) (hpath : Below path inner) : Locates path x := by
  intro e he
  obtain ⟨place, problem, rfl, hplace⟩ := h e he
  exact ⟨place, problem, rfl, hpath.trans hplace⟩

theorem Locates.bind_of_ok {f : α → Except DecodeError β} (h : Locates path x)
    (hf : ∀ a, x = .ok a → Locates path (f a)) : Locates path (x >>= f) := by
  intro e he
  cases x with
  | error e' =>
      obtain rfl : e' = e := Except.error.inj he
      exact h e' rfl
  | ok a => exact hf a rfl e he

theorem Locates.bind {f : α → Except DecodeError β} (h : Locates path x)
    (hf : ∀ a, Locates path (f a)) : Locates path (x >>= f) :=
  h.bind_of_ok fun a _ => hf a

theorem Locates.bind_pure (h : Locates path x) (f : α → β) :
    Locates path (x >>= fun a => pure (f a)) :=
  h.bind fun a => .ok path (f a)

theorem Locates.mapM {f : α → Except DecodeError β} {xs : List α}
    (h : ∀ a ∈ xs, Locates path (f a)) : Locates path (xs.mapM f) := by
  induction xs with
  | nil => exact .ok path []
  | cons a xs ih =>
      rw [List.mapM_cons]
      have hrest := ih fun b hb => h b (List.mem_cons_of_mem a hb)
      exact (h a List.mem_cons_self).bind fun b => hrest.bind_pure (b :: ·)

end Locates

/-! ## Definitions -/

theorem object_locates (path : String) (v : Json) : Locates path (object path v) := by
  cases v with
  | object entries => exact .ok path entries
  | _ => exact .malformed _ (.refl path)

theorem type_locates (entries : Entries) (path : String) : Locates path (type entries path) := by
  unfold type
  split
  case h_4 => exact .malformed _ (.refl path)
  all_goals exact .ok path _

theorem items_locates (entries : Entries) (path : String) : Locates path (items entries path) := by
  have hitems : Below path (path ++ ".items") := .inr (inside_append (by decide))
  unfold items
  split
  case h_1 => exact .ok path _
  case h_2 => exact .ok path _
  case h_3 =>
    refine ((object_locates _ _).inside hitems).bind fun inner => ?_
    exact ((type_locates inner _).inside hitems).bind_pure some

theorem allowedValues_locates (entries : Entries) (path : String) :
    Locates path (allowedValues entries path) := by
  unfold allowedValues
  split
  case h_3 => exact .malformed _ (.inr (inside_append (by decide)))
  all_goals exact .ok path _

theorem bound_locates (entries : Entries) (path key : String) :
    Locates path (bound entries path key) := by
  unfold bound
  split
  case h_3 => exact .malformed _ (.inr ((inside_append (by decide)).append key))
  all_goals exact .ok path _

theorem constraints_locates (entries : Entries) (path : String) :
    Locates path (constraints entries path) :=
  (allowedValues_locates entries path).bind fun _ =>
    (bound_locates entries path "minLength").bind fun _ =>
    (bound_locates entries path "maxLength").bind fun _ =>
    (bound_locates entries path "minValue").bind fun _ =>
    (bound_locates entries path "maxValue").bind_pure _

theorem metadata_locates (path : String) (v : Json) : Locates path (metadata path v) := by
  unfold metadata
  split
  case h_1 => exact .ok path none
  case h_2 => exact (object_locates path v).bind_pure _

theorem metadataUnder_locates (path : String) (v : Json) :
    Locates path (metadata (path ++ ".metadata") v) :=
  (metadata_locates _ v).inside (.inr (inside_append (by decide)))

theorem definitionOf_locates (entries : Entries) (path : String) :
    Locates path (definitionOf entries path) :=
  (type_locates entries path).bind fun _ =>
    (items_locates entries path).bind fun _ =>
    (constraints_locates entries path).bind fun _ =>
    (metadataUnder_locates path _).bind_pure _

theorem definition_locates (path : String) (v : Json) : Locates path (definition path v) :=
  (object_locates path v).bind fun entries => definitionOf_locates entries path

theorem entity_locates (path name : String) (v : Json) : Locates path (entity path name v) :=
  (definition_locates path v).bind_pure _

theorem parameter_locates (name : String) (v : Json) :
    Locates ("parameters." ++ name) (parameter name v) :=
  (entity_locates _ name v).bind_pure _

/-! ## Data types -/

/-- A data type in order but for its properties, which are given and are not an object. -/
structure StrayProperties (v : Json) : Prop where
  definition : v.IsDefinition
  properties : ¬ OrNull IsObject (v.get "properties")

theorem entriesUnder_locates {path key : String} {doc : Entries}
    (h : OrNull IsObject (field doc key)) : Locates path (entriesUnder doc key) := by
  unfold entriesUnder
  rcases h with h | ⟨under, h⟩
  · rw [h]
    exact .ok path []
  · rw [h]
    exact .ok path under

theorem entriesUnder_eq_error {doc : Entries} {key : String}
    (h : ¬ OrNull IsObject (field doc key)) :
    entriesUnder doc key = .error (.malformed key (.notObject (field doc key).kindName)) := by
  unfold entriesUnder
  cases hfield : field doc key with
  | null => exact absurd (.inl hfield) h
  | object under => exact absurd (.inr ⟨under, hfield⟩) h
  | _ => rfl

theorem dataType_locates {v : Json} (name : String) (h : ¬ StrayProperties v) :
    Locates ("definitions." ++ name) (dataType name v) := by
  cases v with
  | object entries =>
      by_cases hown : (Json.object entries).IsDefinition
      · have hproperties : OrNull IsObject (field entries "properties") := by
          by_contra hnot
          exact h ⟨hown, hnot⟩
        refine (definitionOf_locates entries _).bind fun own => ?_
        refine (entriesUnder_locates hproperties).bind fun under => ?_
        refine (Locates.mapM fun e _ => ?_).bind_pure _
        exact (entity_locates _ e.1 e.2).inside (.inr ((inside_append (by decide)).append e.1))
      · obtain ⟨place, problem, hfails⟩ :=
          (definitionOf_checks entries ("definitions." ++ name)).refuses hown
        have hdataType : dataType name (.object entries) = .error (.malformed place problem) := by
          change definitionOf entries ("definitions." ++ name) >>= _ = _
          rw [hfails]
          rfl
        intro e he
        cases hdataType.symm.trans he
        exact definitionOf_locates entries _ _ hfails
  | _ => exact .malformed _ (.refl _)

/-- The properties are looked up under their bare name. -/
theorem dataType_eq_error_of_stray {v : Json} (name : String) (h : StrayProperties v) :
    dataType name v = .error (.malformed "properties" (.notObject (v.get "properties").kindName)) := by
  obtain ⟨entries, rfl⟩ := h.definition.object
  obtain ⟨own, hown⟩ := (definitionOf_checks entries ("definitions." ++ name)).accepts h.definition
  change definitionOf entries ("definitions." ++ name) >>= _ = _
  rw [hown]
  change entriesUnder entries "properties" >>= _ = _
  rw [entriesUnder_eq_error h.properties]
  rfl

/-! ## Functions -/

/-- The induction is on the parameters that are left. Their labels can be shown, or decoding would end
there without a place. -/
theorem arguments_locates (path : String) {values : List Json}
    (hshown : ∀ v ∈ values, (v.get "name").InLimits) (index : Nat) :
    Locates path (arguments path index values) := by
  induction values generalizing index with
  | nil => exact .ok path []
  | cons v rest ih =>
      obtain ⟨hname, hrest⟩ := List.forall_mem_cons.mp hshown
      have hindex : Inside path (path ++ ".parameters[" ++ toString index ++ "]") :=
        ((inside_append (by decide)).append _).append _
      cases v with
      | object entries =>
          obtain ⟨known, hknown⟩ := (argumentName_checks index entries).accepts trivial hname
          have hnamed : Inside path (path ++ ".parameters." ++ known) :=
            (inside_append (by decide)).append known
          have hown := (definitionOf_locates entries (path ++ ".parameters." ++ known)).inside
            (.inr hnamed)
          change Locates path (argumentName index _ >>= _)
          rw [hknown]
          exact hown.bind fun own => (ih hrest (index + 1)).bind_pure _
      | _ => exact .malformed _ (.inr hindex)

theorem argumentList_locates (path : String) (v : Json) : Locates path (argumentList path v) := by
  unfold argumentList
  split
  · split
    · exact .ok path _
    · exact .malformed _ (.inr (inside_append (by decide)))
  · exact .ok path []

theorem returned_locates (path : String) (v : Json) : Locates path (returned path v) := by
  unfold returned
  split
  · exact .ok path _
  · exact definition_locates path v

theorem function_locates (path name : String) {v : Json} (hshown : v.ArgumentsShown) :
    Locates path (function path name v) := by
  cases v with
  | object entries =>
      have harguments : Locates path
          (argumentList path (field entries "parameters") >>= arguments path 0) := by
        refine (argumentList_locates path _).bind_of_ok fun values hvalues => ?_
        refine arguments_locates path (fun v hv => hshown v ?_) 0
        rwa [itemsAt, get_object, ← argumentList_eq_ok hvalues]
      have houtput : Inside path (path ++ ".output") := inside_append (by decide)
      have hrest := harguments.bind fun arguments =>
        ((returned_locates _ (field entries "output")).inside (.inr houtput)).bind fun output =>
          (metadataUnder_locates path (field entries "metadata")).bind_pure fun metadata =>
            ({ name, arguments, output, metadata } : UserFunction)
      rwa [bind_assoc] at hrest
  | _ => exact .malformed _ (.refl path)

/-! ## Documents with one fault -/

/-- Something in a document that is decoded on its own. -/
inductive Part where
  | parameter (name : String)
  | dataType (name : String)
  | output (name : String)
  | function (label name : String)
  deriving DecidableEq, Repr

/-- The path that stands for a part in messages. -/
def Part.path : Part → String
  | parameter name => "parameters." ++ name
  | dataType name => "definitions." ++ name
  | output name => "outputs." ++ name
  | function label name => "functions." ++ label ++ "." ++ name

/-- Decoding the part alone fails with the error. -/
def Part.Fails (value : Json) (e : DecodeError) : Part → Prop
  | parameter name => Decode.parameter name value = .error e
  | dataType name => Decode.dataType name value = .error e
  | output name => Decode.output name value = .error e
  | function label name =>
    Decode.function ("functions." ++ label ++ "." ++ name) name value = .error e

/-- The part is a data type that is in order but for its properties. -/
def Part.Stray (value : Json) : Part → Prop
  | dataType _ => StrayProperties value
  | _ => False

/-- The labels that are met while the part is decoded can be shown. -/
def Part.Shown (value : Json) : Part → Prop
  | function _ _ => value.ArgumentsShown
  | _ => True

theorem Part.Fails.located {part : Part} {value : Json} {e : DecodeError} (h : part.Fails value e)
    (hshown : part.Shown value) (hstray : ¬ part.Stray value) :
    ∃ place problem, e = .malformed place problem ∧ Below part.path place := by
  cases part with
  | parameter name => exact parameter_locates name value e h
  | dataType name => exact dataType_locates name hstray e h
  | output name => exact entity_locates _ name value e h
  | function label name => exact function_locates _ name hshown e h

theorem Part.Fails.stray {part : Part} {value : Json} {e : DecodeError} (h : part.Fails value e)
    (hstray : part.Stray value) :
    e = .malformed "properties" (.notObject (value.get "properties").kindName) := by
  cases part with
  | dataType name =>
      have herror := dataType_eq_error_of_stray name hstray
      exact Except.error.inj (h.symm.trans herror)
  | _ => exact hstray.elim

/-- The value under the name is not as `p` asks, and all others of the object are. -/
def OneAmiss (p : Json → Prop) (v : Json) (name : String) (value : Json) : Prop :=
  ∃ before after, v = .object (before ++ (name, value) :: after) ∧ ¬ p value ∧
    ∀ e ∈ before ++ after, p e.2

/-- A namespace is known by its name, and by its index if it has none. -/
def KnownAs (index : Nat) (v : Json) (label : String) : Prop :=
  match v.get? "namespace" with
  | some name => (Value.ofJson name).display = .ok label
  | none => label = toString index

/-- One part of the document has not the shape of its kind. Everything else is well shaped: the other
parts of its section, and the document without that section. Where functions are decoded, the labels in
the names of their fields can be shown. -/
inductive OnlyAmiss (document : Json) : Part → Json → Prop where
  | parameter {name : String} {value : Json} (others : (document.without "parameters").IsTemplate)
      (h : OneAmiss IsDefinition (document.get "parameters") name value) :
      OnlyAmiss document (.parameter name) value
  | dataType {name : String} {value : Json} (others : (document.without "definitions").IsTemplate)
      (h : OneAmiss IsDataType (document.get "definitions") name value) :
      OnlyAmiss document (.dataType name) value
  | output {name : String} {value : Json} (others : (document.without "outputs").IsTemplate)
      (h : OneAmiss IsDefinition (document.get "outputs") name value) :
      OnlyAmiss document (.output name) value
  | function {before after : List Json} {space value : Json} {label name : String}
      (others : (document.without "functions").IsTemplate)
      (spaces : document.get "functions" = .array (before ++ space :: after))
      (wellShaped : ∀ v ∈ before ++ after, v.IsNamespace)
      (known : KnownAs before.length space label) (shown : document.LabelsShown)
      (h : OneAmiss IsFunction (space.get "members") name value) :
      OnlyAmiss document (.function label name) value

/-! ## The first failure -/

section Failure

variable {α β : Type} {x : Except DecodeError α} {e : DecodeError}

theorem bind_eq_error {f : α → Except DecodeError β} (h : x = .error e) :
    x >>= f = .error e := by
  rw [h]
  rfl

theorem bind_eq_error_of_ok {f : α → Except DecodeError β} (h : ∃ a, x = .ok a)
    (hf : ∀ a, f a = .error e) : x >>= f = .error e := by
  obtain ⟨a, rfl⟩ := h
  exact hf a

theorem mapM_eq_error {f : α → Except DecodeError β} {before after : List α} {a : α}
    (hbefore : ∀ b ∈ before, ∃ y, f b = .ok y) (h : f a = .error e) :
    (before ++ a :: after).mapM f = .error e := by
  induction before with
  | nil =>
      rw [List.nil_append, List.mapM_cons]
      exact bind_eq_error h
  | cons b before ih =>
      rw [List.cons_append, List.mapM_cons]
      refine bind_eq_error_of_ok (hbefore b List.mem_cons_self) fun y => ?_
      exact bind_eq_error (ih fun c hc => hbefore c (List.mem_cons_of_mem b hc))

/-- Decoding the values under a key, of which what has to be shown can be shown, fails with the error of the
one that is amiss. -/
theorem OneAmiss.mapM_eq_error {decode : String → Json → Except DecodeError α} {p q : Json → Prop}
    {doc : Entries} {key name : String} {value : Json} (h : OneAmiss p (field doc key) name value)
    (hshown : ∀ e ∈ (Json.object doc).entriesAt key, q e.2)
    (hdecode : ∀ name v, q v → Checks (decode name v) (p v)) :
    ∃ e, decode name value = .error e ∧
      (entriesUnder doc key >>= fun entries => entries.mapM fun e => decode e.1 e.2) = .error e := by
  obtain ⟨before, after, hentries, hvalue, hothers⟩ := h
  have hat : (Json.object doc).entriesAt key = before ++ (name, value) :: after := by
    rw [entriesAt, get_object, hentries]
    rfl
  rw [hat] at hshown
  have hfault := hshown (name, value) (List.mem_append_right before List.mem_cons_self)
  obtain ⟨place, problem, hfails⟩ := (hdecode name value hfault).refuses hvalue
  refine ⟨_, hfails, ?_⟩
  have hunder : entriesUnder doc key = .ok (before ++ (name, value) :: after) := by
    rw [entriesUnder, hentries]
    rfl
  rw [hunder]
  refine Decode.mapM_eq_error (fun e he => ?_) hfails
  exact (hdecode e.1 e.2 (hshown e (List.mem_append_left _ he))).accepts
    (hothers e (List.mem_append_left after he))

theorem OneAmiss.addEach_eq_error {decode : String → Json → Except DecodeError α}
    {add : Template → List α → Template} {p : Json → Prop} {doc : Entries} {key name : String}
    {value : Json} (h : OneAmiss p (field doc key) name value)
    (hdecode : ∀ name v, Checks (decode name v) (p v)) :
    ∃ e, decode name value = .error e ∧
      ∀ t, (addEach doc key decode add t).result = .error e := by
  obtain ⟨e, hfails, hall⟩ := h.mapM_eq_error (q := fun _ => True) (fun _ _ => trivial)
    fun name v _ => hdecode name v
  refine ⟨e, hfails, fun t => ?_⟩
  rw [addEach_result, ← bind_assoc]
  exact bind_eq_error hall

end Failure

/-! ### Namespaces -/

theorem KnownAs.namespaceName_eq {index : Nat} {entries : Entries} {label : String}
    (h : KnownAs index (.object entries) label) : namespaceName index entries = .ok label := by
  change match entryOf? "namespace" entries with
    | some name => (Value.ofJson name).display = .ok label
    | none => label = toString index at h
  unfold namespaceName
  cases hname : entryOf? "namespace" entries with
  | none =>
      rw [hname] at h
      exact h ▸ rfl
  | some name =>
      rw [hname] at h
      simp only [shownLabel, h, Except.mapError]

theorem members_eq_error {index : Nat} {v value : Json} {label name : String}
    (hknown : KnownAs index v label) (hshown : v.MembersShown)
    (h : OneAmiss IsFunction (v.get "members") name value) :
    ∃ e, function ("functions." ++ label ++ "." ++ name) name value = .error e ∧
      members index v = .error e := by
  cases v with
  | object entries =>
      have hlabel := hknown.namespaceName_eq
      have hmember (name : String) (value : Json) : member index entries name value =
          function ("functions." ++ label ++ "." ++ name) name value := by
        rw [member, hlabel]
        rfl
      have hchecks (name : String) (v : Json)
          (hv : ((Json.object entries).get "namespace").InLimits ∧ v.ArgumentsShown) :
          Checks (member index entries name v) v.IsFunction :=
        (member_checks index entries name v).of_shown hv
      obtain ⟨e, hfails, hall⟩ := OneAmiss.mapM_eq_error
        (q := fun v => ((Json.object entries).get "namespace").InLimits ∧ v.ArgumentsShown)
        h hshown hchecks
      exact ⟨e, hmember name value ▸ hfails, hall⟩
  | _ =>
      obtain ⟨before, after, hmembers, -⟩ := h
      cases hmembers

/-- The induction is on the namespaces before the one with the fault. -/
theorem namespaces_eq_error {before after : List Json} {v : Json} {e : DecodeError} (index : Nat)
    (hbefore : ∀ w ∈ before, w.IsNamespace ∧ w.MembersShown)
    (h : members (index + before.length) v = .error e) :
    namespaces index (before ++ v :: after) = .error e := by
  induction before generalizing index with
  | nil =>
      rw [List.nil_append, namespaces_cons]
      exact bind_eq_error h
  | cons w before ih =>
      rw [List.cons_append, namespaces_cons]
      obtain ⟨hshape, hshown⟩ := hbefore w List.mem_cons_self
      refine bind_eq_error_of_ok ((members_checks index w).accepts hshape hshown)
        fun own => bind_eq_error ?_
      refine ih (index + 1) (fun u hu => hbefore u (List.mem_cons_of_mem w hu)) ?_
      rwa [List.length_cons, Nat.add_comm before.length, ← Nat.add_assoc] at h

/-! ### The document -/

/-- What decodes a section decodes it as well where another section has the fault. -/
theorem accepts_of_without {α : Type} {x : Except DecodeError α} {p : Json → Prop} {doc : Entries}
    {key other : String} (hx : Checks x (p (field doc other)))
    (h : p (((Json.object doc).without key).get other)) (hne : other ≠ key) : ∃ a, x = .ok a := by
  rw [get_without hne] at h
  exact hx.accepts h

theorem OnlyAmiss.object {document value : Json} {part : Part} (h : OnlyAmiss document part value) :
    document.IsObject := by
  cases h with
  | parameter others => exact others.of_without
  | dataType others => exact others.of_without
  | output others => exact others.of_without
  | function others => exact others.of_without

theorem OneAmiss.mem_entriesAt {p : Json → Prop} {v value : Json} {key name : String}
    (h : OneAmiss p (v.get key) name value) : (name, value) ∈ v.entriesAt key := by
  obtain ⟨before, after, hentries, -⟩ := h
  rw [entriesAt, hentries]
  exact List.mem_append_right before List.mem_cons_self

theorem OnlyAmiss.shown {document value : Json} {part : Part} (h : OnlyAmiss document part value) :
    part.Shown value := by
  cases h with
  | @function before after space value label name others spaces wellShaped known shown h =>
      have hspace : space ∈ document.itemsAt "functions" := by
        rw [itemsAt, spaces]
        exact List.mem_append_right before List.mem_cons_self
      exact (shown space hspace _ h.mem_entriesAt).2
  | _ => exact trivial

/-- A document with one fault is refused with the error of the part that is at fault: the sections before
it are decoded, and those after it are never looked at. -/
theorem decode_eq_error {document value : Json} {part : Part} (t : Template)
    (h : OnlyAmiss document part value) :
    ∃ e, part.Fails value e ∧ (t.decode document).result = .error e := by
  obtain ⟨doc, rfl⟩ := h.object
  rw [decode_result]
  change ∃ e, _ ∧ (addParameters doc t).result >>= _ = _
  cases h with
  | parameter others h =>
      obtain ⟨e, hfails, hsection⟩ := OneAmiss.addEach_eq_error h parameter_checks
      exact ⟨e, hfails, bind_eq_error (hsection t)⟩
  | dataType others h =>
      obtain ⟨e, hfails, hsection⟩ := OneAmiss.addEach_eq_error h dataType_checks
      refine ⟨e, hfails, ?_⟩
      have hparameters := accepts_of_without (addParameters_checks doc t) others.parameters (by decide)
      refine bind_eq_error_of_ok hparameters fun t => ?_
      exact bind_eq_error (hsection t)
  | output others h =>
      obtain ⟨e, hfails, hsection⟩ := OneAmiss.addEach_eq_error h output_checks
      refine ⟨e, hfails, ?_⟩
      have hparameters := accepts_of_without (addParameters_checks doc t) others.parameters (by decide)
      refine bind_eq_error_of_ok hparameters fun t => ?_
      have hdefinitions := accepts_of_without (addDataTypes_checks doc t) others.definitions (by decide)
      refine bind_eq_error_of_ok hdefinitions fun t => ?_
      have hvars := accepts_of_without (addVariables_checks doc t) others.vars (by decide)
      refine bind_eq_error_of_ok hvars fun t => ?_
      exact bind_eq_error (hsection t)
  | @function before after space value label name others spaces wellShaped known shown h =>
      have hfield : field doc "functions" = .array (before ++ space :: after) := spaces
      have hshown : ∀ v ∈ before ++ space :: after, v.MembersShown := by
        rwa [LabelsShown, itemsAt, get_object, hfield] at shown
      obtain ⟨e, hfails, hmembers⟩ := members_eq_error known
        (hshown space (List.mem_append_right before List.mem_cons_self)) h
      have hnamespaces : namespaces 0 (before ++ space :: after) = .error e :=
        namespaces_eq_error 0
          (fun v hv => ⟨wellShaped v (List.mem_append_left after hv),
            hshown v (List.mem_append_left _ hv)⟩)
          (by rwa [Nat.zero_add])
      refine ⟨e, hfails, ?_⟩
      have hparameters := accepts_of_without (addParameters_checks doc t) others.parameters (by decide)
      refine bind_eq_error_of_ok hparameters fun t => ?_
      have hdefinitions := accepts_of_without (addDataTypes_checks doc t) others.definitions (by decide)
      refine bind_eq_error_of_ok hdefinitions fun t => ?_
      have hvars := accepts_of_without (addVariables_checks doc t) others.vars (by decide)
      refine bind_eq_error_of_ok hvars fun t => ?_
      have houtputs := accepts_of_without (addOutputs_checks doc t) others.outputs (by decide)
      refine bind_eq_error_of_ok houtputs fun t => ?_
      refine bind_eq_error ?_
      rw [addFunctions_result, hfield]
      exact bind_eq_error hnamespaces

/-- A malformed field is reported with its path in front. -/
theorem wording_malformed (place : String) (problem : Problem) :
    (DecodeError.malformed place problem).wording = .ok (place ++ ": " ++ problem.message) :=
  rfl

theorem prefix_wording {path place : String} (h : Below path place) (problem : Problem) :
    path.toList <+: (place ++ ": " ++ problem.message).toList := by
  rw [String.toList_append, String.toList_append, List.append_assoc]
  exact h.prefix_toList.trans (List.prefix_append _ _)

theorem stray_wording_differs {part : Part} {value : Json} (h : part.Stray value) (kind : String) :
    ¬ part.path.toList <+: ("properties" ++ ": " ++ (Problem.notObject kind).message).toList := by
  cases part with
  | dataType name =>
      intro hprefix
      rw [Part.path, String.toList_append] at hprefix
      have hstart := ((List.prefix_append "definitions.".toList name.toList).trans hprefix)
      simp [String.toList_append] at hstart
  | _ => exact h.elim

/-- A document in which one parameter, data type, output or function is not well shaped is refused. The
message starts with the path of that part and names a field there or inside of it, unless the part is a
data type in order but for its properties, which are given and not an object: these alone are named
without the path. -/
theorem decode_error_located_iff {document value : Json} {part : Part} (t : Template)
    (h : OnlyAmiss document part value) :
    ∃ e message, (t.decode document).result = .error e ∧ e.wording = .ok message ∧
      (part.path.toList <+: message.toList ↔ ¬ part.Stray value) ∧
      (¬ part.Stray value → ∃ place problem, e = .malformed place problem ∧ Below part.path place) ∧
      (part.Stray value →
        e = .malformed "properties" (.notObject (value.get "properties").kindName)) := by
  obtain ⟨e, hfails, hresult⟩ := decode_eq_error t h
  by_cases hstray : part.Stray value
  · obtain rfl := hfails.stray hstray
    exact ⟨_, _, hresult, wording_malformed _ _,
      iff_of_false (stray_wording_differs hstray _) (not_not_intro hstray),
      fun hnot => absurd hstray hnot, fun _ => rfl⟩
  · obtain ⟨place, problem, rfl, hbelow⟩ := hfails.located h.shown hstray
    exact ⟨_, _, hresult, wording_malformed _ _, iff_of_true (prefix_wording hbelow problem) hstray,
      fun _ => ⟨place, problem, rfl, hbelow⟩, fun h => absurd h hstray⟩

theorem isTemplate_empty : (Json.object []).IsTemplate :=
  ⟨⟨[], rfl⟩, .inl rfl, .inl rfl, .inl rfl, .inl rfl, .inl rfl, .inl rfl⟩

/-- A function with a parameter whose items have a number for their type. -/
def numberedItems : Json :=
  .object [("parameters", .array [.object [("name", .text "p"), ("items", .object [("type", .int 1)])]])]

theorem onlyAmiss_numberedItems :
    OnlyAmiss (.object [("functions", .array [.object [("namespace", .text "ns"),
      ("members", .object [("f", numberedItems)])]])]) (.function "ns" "f") numberedItems := by
  have hfault : ¬ numberedItems.IsFunction := by
    intro h
    rcases h.parameters with hfalsy | ⟨items, hitems, hall⟩
    · cases hfalsy
    · cases hitems
      rcases (hall _ List.mem_cons_self).items with hnull | ⟨b, hbool⟩ | ⟨-, htyped⟩
      · cases hnull
      · cases hbool
      · rcases htyped with ⟨s, hs⟩ | ⟨s, hs⟩ | ⟨-, hnull⟩
        · cases hs
        · cases hs
        · cases hnull
  have hamiss : OneAmiss IsFunction (.object [("f", numberedItems)]) "f" numberedItems :=
    ⟨[], [], rfl, hfault, by simp⟩
  refine @OnlyAmiss.function _ [] [] _ _ _ _ isTemplate_empty rfl (by simp) rfl ?_ hamiss
  exact InLimits.labelsShown ⟨by decide, by decide⟩

theorem decode_error_located_iff_numberedItems :
    OnlyAmiss (.object [("functions", .array [.object [("namespace", .text "ns"),
        ("members", .object [("f", numberedItems)])]])]) (.function "ns" "f") numberedItems ∧
      ∃ e message, (Template.decode {} (.object [("functions", .array [.object [("namespace", .text "ns"),
        ("members", .object [("f", numberedItems)])]])])).result = .error e ∧
        e.wording = .ok message ∧ "functions.ns.f".toList <+: message.toList := by
  obtain ⟨e, message, he, hmessage, hprefix, -⟩ := decode_error_located_iff {} onlyAmiss_numberedItems
  exact ⟨onlyAmiss_numberedItems, e, message, he, hmessage, hprefix.mpr id⟩

/-- A data type whose properties are a number. -/
def numberedProperties : Json :=
  .object [("type", .text "object"), ("properties", .int 1)]

theorem decode_error_without_path :
    OnlyAmiss (.object [("definitions", .object [("T", numberedProperties)])]) (.dataType "T")
        numberedProperties ∧
      ∃ e, (Template.decode {} (.object [("definitions", .object [("T", numberedProperties)])])).result =
          .error e ∧
        e.wording = .ok "properties: expected an object, got int" ∧
        ¬ "definitions.T".toList <+: "properties: expected an object, got int".toList := by
  have hfault : ¬ numberedProperties.IsDataType := by
    intro h
    rcases h.properties with hnull | ⟨entries, hentries, -⟩
    · cases hnull
    · cases hentries
  refine ⟨.dataType isTemplate_empty ⟨[], [], rfl, hfault, by simp⟩, ?_⟩
  exact ⟨.malformed "properties" (.notObject "int"), rfl, rfl, by decide⟩

end TemplateDocs.Decode
