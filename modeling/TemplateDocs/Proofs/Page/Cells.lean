import TemplateDocs.Page.Sections
import TemplateDocs.Proofs.Agreement
import TemplateDocs.Proofs.Page.TableText
import TemplateDocs.Proofs.Value.Unbroken

/-! # Line ends in the rows of a page

Defaults, allowed values, bounds and marks are always on one line. Descriptions are unless a carriage
return stands alone in them, and names and types are shown as they are.
-/

namespace TemplateDocs

open Text List

/-! ## Cells -/

theorem unbroken_oneLine {s : String} :
    Unbroken (Cell.oneLine s).toList ↔ ReturnsPaired s.toList := by
  have hchar (c : Char) :
      Unbroken (if c == '\n' then "<br>".toList else [c]) ↔ c ≠ '\r' := by
    by_cases hc : c = '\n'
    · subst hc
      decide
    · simp [hc, isFileLineEnd]
  rw [Cell.oneLine, String.toList_ofList, unbroken_flatMap, ← return_not_mem_crlfToLf_iff]
  simp only [hchar]
  exact ⟨fun h hmem => h _ hmem rfl, fun h c hc heq => h (heq ▸ hc)⟩

theorem unbroken_oneLine_of_unbroken {s : String} (h : Unbroken s.toList) :
    Unbroken (Cell.oneLine s).toList :=
  unbroken_oneLine.mpr (.of_not_mem (unbroken_iff.mp h).2)

/-- The constraints were read within the limits of documents: the allowed values are documents, and all
numbers can be shown. -/
structure Constraints.FromDocument (c : Constraints) : Prop where
  allowed : ∀ values, c.allowedValues = some values →
    ∃ items, values = Value.ofItems items ∧ ∀ doc ∈ items, doc.InLimits
  bounds : ∀ b ∈ [c.minLength, c.maxLength, c.minValue, c.maxValue], ∀ n ∈ b, (Json.int n).InLimits

theorem bound_cell {b : Option Int} (h : ∀ n ∈ b, (Json.int n).InLimits) :
    ∃ s, Cell.bound b = .ok s ∧ Unbroken s.toList := by
  cases b with
  | none => exact ⟨"", rfl, by decide⟩
  | some n =>
      refine ⟨toString n, ?_, unbroken_int n⟩
      rw [Cell.bound, Value.showInt_eq, if_pos (h n rfl).digits]
      rfl

/-- Of a document a cell shows its text, which was not too long and not too deep. -/
theorem json_ofJson_eq_ok_iff {owner : String} {doc : Json} {s : String} :
    Cell.json owner (Value.ofJson doc) = .ok s ↔ doc.InLimits ∧ Value.encoded doc = s := by
  have hencode : Cell.json owner (Value.ofJson doc) = .ok s ↔
      (Value.ofJson doc).encode callLimit = .ok s := by
    rw [Cell.json]
    cases (Value.ofJson doc).encode callLimit <;> simp [Except.mapError]
  rw [hencode, Value.encode_ofJson_eq_ok_iff]
  exact ⟨fun ⟨hdigits, hdepth, htext⟩ => ⟨⟨hdigits, hdepth⟩, htext⟩,
    fun ⟨hlimits, htext⟩ => ⟨hlimits.digits, hlimits.depth, htext⟩⟩

theorem json_ofJson (owner : String) {doc : Json} (h : doc.InLimits) :
    Cell.json owner (Value.ofJson doc) = .ok (Value.encoded doc) :=
  json_ofJson_eq_ok_iff.mpr ⟨h, rfl⟩

theorem mapM_json_ofItems_eq_ok_iff {owner : String} {items : List Json} {parts : List String} :
    (Value.ofItems items).mapM (Cell.json owner) = .ok parts ↔
      (∀ doc ∈ items, doc.InLimits) ∧ items.map Value.encoded = parts := by
  rw [Value.ofItems_eq_map, List.mapM_map, mapM_eq_ok_iff, ← List.forall₂_eq_eq_eq,
    List.forall₂_map_left_iff, ← List.forall₂_and_left]
  simp only [json_ofJson_eq_ok_iff, Function.comp_apply]

theorem allowedValues_cell (owner : String) {c : Constraints} (h : c.FromDocument) :
    ∃ s, Cell.allowedValues owner c = .ok s ∧ Unbroken s.toList := by
  unfold Cell.allowedValues
  cases hvalues : c.allowedValues with
  | none => exact ⟨"", rfl, by decide⟩
  | some values =>
      obtain ⟨items, rfl, hitems⟩ := h.allowed values hvalues
      dsimp only
      rw [mapM_json_ofItems_eq_ok_iff.mpr ⟨hitems, rfl⟩]
      refine ⟨_, rfl, unbroken_oneLine_of_unbroken ?_⟩
      rw [unbroken_join (by decide), List.forall_mem_map]
      exact fun doc _ => unbroken_encoded doc

theorem defaultValue_cell (name : String) {doc : Json} (h : doc.InLimits) (nullable : Bool) :
    ∃ s, Cell.defaultValue name (Value.ofJson doc) nullable = .ok s ∧ Unbroken s.toList := by
  unfold Cell.defaultValue
  split
  · refine ⟨_, rfl, ?_⟩
    split <;> decide
  · rw [json_ofJson _ h]
    exact ⟨_, rfl, unbroken_oneLine_of_unbroken (unbroken_encoded doc)⟩

/-! ## Rows -/

namespace Page

section Rows

variable {α : Type} {w : Bool} {columns : List (Col α)} {x : α} {P Q : Prop}

/-- The item has a row of the columns shown, and that row is without line ends exactly if `P`. -/
def RowIf (w : Bool) (columns : List (Col α)) (x : α) (P : Prop) : Prop :=
  ∃ cells, ((Column.shown w columns).mapM fun c => c.cell x) = .ok cells ∧
    ((∀ s ∈ cells, Unbroken s.toList) ↔ P)

theorem RowIf.nil : RowIf w ([] : List (Col α)) x True :=
  ⟨[], rfl, by simp⟩

theorem RowIf.congr (h : RowIf w columns x P) (hPQ : P ↔ Q) : RowIf w columns x Q := by
  obtain ⟨cells, hcells, hiff⟩ := h
  exact ⟨cells, hcells, hiff.trans hPQ⟩

theorem mapM_shown_cons {c : Col α} {s : String} {cells : List String}
    (hshown : (w || !c.extra) = true) (hc : c.cell x = .ok s)
    (h : ((Column.shown w columns).mapM fun c => c.cell x) = .ok cells) :
    ((Column.shown w (c :: columns)).mapM fun c => c.cell x) = .ok (s :: cells) := by
  have hfilter : Column.shown w (c :: columns) = c :: Column.shown w columns :=
    List.filter_cons_of_pos hshown
  rw [hfilter, List.mapM_cons, hc, h]
  rfl

/-- A cell that is never broken does not count, shown or not. -/
theorem RowIf.always {c : Col α} (hc : ∃ s, c.cell x = .ok s ∧ Unbroken s.toList)
    (h : RowIf w columns x P) : RowIf w (c :: columns) x P := by
  obtain ⟨s, hs, hunbroken⟩ := hc
  obtain ⟨cells, hcells, hiff⟩ := h
  by_cases hshown : (w || !c.extra) = true
  · refine ⟨s :: cells, mapM_shown_cons hshown hs hcells, ?_⟩
    simp only [List.forall_mem_cons, hiff, hunbroken, true_and]
  · have hfilter : Column.shown w (c :: columns) = Column.shown w columns :=
      List.filter_cons_of_neg hshown
    exact ⟨cells, by rw [hfilter, hcells], hiff⟩

theorem RowIf.plain {header : String} {text : α → String} (h : RowIf w columns x P) :
    RowIf w (plainColumn header text :: columns) x (Unbroken (text x).toList ∧ P) := by
  obtain ⟨cells, hcells, hiff⟩ := h
  refine ⟨text x :: cells, mapM_shown_cons (by simp [plainColumn]) rfl hcells, ?_⟩
  rw [List.forall_mem_cons, hiff]

theorem RowIf.described {header : String} {text : α → String} (h : RowIf w columns x P) :
    RowIf w (plainColumn header (fun y => Cell.oneLine (text y)) :: columns) x
      (ReturnsPaired (text x).toList ∧ P) :=
  h.plain.congr (and_congr_left fun _ => unbroken_oneLine)

theorem RowIf.bounds {constraints : α → Constraints} (hc : (constraints x).FromDocument)
    (h : RowIf w columns x P) : RowIf w (boundColumns constraints ++ columns) x P := by
  have hbounds := hc.bounds
  simp only [List.forall_mem_cons] at hbounds
  obtain ⟨hminLength, hmaxLength, hminValue, hmaxValue, -⟩ := hbounds
  exact .always (bound_cell hminLength) (.always (bound_cell hmaxLength)
    (.always (bound_cell hminValue) (.always (bound_cell hmaxValue) h)))

theorem RowIf.allowed {owner : α → String} {constraints : α → Constraints}
    (hc : (constraints x).FromDocument) (h : RowIf w columns x P) :
    RowIf w (allowedColumn owner constraints :: columns) x P :=
  h.always (allowedValues_cell (owner x) hc)

theorem RowIf.exportMark {metadata : α → Option Metadata} (h : RowIf w columns x P) :
    RowIf w (exportColumn metadata :: columns) x P := by
  refine h.always ⟨_, rfl, ?_⟩
  unfold Cell.yesNo
  split <;> decide

end Rows

end Page

/-! ## Rows by section -/

/-- Of an entity the texts that a table shows as they are, and the description. -/
structure Listed where
  shown : List String
  description : String

/-- No line end is left in what is shown of an entity. -/
def Listed.OneLine (e : Listed) : Prop :=
  (∀ s ∈ e.shown, Unbroken s.toList) ∧ ReturnsPaired e.description.toList

def Module.listed (m : Module) : Listed :=
  { shown := [m.name, m.source], description := m.description }

def Resource.listed (r : Resource) : Listed :=
  { shown := [r.name, r.type], description := r.description }

def Definition.listed (d : Definition) (name : String) : Listed :=
  { shown := [name, Cell.type d.type d.items], description := d.description.getD "" }

def UserFunction.listed (f : UserFunction) : Listed :=
  { shown := [f.name, Cell.type f.output.type f.output.items]
    description := (f.metadata.bind Metadata.description).getD "" }

def Variable.listed (v : Variable) : Listed :=
  { shown := [v.name], description := v.description }

namespace Page

variable {w : Bool}

theorem rowIf_module (m : Module) : RowIf w moduleColumns m m.listed.OneLine := by
  refine RowIf.congr (.plain (.plain (.described .nil))) ?_
  simp [Module.listed, Listed.OneLine, and_assoc]

theorem unbroken_link {text target : String} (htarget : Unbroken text.toList → Unbroken target.toList) :
    Unbroken ("[" ++ text ++ "](" ++ target ++ ")").toList ↔ Unbroken text.toList := by
  have hopen : Unbroken "[".toList := by decide
  have hmiddle : Unbroken "](".toList := by decide
  have hclose : Unbroken ")".toList := by decide
  simp only [String.toList_append, unbroken_append, hopen, hmiddle, hclose, true_and, and_true]
  exact and_iff_left_of_imp htarget

theorem unbroken_resourcePage {type : String} (h : Unbroken type.toList) :
    Unbroken (resourcePage type).toList := by
  have hstart : Unbroken "https://learn.microsoft.com/en-us/azure/templates/".toList := by
    decide +kernel
  unfold resourcePage
  rw [String.toList_append, unbroken_append]
  exact ⟨hstart, unbroken_lower h⟩

theorem rowIf_resource (r : Resource) : RowIf w resourceColumns r r.listed.OneLine := by
  refine RowIf.congr (.plain (.plain (.described .nil))) ?_
  rw [unbroken_link unbroken_resourcePage]
  simp [Resource.listed, Listed.OneLine, and_assoc]

theorem rowIf_parameter {p : Parameter}
    (hdefault : ∃ doc, p.default = Value.ofJson doc ∧ doc.InLimits)
    (hconstraints : p.constraints.FromDocument) :
    RowIf w parameterColumns p (p.listed p.name).OneLine := by
  obtain ⟨doc, hdoc, hlimits⟩ := hdefault
  have hvalue : ∃ s, Cell.defaultValue p.name p.default p.nullable = .ok s ∧ Unbroken s.toList :=
    hdoc ▸ defaultValue_cell p.name hlimits p.nullable
  have hstatus : Unbroken (status p.default p.nullable).toList := by
    unfold status
    split <;> decide
  refine RowIf.congr (.plain (.always ⟨_, rfl, hstatus⟩ (.plain (.described (.always hvalue
    (.allowed hconstraints (.bounds hconstraints .nil))))))) ?_
  simp [Definition.listed, Listed.OneLine, and_assoc, Definition.description]

theorem unbroken_propertiesLink {d : DataType} (h : Unbroken d.name.toList) :
    Unbroken (propertiesLink d).toList := by
  have hstart : Unbroken "[View Properties](#".toList := by decide
  have hend : Unbroken ")".toList := by decide
  unfold propertiesLink
  split
  · decide
  · rw [String.toList_append, String.toList_append, unbroken_append, unbroken_append]
    exact ⟨⟨hstart, unbroken_lower h⟩, hend⟩

theorem rowIf_dataType {d : DataType} (h : d.constraints.FromDocument) :
    RowIf w dataTypeColumns d (d.listed d.name).OneLine := by
  refine RowIf.congr (.plain (.plain (.described (.exportMark (.allowed h
    (.bounds h (.plain .nil))))))) ?_
  have hlink := unbroken_propertiesLink (d := d)
  simp only [Definition.listed, Listed.OneLine, List.forall_mem_cons, Definition.description]
  tauto

theorem rowIf_property {d : DataType} {p : Entity} (h : p.constraints.FromDocument) :
    RowIf w (propertyColumns d) p (p.listed p.name).OneLine := by
  refine RowIf.congr (.plain (.plain (.described (.allowed h (.bounds h .nil))))) ?_
  simp [Definition.listed, Listed.OneLine, and_assoc, Definition.description]

theorem rowIf_function (f : UserFunction) : RowIf w functionColumns f f.listed.OneLine := by
  refine RowIf.congr (.plain (.described (.plain (.exportMark .nil)))) ?_
  simp only [UserFunction.listed, Listed.OneLine, List.forall_mem_cons]
  tauto

theorem rowIf_variable (v : Variable) : RowIf w variableColumns v v.listed.OneLine := by
  refine RowIf.congr (.plain (.described .nil)) ?_
  simp [Variable.listed, Listed.OneLine]

theorem rowIf_output {o : Entity} (h : o.constraints.FromDocument) :
    RowIf w outputColumns o (o.listed o.name).OneLine := by
  refine RowIf.congr (.plain (.plain (.described (.bounds h .nil)))) ?_
  simp [Definition.listed, Listed.OneLine, and_assoc, Definition.description]

end Page

end TemplateDocs
