import TemplateDocs.Page.Document
import TemplateDocs.Proofs.Agreement
import TemplateDocs.Proofs.Template.Alike

/-! # The same page for templates that are alike -/

namespace TemplateDocs.Page

open List

/-! ## Lists in step -/

theorem forall₂_filter {α : Type} {R : α → α → Prop} {p : α → Bool} {xs ys : List α}
    (h : Forall₂ R xs ys) (hp : ∀ a b, R a b → p a = p b) :
    Forall₂ R (xs.filter p) (ys.filter p) := by
  refine List.rel_filter ?_ h
  intro a b hab
  simp [hp a b hab]

theorem map_eq_of_forall₂ {α β : Type} {R : α → α → Prop} {f : α → β} {xs ys : List α}
    (h : Forall₂ R xs ys) (hf : ∀ a b, R a b → f a = f b) : xs.map f = ys.map f := by
  induction h with
  | nil => rfl
  | cons hab _ ih => simp [hf _ _ hab, ih]

/-! ## Tables -/

section Tables

variable {ε α : Type} {R : α → α → Prop} {a b : α}

/-- Items that the columns of a table do not tell apart. -/
def SameCells (columns : List (Column ε α)) (a b : α) : Prop :=
  ∀ c ∈ columns, c.cell a = c.cell b

theorem SameCells.nil : SameCells ([] : List (Column ε α)) a b := by
  simp [SameCells]

theorem SameCells.cons {c : Column ε α} {columns : List (Column ε α)} (hc : c.cell a = c.cell b)
    (h : SameCells columns a b) : SameCells (c :: columns) a b :=
  List.forall_mem_cons.mpr ⟨hc, h⟩

theorem SameCells.append {columns others : List (Column ε α)} (h : SameCells columns a b)
    (h' : SameCells others a b) : SameCells (columns ++ others) a b :=
  List.forall_mem_append.mpr ⟨h, h'⟩

theorem SameCells.shown {columns : List (Column ε α)} (h : SameCells columns a b)
    (withExtras : Bool) : SameCells (Column.shown withExtras columns) a b :=
  fun c hc => h c (List.mem_of_mem_filter hc)

theorem SameCells.plain {columns : List (Col α)} {header : String} {text : α → String}
    (ht : text a = text b) (h : SameCells columns a b) :
    SameCells (plainColumn header text :: columns) a b :=
  .cons (congrArg Except.ok ht) h

theorem ofColumns_eq (title : String) (level : Nat) {columns : List (Column ε α)} {xs ys : List α}
    (h : Forall₂ R xs ys) (hcells : ∀ a b, R a b → SameCells columns a b) :
    Table.ofColumns title level columns xs = Table.ofColumns title level columns ys := by
  have hrows : (xs.mapM fun item => columns.mapM fun c => c.cell item) =
      ys.mapM fun item => columns.mapM fun c => c.cell item := by
    refine mapM_eq_of_forall₂ h fun a b hab => ?_
    have hsame : Forall₂ (fun c d : Column ε α => c.cell a = d.cell b) columns columns :=
      List.forall₂_same.mpr (hcells a b hab)
    exact mapM_eq_of_forall₂ hsame fun _ _ hcd => hcd
  unfold Table.ofColumns
  rw [hrows]

theorem tableOf_eq (withExtras : Bool) (title : String) {columns : List (Col α)} {xs ys : List α}
    (h : Forall₂ R xs ys) (hcells : ∀ a b, R a b → SameCells columns a b) :
    tableOf withExtras title columns xs = tableOf withExtras title columns ys := by
  have hempty : xs.isEmpty = ys.isEmpty := by cases h <;> rfl
  unfold tableOf
  rw [hempty, ofColumns_eq title 2 h fun a b hab => (hcells a b hab).shown withExtras]

end Tables

/-! ## Cells -/

theorem allowedValues_eq (owner : String) {c d : Constraints} (h : c.Alike d) :
    Cell.allowedValues owner c = Cell.allowedValues owner d := by
  have hallowed := h.allowedValues
  unfold Cell.allowedValues
  generalize c.allowedValues = x at hallowed
  generalize d.allowedValues = y at hallowed
  cases hallowed with
  | none => rfl
  | some hvalues =>
      have hparts := mapM_eq_of_forall₂ (f := Cell.json owner) (g := Cell.json owner) hvalues
        fun v w hvw => by simp only [Cell.json, hvw.encode_eq]
      simp only [hparts]

theorem sameCells_boundColumns {α : Type} {constraints : α → Constraints} {a b : α}
    (h : (constraints a).Alike (constraints b)) : SameCells (boundColumns constraints) a b := by
  exact .cons (congrArg Cell.bound h.minLength) (.cons (congrArg Cell.bound h.maxLength)
    (.cons (congrArg Cell.bound h.minValue) (.cons (congrArg Cell.bound h.maxValue) .nil)))

theorem SameCells.allowed {α : Type} {constraints : α → Constraints} {owner : α → String} {a b : α}
    {columns : List (Col α)} (ho : owner a = owner b) (hc : (constraints a).Alike (constraints b))
    (h : SameCells columns a b) : SameCells (allowedColumn owner constraints :: columns) a b := by
  refine .cons ?_ h
  simp only [allowedColumn, ho, allowedValues_eq (owner b) hc]

theorem type_cell_eq {a b : Definition} (h : a.Alike b) :
    Cell.type a.type a.items = Cell.type b.type b.items := by
  rw [h.type, h.items]

theorem description_cell_eq {a b : Definition} (h : a.Alike b) :
    Cell.description a.metadata = Cell.description b.metadata := by
  rw [h.metadata]

/-! ## Sections with tables -/

theorem mustGive_eq {p q : Parameter} (h : p.Alike q) : mustGive p = mustGive q := by
  unfold mustGive isRequired
  rw [h.default.isNull_eq, h.entity.definition.nullable]

theorem sameCells_parameter {p q : Parameter} (h : p.Alike q) : SameCells parameterColumns p q := by
  have hd := h.entity.definition
  have hname := h.entity.name
  have hstatus : status p.default p.nullable = status q.default q.nullable := by
    unfold status
    rw [show isRequired p.default p.nullable = isRequired q.default q.nullable from mustGive_eq h]
  have hdefault : Cell.defaultValue p.name p.default p.nullable =
      Cell.defaultValue q.name q.default q.nullable := by
    simp only [Cell.defaultValue, Cell.json, h.default.isNull_eq, h.default.encode_eq, hname,
      hd.nullable]
  refine .append ?_ (sameCells_boundColumns hd.constraints)
  refine .plain hname (.plain hstatus (.plain (type_cell_eq hd) (.plain (description_cell_eq hd) ?_)))
  exact .cons hdefault (.allowed (congrArg Cell.parameterOwner hname) hd.constraints .nil)

theorem sameCells_property (d : DataType) {p q : Entity} (h : p.Alike q) :
    SameCells (propertyColumns d) p q := by
  have hd := h.definition
  refine .append ?_ (sameCells_boundColumns hd.constraints)
  refine .plain h.name (.plain (type_cell_eq hd) (.plain (description_cell_eq hd) ?_))
  exact .allowed (by rw [h.name]) hd.constraints .nil

theorem properties_isEmpty_eq {d e : DataType} (h : d.Alike e) :
    d.properties.isEmpty = e.properties.isEmpty := by
  have hproperties := h.properties
  generalize d.properties = xs at hproperties
  generalize e.properties = ys at hproperties
  cases hproperties <;> rfl

theorem sameCells_dataType {d e : DataType} (h : d.Alike e) : SameCells dataTypeColumns d e := by
  have hd := h.entity.definition
  have hname := h.entity.name
  have hlink : propertiesLink d = propertiesLink e := by
    unfold propertiesLink
    rw [properties_isEmpty_eq h, hname]
  refine .append (.append ?_ (sameCells_boundColumns hd.constraints)) (.plain hlink .nil)
  refine .plain hname (.plain (type_cell_eq hd) (.plain (description_cell_eq hd) ?_))
  exact .cons (by simp only [exportColumn, hd.metadata]) (.allowed (by rw [hname]) hd.constraints .nil)

theorem sameCells_function {f g : UserFunction} (h : f.Alike g) : SameCells functionColumns f g := by
  refine .plain h.name (.plain (by rw [h.metadata]) (.plain (type_cell_eq h.output) ?_))
  exact .cons (by simp only [exportColumn, h.metadata]) .nil

theorem sameCells_variable {v w : Variable} (h : v.Alike w) : SameCells variableColumns v w :=
  .plain h.name (.plain (by rw [h.description]) .nil)

theorem sameCells_output {o o' : Entity} (h : o.Alike o') : SameCells outputColumns o o' := by
  have hd := h.definition
  refine .append ?_ (sameCells_boundColumns hd.constraints)
  exact .plain h.name (.plain (type_cell_eq hd) (.plain (description_cell_eq hd) .nil))

theorem propertyTable_eq (withExtras : Bool) {d e : DataType} (h : d.Alike e) :
    propertyTable withExtras d = propertyTable withExtras e := by
  have hcolumns : propertyColumns d = propertyColumns e := by
    unfold propertyColumns
    rw [h.entity.name]
  unfold propertyTable
  rw [hcolumns, h.entity.name]
  exact ofColumns_eq e.name 3 h.properties fun p q hpq => (sameCells_property e hpq).shown withExtras

theorem dataTypeTables_eq (withExtras : Bool) {ds es : List DataType}
    (h : Forall₂ DataType.Alike ds es) :
    dataTypeTables withExtras ds = dataTypeTables withExtras es := by
  have hfurther : Forall₂ DataType.Alike (ds.filter fun d => !d.properties.isEmpty)
      (es.filter fun d => !d.properties.isEmpty) :=
    forall₂_filter h fun d e hde => by rw [properties_isEmpty_eq hde]
  unfold dataTypeTables
  rw [tableOf_eq withExtras _ h fun d e hde => sameCells_dataType hde,
    mapM_eq_of_forall₂ hfurther fun d e hde => propertyTable_eq withExtras hde]

theorem tables_eq {t u : Template} (h : t.Alike u) (withExtras : Bool) (s : Section) :
    tables t withExtras s = tables u withExtras s := by
  cases s with
  | modules => simp only [tables, h.modules]
  | resources => simp only [tables, h.resources]
  | parameters => exact tableOf_eq _ _ h.parameters fun _ _ => sameCells_parameter
  | dataTypes => exact dataTypeTables_eq _ h.dataTypes
  | functions => exact tableOf_eq _ _ h.functions fun _ _ => sameCells_function
  | vars => exact tableOf_eq _ _ h.vars fun _ _ => sameCells_variable
  | outputs => exact tableOf_eq _ _ h.outputs fun _ _ => sameCells_output
  | description => rfl
  | usage => rfl

/-! ## The document -/

theorem optionalLine_eq {p q : Parameter} (h : p.Alike q) : optionalLine p = optionalLine q := by
  simp only [optionalLine, Literal.ofValue, h.entity.name, h.default.literal_eq]

theorem usageText_eq {t u : Template} (h : t.Alike u) : usageText t = usageText u := by
  have hrequired : (t.parameters.filter mustGive).map requiredLine =
      (u.parameters.filter mustGive).map requiredLine := by
    refine map_eq_of_forall₂ (forall₂_filter h.parameters fun _ _ => mustGive_eq) fun p q hpq => ?_
    simp only [requiredLine, hpq.entity.name]
  have hoptional : (t.parameters.filter fun p => !mustGive p).mapM optionalLine =
      (u.parameters.filter fun p => !mustGive p).mapM optionalLine := by
    have hothers := forall₂_filter (p := fun p => !mustGive p) h.parameters fun p q hpq => by
      rw [mustGive_eq hpq]
    exact mapM_eq_of_forall₂ hothers fun _ _ => optionalLine_eq
  unfold usageText
  simp only [hrequired, hoptional]

theorem sectionText_eq {t u : Template} (h : t.Alike u) (withExtras : Bool) (s : Section) :
    sectionText t withExtras s = sectionText u withExtras s := by
  have htables := tables_eq h withExtras s
  cases s with
  | description => simp only [sectionText, descriptionText, h.metadata]
  | usage => exact usageText_eq h
  | _ => simp only [sectionText, htables]

/-- Templates that are alike have the same page, or the same failure to render it. -/
theorem document_eq_of_alike {t u : Template} (h : t.Alike u) (requests : List Request)
    (withExtras : Bool) : document t requests withExtras = document u requests withExtras := by
  have htexts : requestText t withExtras = requestText u withExtras := by
    funext request
    cases request with
    | known s => exact sectionText_eq h withExtras s
    | unknown word => rfl
  simp only [document, htexts, h.title]

end TemplateDocs.Page
