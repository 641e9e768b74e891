import TemplateDocs.Proofs.Template.Arrangement
import TemplateDocs.Proofs.Template.Shape

/-! # Which variables are documented

A compiled document lists variables in two places, under their names and as loops in the list `copy`. A
name with a dollar sign in front is one that the compiler has put in. Such a name is left out among the
first and kept among the second, so the documented variables are those of the source exactly if no loop
has such a name.
-/

namespace TemplateDocs

open List

/-- The compiler has put the variable in: no name in a source starts with a dollar sign. -/
def Variable.IsInjected (v : Variable) : Prop :=
  ['$'] <+: v.name.toList

instance (v : Variable) : Decidable v.IsInjected :=
  inferInstanceAs (Decidable (['$'] <+: v.name.toList))

namespace Json

/-! ## The two places -/

/-- Whether the entry is the list of loops. A value of another kind under the key `copy` is a variable. -/
def holdsLoops (e : String × Json) : Bool :=
  e.1 == "copy" && e.2.items?.isSome

/-- The variables listed under their names. -/
def keyedVariables (doc : Json) : List Variable :=
  ((doc.entriesAt "variables").filter fun e => !holdsLoops e).map fun e =>
    { name := e.1, value := Value.ofJson e.2 }

/-- The loops that make variables. -/
def loops (doc : Json) : List Json :=
  ((doc.entriesAt "variables").filter holdsLoops).flatMap fun e => e.2.items?.getD []

/-- The variables that loops make. -/
def loopVariables (doc : Json) : List Variable :=
  doc.loops.map loopVariable

theorem holdsLoops_iff {e : String × Json} :
    holdsLoops e = true ↔ ∃ items, e = ("copy", .array items) := by
  obtain ⟨key, v⟩ := e
  cases v with
  | array items => simp [holdsLoops, items?]
  | _ => simp [holdsLoops, items?]

theorem variablesAt_of_loops {e : String × Json} (h : holdsLoops e = true) :
    variablesAt e.1 e.2 = (e.2.items?.getD []).map loopVariable := by
  obtain ⟨items, rfl⟩ := holdsLoops_iff.mp h
  rfl

theorem variablesAt_of_keyed {e : String × Json} (h : holdsLoops e = false) :
    variablesAt e.1 e.2 =
      [({ name := e.1, value := Value.ofJson e.2 } : Variable)].filter fun v => !decide v.IsInjected := by
  have hdollar : ['$'] <+: e.1.toList ↔ e.1.toList.head? = some '$' := by
    rw [List.singleton_prefix_iff_head?_eq_some]
  unfold variablesAt
  split
  case h_1 items hvalue hkey =>
    rw [← Bool.not_eq_true, holdsLoops_iff] at h
    exact absurd ⟨items, Prod.ext hkey hvalue⟩ h
  case h_2 => by_cases hname : e.1.toList.head? = some '$' <;> simp [Variable.IsInjected, hdollar, hname]

/-- The variables of a document are those of its two places, injected names left out in the first. -/
theorem declaredVariables_perm (doc : Json) :
    doc.declaredVariables ~
      (doc.keyedVariables.filter fun v => !decide v.IsInjected) ++ doc.loopVariables := by
  have hkeyed (entries : List (String × Json)) (h : ∀ e ∈ entries, holdsLoops e = false) :
      (entries.flatMap fun e => variablesAt e.1 e.2) =
        (entries.map fun e => ({ name := e.1, value := Value.ofJson e.2 } : Variable)).filter
          fun v => !decide v.IsInjected := by
    induction entries with
    | nil => rfl
    | cons e entries ih =>
        have hrest := ih fun f hf => h f (List.mem_cons_of_mem e hf)
        rw [List.flatMap_cons, variablesAt_of_keyed (h e List.mem_cons_self), hrest, ← List.filter_append,
          List.map_cons, List.singleton_append]
  have hloops (entries : List (String × Json)) (h : ∀ e ∈ entries, holdsLoops e = true) :
      (entries.flatMap fun e => variablesAt e.1 e.2) =
        (entries.flatMap fun e => e.2.items?.getD []).map loopVariable := by
    rw [List.map_flatMap]
    exact List.flatMap_congr fun e he => variablesAt_of_loops (h e he)
  have hsplit := (List.filter_append_perm (fun e => !holdsLoops e) (doc.entriesAt "variables")).symm
  refine (hsplit.flatMap_right _).trans (.of_eq ?_)
  rw [List.flatMap_append, hkeyed _ fun e he => by simpa using (List.mem_filter.mp he).2,
    hloops _ fun e he => by simpa using (List.mem_filter.mp he).2]
  simp [keyedVariables, loopVariables, loops]

theorem IsTemplate.loop_name {doc : Json} (h : doc.IsTemplate) {l : Json} (hl : l ∈ doc.loops) :
    IsText (l.get "name") := by
  obtain ⟨e, he, hmem⟩ := List.mem_flatMap.mp hl
  obtain ⟨hentry, hholds⟩ := List.mem_filter.mp he
  obtain ⟨items, rfl⟩ := holdsLoops_iff.mp hholds
  rcases h.vars with hnull | ⟨entries, hentries, hall⟩
  · rw [entriesAt, hnull] at hentry
    cases hentry
  · rw [entriesAt, hentries] at hentry
    exact (hall items hentry l hmem).name

end Json

/-! ## What is documented -/

namespace Decode

theorem decode_vars_perm {name : String} {doc : Json} {u : Template}
    (h : (Template.decode { fileName := name } doc).result = .ok u) :
    u.vars ~ (doc.keyedVariables.filter fun v => !decide v.IsInjected) ++ doc.loopVariables := by
  obtain ⟨parameters, dataTypes, outputs, functions, metadata, -, -, -, -, rfl⟩ := decode_eq_ok h
  exact (sortByName_perm Variable.name doc.declaredVariables).trans doc.declaredVariables_perm

/-- A decoded template has one variable for each name without a dollar sign in front and one for each
loop, with the value found there, and no others. It is free of injected variables, and has all others
once, exactly if no loop has an injected name. -/
theorem decode_vars_documented_iff {name : String} {doc : Json} {u : Template}
    (h : (Template.decode { fileName := name } doc).result = .ok u) :
    u.vars ~ (doc.keyedVariables.filter fun v => !decide v.IsInjected) ++ doc.loopVariables ∧
    (∀ l ∈ doc.loops, (l.get "name").IsText) ∧
    ((u.vars ~ (doc.keyedVariables ++ doc.loopVariables).filter fun v => !decide v.IsInjected) ∧
        (∀ v ∈ u.vars, ¬ v.IsInjected) ↔
      ∀ v ∈ doc.loopVariables, ¬ v.IsInjected) := by
  have hvars := decode_vars_perm h
  have htemplate : doc.IsTemplate := ((decode_checks { fileName := name } doc).of_ok h).1
  refine ⟨hvars, fun l hl => htemplate.loop_name hl, ?_, ?_⟩
  · rintro ⟨-, hnone⟩ v hv
    exact hnone v (hvars.mem_iff.mpr (List.mem_append_right _ hv))
  · intro hloops
    have hkept : (doc.loopVariables.filter fun v => !decide v.IsInjected) = doc.loopVariables :=
      List.filter_eq_self.mpr fun v hv => by simpa using hloops v hv
    refine ⟨?_, fun v hv => ?_⟩
    · rw [List.filter_append, hkept]
      exact hvars
    · rcases List.mem_append.mp (hvars.mem_iff.mp hv) with hv | hv
      · simpa using (List.mem_filter.mp hv).2
      · exact hloops v hv

/-- A reserved name, another one with a dollar sign, a name, and a loop. -/
def mixedVariables : Json :=
  .object [("variables", .object [("$fxv#0", .text "t"), ("$v", .null), ("a", .int 1),
    ("copy", .array [.object [("name", .text "b"), ("input", .int 2)]])])]

theorem decode_vars_documented_iff_mixed :
    ∃ u, (Template.decode { fileName := "main.bicep" } mixedVariables).result = .ok u ∧
      (u.vars ~ [{ name := "a", value := .int 1 }, { name := "b", value := .int 2 }]) ∧
      ∀ v ∈ u.vars, ¬ v.IsInjected := by
  obtain ⟨u, hu⟩ := exists_eq_ok
    (x := (Template.decode { fileName := "main.bicep" } mixedVariables).result) (by decide +kernel)
  have hloops : mixedVariables.loopVariables = [{ name := "b", value := .int 2 }] := rfl
  obtain ⟨hvars, -, hiff⟩ := decode_vars_documented_iff hu
  refine ⟨u, hu, hvars, (hiff.mpr ?_).2⟩
  rw [hloops]
  decide

/-- A loop with an injected name is documented. -/
theorem decode_keeps_injected_loop :
    ∃ u, (Template.decode {} (.object [("variables", .object [("copy", .array
        [.object [("name", .text "$x"), ("input", .int 1)]])])])).result = .ok u ∧
      u.vars = [{ name := "$x", value := .int 1 }] ∧
      Variable.IsInjected { name := "$x", value := .int 1 } := by
  obtain ⟨u, hu⟩ := exists_eq_ok (x := (Template.decode {} (.object [("variables", .object [("copy",
    .array [.object [("name", .text "$x"), ("input", .int 1)]])])])).result) (by decide +kernel)
  exact ⟨u, hu, List.perm_singleton.mp (decode_vars_perm hu), by decide⟩

end Decode

end TemplateDocs
