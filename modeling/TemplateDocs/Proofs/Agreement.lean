import Mathlib.Data.List.Perm.Basic

/-! # Computations that may fail

Two computations agree when both fail, for whatever reasons, or both succeed with related results.
-/

namespace TemplateDocs

open List

theorem bind_eq_ok_iff {ε α β : Type} {x : Except ε α} {f : α → Except ε β} {r : β} :
    x >>= f = .ok r ↔ ∃ a, x = .ok a ∧ f a = .ok r := by
  cases x with
  | error e => simp [bind, Except.bind]
  | ok a => simp [bind, Except.bind]

theorem map_eq_ok_iff {ε α β : Type} {x : Except ε α} {f : α → β} {r : β} :
    x.map f = .ok r ↔ ∃ a, x = .ok a ∧ f a = r := by
  cases x <;> simp [Except.map]

theorem exists_map_eq_ok_iff {ε α β : Type} {x : Except ε α} {f : α → β} :
    (∃ r, x.map f = .ok r) ↔ ∃ a, x = .ok a := by
  cases x <;> simp [Except.map]

theorem map_eq_error_iff {ε α β : Type} {x : Except ε α} {f : α → β} {e : ε} :
    x.map f = .error e ↔ x = .error e := by
  cases x <;> simp [Except.map]

theorem exists_eq_ok {ε α : Type} {x : Except ε α} (h : x.isOk = true) : ∃ a, x = .ok a := by
  cases x with
  | error e => cases h
  | ok a => exact ⟨a, rfl⟩

/-- Both fail, or both succeed with results that `R` relates. -/
inductive Agree {ε α β : Type} (R : α → β → Prop) : Except ε α → Except ε β → Prop where
  | failed (e e' : ε) : Agree R (.error e) (.error e')
  | done {a : α} {b : β} (h : R a b) : Agree R (.ok a) (.ok b)

section Agree

variable {ε α β γ δ : Type} {R : α → β → Prop} {S : γ → δ → Prop}

theorem Agree.of_eq {R : α → α → Prop} (hR : ∀ a, R a a) {x y : Except ε α} (h : x = y) :
    Agree R x y := by
  subst h
  cases x with
  | error e => exact .failed e e
  | ok a => exact .done (hR a)

theorem Agree.mono {R' : α → β → Prop} (hR : ∀ a b, R a b → R' a b) {x : Except ε α}
    {y : Except ε β} (h : Agree R x y) : Agree R' x y := by
  cases h with
  | failed e e' => exact .failed e e'
  | done h => exact .done (hR _ _ h)

theorem Agree.of_exists_ok_iff {x : Except ε α} {y : Except ε β}
    (h : (∃ a, x = .ok a) ↔ ∃ b, y = .ok b) : Agree (fun _ _ => True) x y := by
  cases x with
  | error e =>
      cases y with
      | error e' => exact .failed e e'
      | ok b => exact absurd (h.mpr ⟨b, rfl⟩) (by simp)
  | ok a =>
      obtain ⟨b, rfl⟩ := h.mp ⟨a, rfl⟩
      exact .done trivial

theorem Agree.bind {x : Except ε α} {y : Except ε β} {f : α → Except ε γ} {g : β → Except ε δ}
    (h : Agree R x y) (hf : ∀ a b, R a b → Agree S (f a) (g b)) : Agree S (x >>= f) (y >>= g) := by
  cases h with
  | failed e e' => exact .failed e e'
  | done h => exact hf _ _ h

theorem Agree.map {x : Except ε α} {y : Except ε β} {f : α → γ} {g : β → δ}
    (h : Agree R x y) (hf : ∀ a b, R a b → S (f a) (g b)) : Agree S (x.map f) (y.map g) := by
  cases h with
  | failed e e' => exact .failed e e'
  | done h => exact .done (hf _ _ h)

theorem Agree.comp {S : β → γ → Prop} {x : Except ε α} {y : Except ε β} {z : Except ε γ}
    (h : Agree R x y) (h' : Agree S y z) :
    Agree (fun a c => ∃ b, y = .ok b ∧ R a b ∧ S b c) x z := by
  cases h with
  | failed e e' =>
      cases h'
      exact .failed _ _
  | @done a b hab =>
      cases h' with
      | done hbc => exact .done ⟨b, rfl, hab, hbc⟩

/-- Computations that agree on equality give the same result as far as they give one. -/
theorem Agree.toOption_eq {x y : Except ε α} (h : Agree Eq x y) : x.toOption = y.toOption := by
  cases h with
  | failed => rfl
  | done h => rw [h]

/-! ## Lists -/

/-- A traversal succeeds with what each item gives. -/
theorem mapM_eq_ok_iff (f : α → Except ε β) (xs : List α) (ys : List β) :
    xs.mapM f = .ok ys ↔ Forall₂ (fun x y => f x = .ok y) xs ys := by
  induction xs generalizing ys with
  | nil => simp [pure, Except.pure, eq_comm]
  | cons x xs ih =>
      rw [List.mapM_cons, List.forall₂_cons_left_iff]
      cases hx : f x with
      | error e => simp [bind, Except.bind]
      | ok y =>
          cases hxs : xs.mapM f with
          | error e =>
              simp only [bind, Except.bind, reduceCtorEq, false_iff]
              rintro ⟨z, zs, -, hzs, -⟩
              rw [← ih, hxs] at hzs
              cases hzs
          | ok others =>
              simp only [bind, Except.bind, pure, Except.pure, Except.ok.injEq, ← ih, hxs]
              constructor
              · rintro rfl
                exact ⟨y, others, rfl, rfl, rfl⟩
              · rintro ⟨z, zs, rfl, rfl, rfl⟩
                rfl

theorem exists_of_mapM_eq_ok {f : α → Except ε β} {xs : List α} {ys : List β}
    (h : xs.mapM f = .ok ys) {x : α} (hx : x ∈ xs) : ∃ y, f x = .ok y := by
  have hrelated := (mapM_eq_ok_iff f xs ys).mp h
  obtain ⟨i, hi, rfl⟩ := List.getElem_of_mem hx
  exact ⟨_, List.Forall₂.get hrelated hi (hrelated.length_eq ▸ hi)⟩

theorem mapM_eq_mapM_id (f : α → Except ε β) (xs : List α) : xs.mapM f = (xs.map f).mapM id := by
  rw [List.mapM_map]
  rfl

/-- A traversal in which items fail for one and the same reason, or give what `g` tells. -/
theorem mapM_eq_ite {f : α → Except ε β} {g : α → β} {p : α → Prop} [DecidablePred p] {e : ε}
    {xs : List α} (h : ∀ x ∈ xs, f x = if p x then .ok (g x) else .error e) :
    xs.mapM f = if ∀ x ∈ xs, p x then .ok (xs.map g) else .error e := by
  induction xs with
  | nil => rfl
  | cons x xs ih =>
      obtain ⟨hx, hxs⟩ := List.forall_mem_cons.mp h
      rw [List.mapM_cons, hx, ih hxs]
      by_cases hp : p x
      · by_cases hps : ∀ y ∈ xs, p y
        · have hall : ∀ y ∈ x :: xs, p y := List.forall_mem_cons.mpr ⟨hp, hps⟩
          rw [if_pos hp, if_pos hps, if_pos hall]
          rfl
        · have hall : ¬ ∀ y ∈ x :: xs, p y := fun hall => hps (List.forall_mem_cons.mp hall).2
          rw [if_pos hp, if_neg hps, if_neg hall]
          rfl
      · have hall : ¬ ∀ y ∈ x :: xs, p y := fun hall => hp (List.forall_mem_cons.mp hall).1
        rw [if_neg hp, if_neg hall]
        rfl

/-- A traversal fails where the first item fails. -/
theorem mapM_eq_error_iff {f : α → Except ε β} {xs : List α} {e : ε} :
    xs.mapM f = .error e ↔ ∃ before x after, xs = before ++ x :: after ∧
      (∀ b ∈ before, ∃ y, f b = .ok y) ∧ f x = .error e := by
  constructor
  · intro h
    induction xs with
    | nil => cases h
    | cons x xs ih =>
        rw [List.mapM_cons] at h
        cases hx : f x with
        | error e' =>
            rw [hx] at h
            cases h
            exact ⟨[], x, xs, rfl, by simp, hx⟩
        | ok y =>
            rw [hx] at h
            cases hxs : xs.mapM f with
            | ok ys =>
                rw [hxs] at h
                cases h
            | error e' =>
                rw [hxs] at h
                cases h
                obtain ⟨before, z, after, rfl, hbefore, hz⟩ := ih hxs
                exact ⟨x :: before, z, after, rfl, List.forall_mem_cons.mpr ⟨⟨y, hx⟩, hbefore⟩, hz⟩
  · rintro ⟨before, x, after, rfl, hbefore, hx⟩
    induction before with
    | nil =>
        rw [List.nil_append, List.mapM_cons, hx]
        rfl
    | cons b before ih =>
        obtain ⟨⟨y, hy⟩, hrest⟩ := List.forall_mem_cons.mp hbefore
        rw [List.cons_append, List.mapM_cons, hy, ih hrest]
        rfl

/-- Each item of a list is related to one of the list that it corresponds to. -/
theorem exists_of_mem_forall₂ {xs : List α} {ys : List β} (h : Forall₂ R xs ys) {y : β}
    (hy : y ∈ ys) : ∃ x ∈ xs, R x y := by
  induction h with
  | nil => cases hy
  | @cons x z xs ys hxz _ ih =>
      rcases List.mem_cons.mp hy with rfl | hy
      · exact ⟨x, List.mem_cons_self, hxz⟩
      · obtain ⟨x', hx', hR⟩ := ih hy
        exact ⟨x', List.mem_cons_of_mem x hx', hR⟩

theorem exists_mapM_eq_ok {f : α → Except ε β} {xs : List α}
    (h : ∀ x ∈ xs, ∃ y, f x = .ok y ∧ R x y) : ∃ ys, xs.mapM f = .ok ys ∧ Forall₂ R xs ys := by
  induction xs with
  | nil => exact ⟨[], rfl, .nil⟩
  | cons x xs ih =>
      obtain ⟨y, hy, hxy⟩ := h x List.mem_cons_self
      obtain ⟨ys, hys, hrest⟩ := ih fun z hz => h z (List.mem_cons_of_mem x hz)
      refine ⟨y :: ys, ?_, .cons hxy hrest⟩
      rw [List.mapM_cons, hy, hys]
      rfl

theorem exists_mapM_eq_ok_iff {f : α → Except ε β} {xs : List α} :
    (∃ ys, xs.mapM f = .ok ys) ↔ ∀ x ∈ xs, ∃ y, f x = .ok y := by
  refine ⟨fun ⟨ys, hys⟩ x hx => exists_of_mapM_eq_ok hys hx, fun h => ?_⟩
  obtain ⟨ys, hys, -⟩ := exists_mapM_eq_ok (R := fun _ _ => True) fun x hx =>
    (h x hx).imp fun y hy => ⟨hy, trivial⟩
  exact ⟨ys, hys⟩

theorem Agree.mapM {xs : List α} {ys : List β} {f : α → Except ε γ} {g : β → Except ε δ}
    (h : Forall₂ R xs ys) (hf : ∀ a b, R a b → Agree S (f a) (g b)) :
    Agree (Forall₂ S) (xs.mapM f) (ys.mapM g) := by
  induction h with
  | nil => exact .done .nil
  | cons hab _ ih =>
      rw [List.mapM_cons, List.mapM_cons]
      refine (hf _ _ hab).bind ?_
      intro c d hcd
      refine ih.bind ?_
      intro cs ds hcds
      exact .done (.cons hcd hcds)

/-- The order of the items decides which failure comes first, but not whether there is one. -/
theorem Agree.mapM_perm {xs ys : List α} (f : α → Except ε β) (h : xs ~ ys) :
    Agree (· ~ ·) (xs.mapM f) (ys.mapM f) := by
  -- What one order gives, the other gives as well.
  have hstep : ∀ {us vs : List α}, us ~ vs → ∀ ds, vs.mapM f = .ok ds →
      ∃ cs, us.mapM f = .ok cs ∧ cs ~ ds := by
    intro us vs huv ds hds
    obtain ⟨cs, hcs, hperm⟩ := List.perm_comp_forall₂ huv ((mapM_eq_ok_iff f vs ds).mp hds)
    exact ⟨cs, (mapM_eq_ok_iff f us cs).mpr hcs, hperm⟩
  cases hys : ys.mapM f with
  | ok ds =>
      obtain ⟨cs, hcs, hperm⟩ := hstep h ds hys
      rw [hcs]
      exact .done hperm
  | error e' =>
      cases hxs : xs.mapM f with
      | error e => exact .failed e e'
      | ok cs =>
          obtain ⟨ds, hds, -⟩ := hstep h.symm cs hxs
          rw [hds] at hys
          cases hys

/-- Traversals of corresponding lists give the same when each pair of items does. -/
theorem mapM_eq_of_forall₂ {xs : List α} {ys : List β} {f : α → Except ε γ} {g : β → Except ε γ}
    (h : Forall₂ R xs ys) (hf : ∀ a b, R a b → f a = g b) : xs.mapM f = ys.mapM g := by
  induction h with
  | nil => rfl
  | cons hab _ ih => rw [List.mapM_cons, List.mapM_cons, hf _ _ hab, ih]

end Agree

end TemplateDocs
