import TemplateDocs.Proofs.Files.Draft
import TemplateDocs.Run.Generate

/-! # What a failed run leaves of the files

Compiling and parsing a template touch no file below the working directory, and rendering touches
none at all. What a failed run leaves is what bringing the document in step leaves.
-/

namespace TemplateDocs

/-! ## Parts of a run that keep the files -/

/-- The part changes neither the files nor the disk, whether it fails or not. -/
def Run.Keeps {α : Type} (part : Run α) : Prop :=
  ∀ w, (part.run.run w).2.files = w.files ∧ (part.run.run w).2.disk = w.disk

namespace Run

variable {α β : Type}

theorem run_bind (x : Run α) (f : α → Run β) (w : World) :
    (x >>= f).run.run w =
      match x.run.run w with
      | (.error e, after) => (.error e, after)
      | (.ok a, after) => (f a).run.run after := by
  rw [ExceptT.run_bind, StateT.run_bind]
  rcases x.run.run w with ⟨e | a, after⟩ <;> rfl

theorem processing_run (file : String) (part : Run α) (w : World) :
    (processing file part).run.run w =
      ((part.run.run w).1.mapError fun e => e.attach file, (part.run.run w).2) := rfl

theorem Keeps.bind {x : Run α} {f : α → Run β} (hx : Keeps x) (hf : ∀ a, Keeps (f a)) :
    Keeps (x >>= f) := by
  intro w
  rw [run_bind]
  have hbefore := hx w
  rcases h : x.run.run w with ⟨e | a, after⟩
  · rw [h] at hbefore
    exact hbefore
  · rw [h] at hbefore
    have hafter := hf a after
    exact ⟨hafter.1.trans hbefore.1, hafter.2.trans hbefore.2⟩

theorem Keeps.pure (a : α) : Keeps (Pure.pure a : Run α) :=
  fun _ => ⟨rfl, rfl⟩

theorem Keeps.get : Keeps (MonadState.get : Run World) :=
  fun _ => ⟨rfl, rfl⟩

theorem Keeps.ofExcept (r : Except Failure α) : Keeps (ofExcept r) :=
  fun _ => ⟨rfl, rfl⟩

theorem Keeps.report (r : Report) : Keeps (report r : Run α) :=
  fun _ => ⟨rfl, rfl⟩

theorem Keeps.modify {f : World → World} (hf : ∀ w, (f w).files = w.files ∧ (f w).disk = w.disk) :
    Keeps (modify f : Run PUnit) :=
  hf

theorem Keeps.ofOutcome (o : Outcome α) : Keeps (ofOutcome o) :=
  (Keeps.modify fun _ => ⟨rfl, rfl⟩).bind fun _ => Keeps.ofExcept o.result

theorem Keeps.andFinally {part : Run α} (h : Keeps part) {last : World → World}
    (hlast : ∀ w, (last w).files = w.files ∧ (last w).disk = w.disk) : Keeps (part.andFinally last) := by
  intro w
  have hafter := hlast (part.run.run w).2
  exact ⟨hafter.1.trans (h w).1, hafter.2.trans (h w).2⟩

end Run

theorem dropTemporary_keeps (w : World) (path name : String) :
    (w.dropTemporary path name).files = w.files ∧ (w.dropTemporary path name).disk = w.disk := by
  unfold World.dropTemporary
  split
  · exact ⟨rfl, rfl⟩
  · split <;> exact ⟨rfl, rfl⟩

theorem dropTemporary_commands (w : World) (path name : String) :
    (w.dropTemporary path name).commands = w.commands := by
  unfold World.dropTemporary
  split
  · rfl
  · split <;> rfl

theorem Compiler.build_keeps (c : Compiler) (source : String) : (c.build source).Keeps := by
  unfold Compiler.build
  split
  · exact Run.Keeps.report _
  · refine Run.Keeps.bind Run.Keeps.get fun w => ?_
    refine Run.Keeps.bind (Run.Keeps.ofExcept _) fun command => ?_
    refine Run.Keeps.bind (Run.Keeps.modify fun _ => ⟨rfl, rfl⟩) fun _ => ?_
    dsimp only
    split
    · exact Run.Keeps.report _
    · have hend : ∀ name, Run.Keeps (do
          let errors ← Run.ofExcept (c.compile source).errorText
          if (c.compile source).exitCode == 0 then Pure.pure name
          else do
            modify fun w => w.dropTemporary (c.productPath name) name
            Run.report ((BuildError.ofErrors (c.compile source).exitCode errors).report source)) := by
        intro name
        refine Run.Keeps.bind (Run.Keeps.ofExcept _) fun errors => ?_
        split
        · exact Run.Keeps.pure name
        · refine Run.Keeps.bind (Run.Keeps.modify fun w => dropTemporary_keeps w _ _) fun _ => ?_
          exact Run.Keeps.report _
      split
      · exact hend _
      · refine Run.Keeps.bind (Run.Keeps.modify fun _ => ⟨rfl, rfl⟩) fun _ => ?_
        exact hend _

theorem Generate.parse_keeps (c : Compiler) (source : String) : (Generate.parse c source).Keeps := by
  unfold Generate.parse Compiler.withProduct
  refine Run.Keeps.bind (c.build_keeps source) fun name => ?_
  refine Run.Keeps.andFinally ?_ fun w => dropTemporary_keeps w _ _
  exact Run.Keeps.bind Run.Keeps.get fun w => Run.Keeps.ofOutcome _

/-! ## Failures -/

namespace Generate

theorem document_run (s : Settings) (target : String) (t : Template) (w : World) :
    (document s target t).run.run w =
      match page s t with
      | .error e => (.error e, w)
      | .ok text =>
        let (status, files) := w.files.sync target text none w.disk
        (status, { w with files }) := by
  unfold document
  rw [Run.run_bind]
  cases page s t with
  | error e => rfl
  | ok text => rfl

/-- What a run renders for a job. -/
def Renders (c : Compiler) (s : Settings) (job : Job) (w : World) (text : String) : Prop :=
  ∃ t, ((parse c job.source.text).run.run w).1 = .ok t ∧ page s t = .ok text

end Generate

end TemplateDocs
