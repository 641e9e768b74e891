import TemplateDocs.Proofs.Run.Files

/-! # What compiling and parsing do to the world -/

namespace TemplateDocs

namespace Run

variable {α β : Type}

theorem get_bind_run (f : World → Run α) (w : World) :
    (MonadState.get >>= f).run.run w = (f w).run.run w := rfl

theorem modify_bind_run (g : World → World) (f : PUnit → Run α) (w : World) :
    ((modify g : Run PUnit) >>= f).run.run w = (f ⟨⟩).run.run (g w) := rfl

theorem ofExcept_bind_run (r : Except Failure α) (f : α → Run β) (w : World) :
    (ofExcept r >>= f).run.run w =
      match r with
      | .error e => (.error e, w)
      | .ok a => (f a).run.run w := by
  cases r <;> rfl

end Run

/-- The world after a command was run, with the product that it left. -/
def Compiler.worldAfter (c : Compiler) (source : String) (command : List String) (w : World) :
    World :=
  let started := { w with commands := w.commands ++ [command] }
  match (c.compile source).product with
  | none => started
  | some node => started.addTemporary (c.productName source w.commands.length) node

theorem Compiler.build_run (c : Compiler) (source : String) (w : World) :
    (c.build source).run.run w =
      let name := c.productName source w.commands.length
      if (Path.ofString source).ending != BuildError.ending then
        (.error (.reported (BuildError.wrongEnding.report source)), w)
      else
        match c.command source (c.productPath name) with
        | .error e => (.error (.reported (e.report source)), w)
        | .ok command =>
          if !(c.compile source).starts then
            (.error (.reported (BuildError.notStarted.report source)),
              { w with commands := w.commands ++ [command] })
          else
            match (c.compile source).errorText with
            | .error e => (.error e, c.worldAfter source command w)
            | .ok errors =>
              if (c.compile source).exitCode == 0 then (.ok name, c.worldAfter source command w)
              else
                (.error (.reported ((BuildError.ofErrors (c.compile source).exitCode
                    errors).report source)),
                  (c.worldAfter source command w).dropTemporary (c.productPath name) name) := by
  unfold Compiler.build Compiler.worldAfter Compiler.commandFor
  dsimp only
  split
  · rfl
  · rw [Run.get_bind_run, Run.ofExcept_bind_run]
    cases c.command source (c.productPath (c.productName source w.commands.length)) with
    | error e => rfl
    | ok command =>
        dsimp only [Except.mapError]
        rw [Run.modify_bind_run]
        split
        · rfl
        · cases (c.compile source).product with
          | none =>
              dsimp only
              rw [Run.ofExcept_bind_run]
              cases (c.compile source).errorText with
              | error e => rfl
              | ok errors =>
                  dsimp only
                  split <;> rfl
          | some node =>
              dsimp only
              rw [Run.modify_bind_run, Run.ofExcept_bind_run]
              cases (c.compile source).errorText with
              | error e => rfl
              | ok errors =>
                  dsimp only
                  split <;> rfl

theorem Compiler.command_any {c : Compiler} {source target : String} {command : List String}
    (h : c.command source target = .ok command) (other : String) :
    ∃ command, c.command source other = .ok command := by
  unfold Compiler.command at h ⊢
  split at h
  · rename_i hfirst
    exact ⟨_, if_pos hfirst⟩
  · rename_i hfirst
    split at h
    · rename_i hsecond
      exact ⟨_, (if_neg hfirst).trans (if_pos hsecond)⟩
    · cases h

/-- The compiler is started for a source. -/
structure Compiler.Starts (c : Compiler) (source : String) : Prop where
  ending : (Path.ofString source).ending = BuildError.ending
  command : ∀ target, ∃ command, c.command source target = .ok command
  starts : (c.compile source).starts = true

/-- All that the compiler writes to the console is text. -/
structure Compilation.IsText (done : Compilation) : Prop where
  output : (Text.decode? done.output).isSome = true
  errors : (Text.decode? done.errors).isSome = true

theorem Compilation.exists_errorText_iff {done : Compilation} :
    (∃ errors, done.errorText = .ok errors) ↔ done.IsText := by
  unfold errorText
  split
  case h_1 _ _ houtput herrors =>
    exact iff_of_true ⟨_, rfl⟩ ⟨by rw [houtput]; rfl, by rw [herrors]; rfl⟩
  case h_2 hnot =>
    refine iff_of_false (by simp) fun htext => ?_
    obtain ⟨output, houtput⟩ := Option.isSome_iff_exists.mp htext.output
    obtain ⟨errors, herrors⟩ := Option.isSome_iff_exists.mp htext.errors
    exact hnot output errors houtput herrors

theorem Compilation.errorText_eq_error_iff {done : Compilation} {e : Failure} :
    done.errorText = .error e ↔ ¬ done.IsText ∧ e = .fault .notText := by
  rw [← exists_errorText_iff]
  unfold errorText
  split <;> simp [eq_comm]

theorem Compiler.Starts.build_run {c : Compiler} {source : String} (h : c.Starts source) (w : World) :
    ∃ command, (c.build source).run.run w =
      match (c.compile source).errorText with
      | .error e => (.error e, c.worldAfter source command w)
      | .ok errors =>
        let name := c.productName source w.commands.length
        if (c.compile source).exitCode == 0 then (.ok name, c.worldAfter source command w)
        else
          (.error (.reported ((BuildError.ofErrors (c.compile source).exitCode
              errors).report source)),
            (c.worldAfter source command w).dropTemporary (c.productPath name) name) := by
  obtain ⟨command, hcommand⟩ := h.command (c.productPath (c.productName source w.commands.length))
  refine ⟨command, ?_⟩
  rw [Compiler.build_run]
  dsimp only
  rw [if_neg (by simp [h.ending]), hcommand]
  dsimp only
  rw [if_neg (by simp [h.starts])]
  cases (c.compile source).errorText <;> rfl

theorem Compiler.Starts.build_of_not_isText {c : Compiler} {source : String} (h : c.Starts source)
    (hconsole : ¬ (c.compile source).IsText) (w : World) :
    ∃ command, (c.build source).run.run w =
      (.error (.fault .notText), c.worldAfter source command w) := by
  obtain ⟨command, hbuild⟩ := h.build_run w
  rw [Compilation.errorText_eq_error_iff.mpr ⟨hconsole, rfl⟩] at hbuild
  exact ⟨command, hbuild⟩

theorem Compiler.build_eq_ok {c : Compiler} {source name : String} {w built : World}
    (h : (c.build source).run.run w = (.ok name, built)) :
    c.Starts source ∧ (c.compile source).IsText ∧ (c.compile source).exitCode = 0 ∧
      name = c.productName source w.commands.length ∧
      ∃ command, built = c.worldAfter source command w := by
  rw [build_run] at h
  dsimp only at h
  split at h
  · cases h
  · rename_i hending
    split at h
    · cases h
    · rename_i command hcommand
      split at h
      · cases h
      · rename_i hstarts
        split at h
        · cases h
        · rename_i errors herrors
          split at h
          · rename_i hexits
            obtain ⟨hname, hbuilt⟩ := Prod.mk.inj h
            exact ⟨⟨by simpa using hending, command_any hcommand, by simpa using hstarts⟩,
              Compilation.exists_errorText_iff.mp ⟨errors, herrors⟩, by simpa using hexits,
              (Except.ok.inj hname).symm, command, hbuilt.symm⟩
          · cases h

namespace Generate

theorem parse_run (c : Compiler) (source : String) (w : World) :
    (parse c source).run.run w =
      match (c.build source).run.run w with
      | (.error e, built) => (.error e, built)
      | (.ok name, built) =>
        let parsing := Template.parse source (built.files.read source) (c.productPath name)
          (built.readTemporary name)
        (parsing.result,
          World.dropTemporary { built with warnings := built.warnings ++ parsing.warnings }
            (c.productPath name) name) := by
  unfold parse Compiler.withProduct
  rw [Run.run_bind]
  rcases (c.build source).run.run w with ⟨e | name, built⟩
  · rfl
  · rfl

end Generate

end TemplateDocs
