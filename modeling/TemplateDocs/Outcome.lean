import TemplateDocs.Failure
import TemplateDocs.Warning

/-!
# Outcomes

An outcome is a result, or why there is none, together with the warnings given on the way to it.
-/

namespace TemplateDocs

/-- A result and the warnings given on the way to it. -/
structure Outcome (α : Type) where
  warnings : List Warning := []
  result : Except Failure α

namespace Outcome

/-- A result without warnings. -/
def ofExcept {α : Type} (result : Except Failure α) : Outcome α :=
  { result }

/-- Goes on with a result; warnings are kept in their order, also before a failure. -/
def andThen {α β : Type} (o : Outcome α) (next : α → Outcome β) : Outcome β :=
  match o.result with
  | .error e => { warnings := o.warnings, result := .error e }
  | .ok a =>
    let after := next a
    { warnings := o.warnings ++ after.warnings, result := after.result }

instance : Monad Outcome where
  pure a := { result := .ok a }
  bind := andThen

/-- Ends without a result. -/
def fail {α : Type} (e : Failure) : Outcome α :=
  { result := .error e }

/-- Gives a warning. -/
def warn (w : Warning) : Outcome Unit :=
  { warnings := [w], result := .ok () }

end Outcome

end TemplateDocs
