import TemplateDocs.Text.Quoted

/-!
# Warnings

What a run tells its user without failing.
-/

namespace TemplateDocs

/-- Something worth telling that does not stop a run. -/
inductive Warning where
  /-- A variable of the compiled template that no source can have declared. -/
  | skippedVariable (name : String)
  | unknownSetting (key : String)
  | badWorkerCount
  | leftFile (path : String)
  deriving DecidableEq, Repr, Inhabited

/-- The wording of a warning. -/
def Warning.message : Warning → String
  | skippedVariable name =>
    "Skipping unrecognized compiler-generated variable " ++ Text.quoted name
  | unknownSetting key => "Ignoring unknown configuration key: " ++ key
  | badWorkerCount => "Invalid BICEP_DOCS_MAX_WORKERS value, using default"
  | leftFile path => "Could not remove temporary file " ++ path

end TemplateDocs
