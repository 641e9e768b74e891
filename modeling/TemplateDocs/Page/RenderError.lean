import TemplateDocs.Failure
import TemplateDocs.Text.Quoted

/-!
# Why a page could not be rendered
-/

namespace TemplateDocs

/-- Why a page could not be rendered. -/
inductive RenderError where
  | noTemplate
  | unknownSection (word : String)
  /-- A value that JSON cannot hold. -/
  | unencodable (owner : String)
  /-- A value of a kind that has no literal. -/
  | unsupported (owner kind : String)
  /-- A mapping with a key that is no text. -/
  | otherKey (owner key : String)
  deriving DecidableEq, Repr, Inhabited

namespace RenderError

/-- The wording of a rendering error. -/
def message : RenderError → String
  | noTemplate => "invalid template (None)"
  | unknownSection word => "invalid section: " ++ Text.quoted word
  | unencodable owner => "failed to encode value of " ++ owner
  | unsupported owner kind => "failed to encode value of " ++ owner ++ ": unsupported type " ++ kind
  | otherKey owner key => "failed to encode value of " ++ owner ++ ": non-string key " ++ key

/-- A rendering error as a failure. -/
def failure (e : RenderError) : Failure :=
  .reported { category := .render, message := e.message }

end RenderError

end TemplateDocs
