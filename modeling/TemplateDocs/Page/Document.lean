import TemplateDocs.Page.Sections

/-!
# The document

A title and the requested sections in their order, with a blank line between parts and one line feed
at the end. Empty sections add nothing.
-/

namespace TemplateDocs.Page

/-- A requested section; a word that was not looked up stands for none. -/
inductive Request where
  | known (s : Section)
  | unknown (word : String)
  deriving DecidableEq, Repr, Inhabited

/-- The text of a requested section. -/
def requestText (t : Template) (withExtras : Bool) : Request → Except Failure String
  | .known s => sectionText t withExtras s
  | .unknown word => .error (RenderError.unknownSection word).failure

/-- The parts one after the other, with one line feed at the end. -/
def assemble (title : String) (texts : List String) : String :=
  let parts := ("# " ++ title ++ "\n") :: texts.filter (· != "")
  String.ofList (((Text.join "\n" parts).toList.reverse.dropWhile (· == '\n')).reverse ++ ['\n'])

/-- The document of a template. -/
def document (t : Template) (requests : List Request) (withExtras : Bool) :
    Except Failure String := do
  let texts ← requests.mapM (requestText t withExtras)
  return assemble t.title texts

/-- All sections. -/
def allRequests : List Request :=
  Section.all.map .known

/-- The document of a template that may be missing; without requests it has all sections. -/
def documentOf (t : Option Template) (requests : Option (List Request)) (withExtras : Bool) :
    Except Failure String :=
  match t with
  | none => .error RenderError.noTemplate.failure
  | some t => document t (requests.getD allRequests) withExtras

end TemplateDocs.Page
