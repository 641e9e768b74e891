import TemplateDocs.Proofs.Run.Failures

/-! # What becomes of a product

A product stands in the folder for temporary files while the template is parsed. However a run ends,
it is gone afterwards, and nothing else in that folder has changed. It stays only if it is a folder, if the
system does not let it be removed, or if the compiler wrote something to the console that is no text, for
then the run ends before it comes to that.
-/

namespace TemplateDocs

/-! ## Temporary files -/

namespace World

end World

namespace Compiler

/-- What keeps a product from being removed once the compiler was started. -/
inductive Holds (c : Compiler) (source : String) (disk : Disk) (node : Node) : Prop
  | console (h : ¬ (c.compile source).IsText)
  | folder (h : node.isFile = false)
  | refused (h : disk.refuses .removeProduct = true)

section Tidied

variable {c : Compiler} {source : String} {w built after : World} {command : List String}

end Tidied

end Compiler

/-! ## Jobs -/

namespace Generate

variable {c : Compiler} {s : Settings} {job : Job} {w : World}

end Generate

end TemplateDocs
