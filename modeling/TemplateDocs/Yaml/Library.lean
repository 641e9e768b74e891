import TemplateDocs.Settings.File
import TemplateDocs.Yaml.Reader
import TemplateDocs.Yaml.Writer

/-!
# A library for YAML
-/

namespace TemplateDocs.Yaml

/-- The fault of a reading error, if it is one. -/
def ReadError.fault? : ReadError → Option Fault
  | fault f => some f
  | malformed | cutShort => none

/-- The reader and the writer as a library. -/
def library : Settings.YamlLibrary where
  load bytes := (read (.ofBytes bytes)).mapError ReadError.fault?
  dump mapping := .ok (write mapping)

end TemplateDocs.Yaml
