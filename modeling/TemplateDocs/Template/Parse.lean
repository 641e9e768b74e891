import TemplateDocs.Files.Tree
import TemplateDocs.Json.Reader
import TemplateDocs.Outcome
import TemplateDocs.Source.Scan
import TemplateDocs.Template.Decode
import TemplateDocs.Template.Merge
import TemplateDocs.Text.Utf8

/-!
# Parsing a template

A template is parsed from its source file and its compiled form together. The source is read first,
so that an error in it wins over one in the compiled form.
-/

namespace TemplateDocs

/-- What reading a file gave. -/
abbrev Contents := Except SystemError ByteArray

/-- What a source file declares. -/
def Findings.ofFile (collectVariables : Bool) (name : String) (contents : Contents) :
    Except Failure Findings :=
  let failed (e : Source.ScanError) : Except Failure Findings := .error (.reported e.report)
  match contents with
  | .error e => ((e.fault?.map Failure.fault).map .error).getD (failed (.unreadable name))
  | .ok bytes =>
    match Text.decode? bytes with
    | none => failed (.notText name)
    | some text =>
      match Source.scanFileText collectVariables text with
      | .error e => failed e
      | .ok found => .ok found

/-- The document of a compiled template, which has to be an object. -/
def compiledDocument (name : String) (contents : Contents) : Except Failure Json :=
  let failed (e : DecodeError) : Except Failure Json := .error e.failure
  match contents with
  | .error e => ((e.fault?.map Failure.fault).map .error).getD (failed (.unreadable name))
  | .ok bytes =>
    match Text.decode? bytes with
    | none => .error (.fault .notText)
    | some text =>
      match Json.read text with
      | .error e =>
        match e.fault? with
        | some fault => .error (.fault fault)
        | none => failed (.notJson name)
      | .ok doc =>
        match Decode.object "template" doc with
        | .error e => failed e
        | .ok _ => .ok doc

/-- A template decoded from a document and merged with what was found in its source. -/
def Template.ofDocument (name : String) (found : Findings) (doc : Json) : Outcome Template :=
  let decoding := Template.decode { fileName := name } doc
  { warnings := decoding.warnings
    result :=
      match decoding.result with
      | .error e => .error e.failure
      | .ok t => .ok (t.merge found) }

/-- A template from its source file and its compiled form. -/
def Template.parse (sourceName : String) (source : Contents) (compiledName : String)
    (compiled : Contents) : Outcome Template := do
  let found ← .ofExcept (Findings.ofFile true sourceName source)
  let doc ← .ofExcept (compiledDocument compiledName compiled)
  Template.ofDocument sourceName found doc

end TemplateDocs
