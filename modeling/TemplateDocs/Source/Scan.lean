import TemplateDocs.Failure
import TemplateDocs.Source.Finding
import TemplateDocs.Source.Line
import TemplateDocs.Text.Lines
import TemplateDocs.Text.Quoted

/-!
# Scanning a source file

The scan reads line after line. One description is kept until the next declaration, which takes it or
drops it, so that it never reaches a later one.
-/

namespace TemplateDocs.Source

open TemplateDocs.Text

/-! ## State -/

/-- Where the scan stands between two lines. -/
inductive Mode where
  | normal
  /-- Inside a comment opened on the given line. -/
  | comment (opened : Nat)
  /-- Inside a description opened on the given line; once its quotes are closed only the closing
  parenthesis is waited for. -/
  | description (opened : Nat) (parts : List String) (quotesClosed : Bool)
  deriving DecidableEq, Repr, Inhabited

/-- The state of a scan. -/
structure Scan where
  mode : Mode := .normal
  pending : String := ""
  lineNumber : Nat := 0
  found : Findings := {}
  deriving Repr, Inhabited, BEq

/-- Why a source could not be scanned. -/
inductive ScanError where
  | unclosedComment (line : Nat)
  | unclosedDescription (line : Nat)
  | unreadable (path : String)
  | notText (path : String)
  deriving DecidableEq, Repr, Inhabited

/-- The wording of a scan error. -/
def ScanError.message : ScanError → String
  | unclosedComment line => "multiline comment was not closed (opened on line " ++ toString line ++ ")"
  | unclosedDescription line =>
    "multiline description was not closed (opened on line " ++ toString line ++ ")"
  | unreadable path => "failed to read Bicep file " ++ quoted path
  | notText path => "Bicep file " ++ quoted path ++ " is not valid UTF-8"

/-- A scan error as a report. -/
def ScanError.report (e : ScanError) : Report :=
  { category := .scan, message := e.message }

/-! ## Steps -/

namespace Scan

/-- A stripped part of a description, left out if it is empty. -/
def partOf (cs : List Char) : List String :=
  let stripped := trim cs
  if stripped.isEmpty then [] else [String.ofList stripped]

/-- Whether a line ends in a closing parenthesis, blanks aside. -/
def endsInParenthesis (cs : List Char) : Bool :=
  (trimRight cs).getLast? == some ')'

/-- The description is complete and waits for its declaration. -/
def finishDescription (s : Scan) (parts : List String) : Scan :=
  { s with mode := .normal, pending := join "\n" parts }

/-- One more line of a description. -/
def continueDescription (s : Scan) (opened : Nat) (parts : List String) (quotesClosed : Bool)
    (cs : List Char) : Scan :=
  if quotesClosed then
    if endsInParenthesis cs then s.finishDescription parts else s
  else
    match cutAt? tripleQuote cs with
    | some (before, _) =>
      let parts := parts ++ partOf before
      if endsInParenthesis cs then s.finishDescription parts
      else { s with mode := .description opened parts true }
    | none => { s with mode := .description opened (parts ++ [String.ofList (trim cs)]) false }

/-- The line that opens a description may already close its quotes. -/
def startDescription (s : Scan) (cs : List Char) : Scan :=
  let opened := s.lineNumber
  if contains tripleQuote cs then
    continueDescription { s with mode := .description opened [] false } opened [] false cs
  else { s with mode := .description opened (partOf cs) false }

/-- What a line outside of comments and descriptions does to the scan. -/
def take (s : Scan) : Line → Scan
  | .silent => s
  | .opensComment => { s with mode := .comment s.lineNumber }
  | .description text => { s with pending := text }
  | .opensDescription text => s.startDescription text.toList
  | .variable name value =>
    let value := (value.map Value.text).getD .null
    { s with
      pending := ""
      found := { s.found with
        vars := s.found.vars ++ [{ name, value, description := s.pending }] } }
  | .otherDeclaration => { s with pending := "" }
  | .module name source =>
    { s with
      pending := ""
      found := { s.found with
        modules := s.found.modules ++ [{ name, source, description := s.pending }] } }
  | .resource name type =>
    { s with
      pending := ""
      found := { s.found with
        resources := s.found.resources ++ [{ name, type, description := s.pending }] } }

/-- One line without its line end. -/
def step (collectVariables : Bool) (s : Scan) (cs : List Char) : Scan :=
  let s := { s with lineNumber := s.lineNumber + 1 }
  match s.mode with
  | .comment _ => if contains ['*', '/'] cs then { s with mode := .normal } else s
  | .description opened parts quotesClosed => s.continueDescription opened parts quotesClosed cs
  | .normal => s.take (Line.ofList collectVariables cs)

/-- A line without the carriage returns and line feeds at its end. -/
def withoutLineEnd (line : String) : List Char :=
  dropEnd isFileLineEnd line.toList

/-- The state after all lines. -/
def run (collectVariables : Bool) (lines : List String) : Scan :=
  lines.foldl (fun s line => s.step collectVariables (withoutLineEnd line)) {}

/-- What was found, unless a comment or a description is still open. -/
def finish (s : Scan) : Except ScanError Findings :=
  match s.mode with
  | .normal => .ok s.found.sorted
  | .comment opened => .error (.unclosedComment opened)
  | .description opened _ _ => .error (.unclosedDescription opened)

end Scan

/-! ## Whole sources -/

/-- What a list of lines declares. -/
def scanLines (collectVariables : Bool) (lines : List String) : Except ScanError Findings :=
  (Scan.run collectVariables lines).finish

/-- What a text in memory declares. -/
def scanText (collectVariables : Bool) (text : String) : Except ScanError Findings :=
  scanLines collectVariables (Text.lines text)

/-- What the text of a file declares. -/
def scanFileText (collectVariables : Bool) (text : String) : Except ScanError Findings :=
  scanLines collectVariables (Text.fileLines text)

end TemplateDocs.Source
