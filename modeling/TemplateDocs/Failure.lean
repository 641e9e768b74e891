/-!
# Failures

A report says at which stage a run failed, what went wrong, and, once known, in which file. A fault is
a failure that no stage reports.
-/

namespace TemplateDocs

/-- The stage that a failure comes from. -/
inductive Category where
  | input
  | externalTool
  | scan
  | decode
  | render
  | fileIo
  | configuration
  deriving DecidableEq, Repr, Inhabited

/-- The name of a stage. -/
def Category.name : Category → String
  | input => "INPUT"
  | externalTool => "EXTERNAL_TOOL"
  | scan => "SCAN"
  | decode => "DECODE"
  | render => "RENDER"
  | fileIo => "FILE_IO"
  | configuration => "CONFIGURATION"

/-- What went wrong, at which stage, and in which file. -/
structure Report where
  category : Category
  message : String
  file : Option String := none
  deriving DecidableEq, Repr, Inhabited

namespace Report

/-- Names the file being processed unless one is named already. -/
def attach (report : Report) (file : String) : Report :=
  match report.file with
  | some _ => report
  | none => { report with file := some file }

/-- The report as one message; an empty file name is left out. -/
def text (report : Report) : String :=
  match report.file with
  | none => report.message
  | some file =>
    if file == "" then report.message else "error processing " ++ file ++ ": " ++ report.message

end Report

/-- A failure that no stage reports. -/
inductive Fault where
  /-- Bytes that have to be text are not. -/
  | notText
  /-- A text that has to become bytes holds what no bytes stand for. -/
  | noBytes
  /-- A value of a kind that cannot be used where it stands. -/
  | wrongKind
  /-- A value of the right kind that is out of range. -/
  | wrongValue
  /-- Something that is not there or cannot be changed. -/
  | noSuchPart
  /-- A word that stands for nothing. -/
  | noSuchKey
  /-- A text that ends before its first character. -/
  | noSuchItem
  /-- A number that is too large for its kind. -/
  | tooLarge
  /-- Values inside of values beyond measure. -/
  | tooDeep
  /-- A file that has to be there is not. -/
  | noSuchFile
  /-- The system refused a request. -/
  | system
  /-- The caller broke off. -/
  | interrupted
  deriving DecidableEq, Repr, Inhabited

/-- Why a run ended without a result. -/
inductive Failure where
  | reported (report : Report)
  | fault (fault : Fault)
  deriving DecidableEq, Repr, Inhabited

/-- Names the file being processed in a report; a fault stays as it is. -/
def Failure.attach (failure : Failure) (file : String) : Failure :=
  match failure with
  | reported report => reported (report.attach file)
  | fault f => fault f

end TemplateDocs
