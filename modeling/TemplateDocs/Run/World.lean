import TemplateDocs.Files.Sync
import TemplateDocs.Outcome

/-!
# The world of a run

A run reads and changes a tree of files and a folder for temporary files, as far as the disk lets it.
It keeps account of the commands it runs, the warnings it gives and the documents it has brought in
step, also when it fails.
-/

namespace TemplateDocs

/-- A document and what became of it. -/
structure Synced where
  path : String
  status : SyncStatus
  deriving DecidableEq, Repr, Inhabited

/-- The files that a run works on, and what it has done so far. -/
structure World where
  files : Tree := .empty
  disk : Disk := {}
  /-- The entries of the folder for temporary files, the latest first. -/
  temporary : List (String × Node) := []
  commands : List (List String) := []
  warnings : List Warning := []
  synced : List Synced := []

namespace World

/-- Adds an entry to the folder for temporary files. -/
def addTemporary (w : World) (name : String) (node : Node) : World :=
  { w with temporary := (name, node) :: w.temporary }

/-- Removes a temporary file. A folder cannot be removed so. The path of what stays is told. -/
def dropTemporary (w : World) (path name : String) : World :=
  match entryOf? name w.temporary with
  | none => w
  | some node =>
    if node.isFile && !w.disk.refuses .removeProduct then
      { w with temporary := w.temporary.eraseP fun e => e.1 == name }
    else { w with warnings := w.warnings ++ [.leftFile path] }

/-- The bytes of a temporary file. -/
def readTemporary (w : World) (name : String) : Except SystemError ByteArray :=
  match entryOf? name w.temporary with
  | none => .error .notFound
  | some (.file bytes) => .ok bytes
  | some (.folder _) => .error .isFolder

end World

/-- A part of a run: it changes the world and gives a result or fails. -/
abbrev Run (α : Type) := ExceptT Failure (StateM World) α

namespace Run

/-- A result that is known already. -/
def ofExcept {α : Type} (r : Except Failure α) : Run α :=
  ExceptT.mk (pure r)

/-- A result with warnings. -/
def ofOutcome {α : Type} (o : Outcome α) : Run α := do
  modify fun w => { w with warnings := w.warnings ++ o.warnings }
  ofExcept o.result

/-- Ends in a reported failure. -/
def report {α : Type} (r : Report) : Run α :=
  throw (.reported r)

/-- Changes the world after a part of a run, whether that fails or not. -/
def andFinally {α : Type} (part : Run α) (last : World → World) : Run α :=
  ExceptT.mk do
    let r ← part.run
    modify last
    return r

/-- Names the file being processed in the failures of a part of a run. -/
def processing {α : Type} (file : String) (part : Run α) : Run α :=
  ExceptT.mk do
    let r ← part.run
    return r.mapError fun e => e.attach file

end Run

end TemplateDocs
