import TemplateDocs.Failure
import TemplateDocs.Files.Tree
import TemplateDocs.Text.Lines
import TemplateDocs.Text.Quoted
import TemplateDocs.Text.Utf8

/-!
# Keeping a file in step with a text

A file is written only when it does not already hold the text, line ends aside, and then as a whole,
through a draft next to it. When the system refuses, the draft is removed, unless the system refuses
that too; when the text has no bytes, it stays.
-/

namespace TemplateDocs

/-! ## Results -/

/-- What became of a file. -/
inductive SyncStatus where
  | created
  | updated
  | unchanged
  deriving DecidableEq, Repr, Inhabited

/-- The word for what became of a file. -/
def SyncStatus.word : SyncStatus → String
  | created => "created"
  | updated => "updated"
  | unchanged => "unchanged"

/-- What is told about a file. -/
def SyncStatus.message (status : SyncStatus) (name : String) : String :=
  match status with
  | created => "Created " ++ name
  | updated => "Updated " ++ name
  | unchanged => "No changes to " ++ name

/-- Why a file could not be kept in step. -/
inductive FileError where
  | isFolder (name : String)
  | stat (name : String)
  | read (name : String)
  | write (name : String)
  deriving DecidableEq, Repr, Inhabited

namespace FileError

/-- The wording of a file error. -/
def message : FileError → String
  | isFolder name => "output " ++ Text.quoted name ++ " is a directory"
  | stat name => "failed to stat file " ++ Text.quoted name
  | read name => "failed to read file " ++ Text.quoted name
  | write name => "failed to write file " ++ Text.quoted name

/-- A file error as a failure. -/
def failure (e : FileError) : Failure :=
  .reported { category := .fileIo, message := e.message }

end FileError

/-! ## The system -/

/-- What a run asks of the system. -/
inductive Access where
  | inspect
  | read
  | openDraft
  | fillDraft
  | replace
  | removeDraft
  /-- To remove what the compiler has written. -/
  | removeProduct
  deriving DecidableEq, Repr, Inhabited

/-- What tells a draft from all other files: a number that is drawn for it, in hexadecimal digits. -/
structure DraftTag where
  digits : String
  length_digits : digits.length = 32
  isHex : ∀ c ∈ digits.toList, c ∈ "0123456789abcdef".toList

instance : Inhabited DraftTag where
  default :=
    { digits := String.ofList (List.replicate 32 '0')
      length_digits := by rw [String.length_ofList, List.length_replicate]
      isHex := fun c hc => by
        rw [String.toList_ofList] at hc
        rw [List.eq_of_mem_replicate hc]
        decide }

/-- What the system does that the tree does not tell. -/
structure Disk where
  /-- What it refuses although the tree allows it, for want of a right or of room. -/
  refuses : Access → Bool := fun _ => false
  /-- How many bytes of a draft are written before the rest is refused. -/
  room : Nat := 0
  /-- The tag that is drawn for the draft of a file. -/
  tag : Path → DraftTag := default

/-- The same disk, when nothing is refused. -/
def Disk.granting (disk : Disk) : Disk :=
  { disk with refuses := fun _ => false }

/-- What the tree answers, unless the system refuses to be asked. -/
def Disk.grant {α : Type} (disk : Disk) (access : Access) (e : FileError)
    (answer : Except Failure α) : Except Failure α := do
  let a ← answer
  if disk.refuses access then throw e.failure else return a

namespace Tree

/-! ## Steps -/

/-- Whether a file of a name is there; a folder of that name is an error. A name without parts is the
folder that paths start from. -/
def checkFile (t : Tree) (name : String) : Except Failure Bool :=
  if (Path.ofString name).parts.isEmpty then .error (FileError.isFolder name).failure
  else
    match t.probe (Path.ofString name).text with
    | .error _ => .error (FileError.stat name).failure
    | .ok (some (.folder _)) => .error (FileError.isFolder name).failure
    | .ok (some (.file _)) => .ok true
    | .ok none => .ok false

/-- A text with line feeds for its line ends. -/
def withLineFeeds (s : String) : String :=
  String.ofList (Text.crlfToLf s.toList)

/-- The text of a file, with line feeds for its line ends. -/
def readText (t : Tree) (name : String) : Except Failure String :=
  match t.read (Path.ofString name).text with
  | .ok bytes => .ok (withLineFeeds (Text.decodeLossy bytes))
  | .error e => .error ((e.fault?.map Failure.fault).getD (FileError.read name).failure)

/-- The draft that a file is written through. -/
def draft (p : Path) (disk : Disk := {}) : Path :=
  p.withName ("." ++ p.name ++ "." ++ (disk.tag p).digits ++ ".tmp")

/-- Puts a text into a file through a draft, and gives the tree after that. -/
def writeText (t : Tree) (p : Path) (text : String) (disk : Disk := {}) :
    Except Failure Unit × Tree :=
  let refused : Failure := (FileError.write p.text).failure
  if p.name == "" then (.error (.fault .wrongValue), t)
  else
    match t.filePlace (draft p disk).text with
    | .error e => (.error ((e.fault?.map Failure.fault).getD refused), t)
    | .ok place =>
      let drafted (bytes : ByteArray) : Tree := plant (.file bytes) place t
      let givenUp (bytes : ByteArray) : Except Failure Unit × Tree :=
        (.error refused, if disk.refuses .removeDraft then drafted bytes else t)
      if disk.refuses .openDraft then (.error refused, t)
      else
        match Text.encode? text with
        | none => (.error (.fault .noBytes), drafted .empty)
        | some bytes =>
          if disk.refuses .fillDraft then givenUp (bytes.extract 0 disk.room)
          else
            match t.write p.text bytes with
            | .error _ => givenUp bytes
            | .ok written => if disk.refuses .replace then givenUp bytes else (.ok (), written)

/-- Whether a file is there, and whether it holds a text already. The first is looked up unless it is
known. -/
def compare (t : Tree) (name text : String) (known : Option Bool) (disk : Disk := {}) :
    Except Failure (Bool × Bool) := do
  let there ← match known with
    | some there => pure there
    | none => disk.grant .inspect (.stat name) (t.checkFile name)
  let current ← if there then (disk.grant .read (.read name) (t.readText name)).map some else pure none
  return (there, current == some text)

/-- Brings a file in step with a text, and gives the tree after that. -/
def sync (t : Tree) (name content : String) (known : Option Bool) (disk : Disk := {}) :
    Except Failure SyncStatus × Tree :=
  let text := withLineFeeds content
  match t.compare name text known disk with
  | .error e => (.error e, t)
  | .ok (_, true) => (.ok .unchanged, t)
  | .ok (there, false) =>
    let (done, after) := t.writeText (Path.ofString name) text disk
    (done.map fun _ => if there then .updated else .created, after)

end Tree

end TemplateDocs
