import TemplateDocs.Failure
import TemplateDocs.Files.Node
import TemplateDocs.Files.Path
import TemplateDocs.Text.Half

/-!
# Trees of files

A tree holds all files below a folder at the top. Names are looked up in it part by part: those that
start with a slash from the top, and all others from the working directory.
-/

namespace TemplateDocs

/-- All files. -/
structure Tree where
  /-- The folder that all others are below. -/
  top : Node := .empty
  /-- The place of the working directory. -/
  here : List String := []
  deriving Inhabited, BEq

/-- Why the system refuses to look up a name or to work on it. -/
inductive SystemError where
  | notFound
  | notFolder
  | isFolder
  | nameTooLong
  /-- A name with a null character in it. -/
  | invalid
  /-- A name that no bytes stand for. -/
  | noBytes
  deriving DecidableEq, Repr, Inhabited

/-- The system's own words for an error. -/
def SystemError.message : SystemError → String
  | notFound => "No such file or directory"
  | notFolder => "Not a directory"
  | isFolder => "Is a directory"
  | nameTooLong => "File name too long"
  | invalid => "embedded null byte"
  | noBytes => "surrogates not allowed"

/-- The fault that a name leads to which the system is never asked about. -/
def SystemError.fault? : SystemError → Option Fault
  | invalid => some .wrongValue
  | noBytes => some .noBytes
  | _ => none

namespace Tree

/-- A tree without files, with the top for its working directory. -/
def empty : Tree := {}

/-- A tree with these entries at its top, which is the working directory. -/
def folder (entries : List (String × Node)) : Tree :=
  { top := .folder entries }

/-! ## Places -/

/-- What stands at a place. -/
def at? (t : Tree) (place : List String) : Option Node :=
  t.top.at? place

/-- The tree with a node at a place; missing folders on the way are made. -/
def plant (node : Node) (place : List String) (t : Tree) : Tree :=
  { t with top := .plant node place t.top }

/-- The tree with an empty folder at a place unless something stands there. -/
def plantFolder (place : List String) (t : Tree) : Tree :=
  match t.at? place with
  | some _ => t
  | none => plant .empty place t

/-! ## Names -/

/-- The longest name of a single file, in bytes. -/
def partLimit : Nat := 255

/-- The first length of a whole name that is too long, in bytes. -/
def nameLimit : Nat := 4096

/-- The parts that a name is looked up by. A slash at the end asks for a folder. -/
def steps (name : String) : List String :=
  let parts := (Path.pieces name).filter (· != "")
  if name.toList.getLast? == some '/' then parts ++ ["."] else parts

/-- The place that a name is looked up from. -/
def start (t : Tree) (name : String) : List String :=
  if name.toList.head? == some '/' then [] else t.here

/-- Follows parts down from a place; each step needs a folder to start from. The last part need not be
there. At the top two dots lead nowhere else. -/
def follow (t : Tree) (place : List String) : List String → Except SystemError (List String)
  | [] => .ok place
  | part :: parts =>
    match t.at? place with
    | none => .error .notFound
    | some (.file _) => .error .notFolder
    | some (.folder _) =>
      if part == "." then follow t place parts
      else if part == ".." then follow t place.dropLast parts
      else if part.utf8ByteSize > partLimit then .error .nameTooLong
      else follow t (place ++ [part]) parts

/-- Whether a name can hold a character. Of the halves of pairs it can hold those that are set aside
for bytes which are no text. -/
def isNameable (c : Char) : Bool :=
  !Text.standsForHalf c || (decide (0xDC80 ≤ Text.toUnit c) && decide (Text.toUnit c ≤ 0xDCFF))

/-- The place that a name leads to. -/
def locate (t : Tree) (name : String) : Except SystemError (List String) :=
  if !name.toList.all isNameable then .error .noBytes
  else if name.toList.contains '\x00' then .error .invalid
  else if name == "" then .error .notFound
  else if nameLimit ≤ name.utf8ByteSize then .error .nameTooLong
  else follow t (t.start name) (steps name)

/-- What a name leads to. -/
def find (t : Tree) (name : String) : Except SystemError Node :=
  match t.locate name with
  | .error e => .error e
  | .ok place =>
    match t.at? place with
    | some node => .ok node
    | none => .error .notFound

/-- What a name leads to, if the name can be looked up at all. Only a name that is too long cannot. -/
def probe (t : Tree) (name : String) : Except SystemError (Option Node) :=
  match t.find name with
  | .ok node => .ok (some node)
  | .error .nameTooLong => .error .nameTooLong
  | .error _ => .ok none

/-- Whether a name leads anywhere. -/
def holds (t : Tree) (name : String) : Bool :=
  (t.find name).toOption.isSome

/-- Whether a name leads to a file. -/
def holdsFile (t : Tree) (name : String) : Bool :=
  (t.find name).toOption.any Node.isFile

/-- The bytes of the file that a name leads to. -/
def read (t : Tree) (name : String) : Except SystemError ByteArray :=
  match t.find name with
  | .error e => .error e
  | .ok (.file bytes) => .ok bytes
  | .ok (.folder _) => .error .isFolder

/-- The place of the file that a name leads to. The folder around it has to be there, the file itself
need not be. -/
def filePlace (t : Tree) (name : String) : Except SystemError (List String) :=
  match t.locate name with
  | .error e => .error e
  | .ok place =>
    match t.at? place with
    | some (.folder _) => .error .isFolder
    | _ => .ok place

/-- The tree with new bytes in the file that a name leads to. -/
def write (t : Tree) (name : String) (bytes : ByteArray) : Except SystemError Tree :=
  (t.filePlace name).map fun place => plant (.file bytes) place t

end Tree

end TemplateDocs
