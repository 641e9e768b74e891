import TemplateDocs.Failure
import TemplateDocs.Files.Tree
import TemplateDocs.Text.Quoted

/-!
# Walking a folder

A walk takes a folder before the folders in it, and those in the order of their names. It can be taken
as a whole or folder by folder.
-/

namespace TemplateDocs

namespace Node

mutual

/-- The paths of all files of a name in and below a folder. -/
def filesNamed (name : String) (path : Path) : Node → List Path
  | file _ => []
  | folder entries =>
    let here := if (entryOf? name entries).any isFile then [path.child name] else []
    here ++ (sortByName Prod.fst (filesNamedIn name path entries)).flatMap Prod.snd

/-- For each entry of a folder, the paths of all files of a name in and below it. -/
def filesNamedIn (name : String) (path : Path) :
    List (String × Node) → List (String × List Path)
  | [] => []
  | (folderName, child) :: entries =>
    (folderName, filesNamed name (path.child folderName) child) :: filesNamedIn name path entries

end

/-- The names of the folders in a folder, in order. -/
def folderNames (entries : List (String × Node)) : List String :=
  sortByName id ((entries.filter fun e => !e.2.isFile).map Prod.fst)

end Node

namespace Tree

/-- Why a folder could not be walked. -/
def walkReport (top : String) (e : SystemError) : Report :=
  { category := .input
    message := "failed to walk directory " ++ Text.quoted top ++ ": " ++ e.message }

/-- The paths of all files of a name in and below the folder that `top` names. -/
def walk (t : Tree) (top name : String) : Except Failure (List Path) :=
  match t.find top with
  | .ok (.folder entries) => .ok (Node.filesNamed name (Path.ofString top) (.folder entries))
  | .ok (.file _) => .error (.reported (walkReport top .notFolder))
  | .error e => .error ((e.fault?.map Failure.fault).getD (.reported (walkReport top e)))

/-- Looks into one folder of a walk: whether a file of a name is in it, and which folders are. The place
of the folder leads down from the one that `top` names. -/
def visit (t : Tree) (top name : String) (place : List String) :
    Except Failure (Bool × List String) :=
  let path := (Path.ofString top).below place
  match t.find top with
  | .error e => .error ((e.fault?.map Failure.fault).getD (.reported (walkReport top e)))
  | .ok node =>
    match node.at? place with
    | none => .error (.reported (walkReport path.text .notFound))
    | some (.file _) => .error (.reported (walkReport path.text .notFolder))
    | some (.folder entries) =>
      .ok ((entryOf? name entries).any Node.isFile, Node.folderNames entries)

end Tree

end TemplateDocs
