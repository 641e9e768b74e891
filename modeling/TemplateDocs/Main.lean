import TemplateDocs.CommandLine.Program
import TemplateDocs.CommandLine.Terminal
import TemplateDocs.Yaml.Library

/-!
# Starting the program

The files that the arguments can lead to are read into a tree, the program runs on it, and the
documents that have changed are written. No other command is started from here: the compiled template
is the file with the ending `.json` next to the source.
-/

namespace TemplateDocs

/-- The path of the compiled template of a source. -/
def compiledPath (source : String) : String :=
  let path := Path.ofString source
  (path.parent.child (path.stem ++ ".json")).text

/-- What a name leads to: a file with its bytes, or a folder with all that is below it. -/
partial def readNode (name : String) : IO Node := do
  let place ← IO.FS.realPath name
  if ← place.isDir then
    let entries ← (← place.readDir).toList.filterMapM fun entry => do
      try
        return some (entry.fileName, ← readNode (name ++ "/" ++ entry.fileName))
      catch _ => return none
    return .folder entries
  else
    return .file (← IO.FS.readBinFile name)

/-- The place that a path names from the working directory. -/
def placeOf (here : List String) (p : Path) : List String :=
  p.parts.foldl (fun place part => if part == ".." then place.dropLast else place ++ [part])
    (if p.root == "" then here else [])

/-- The tree with the folder around a name, if there is one. -/
def readAround (tree : Tree) (name : String) : IO Tree := do
  let parent := (Path.ofString name).parent
  try
    let place ← IO.FS.realPath parent.text
    return if ← place.isDir then tree.plantFolder (placeOf tree.here parent) else tree
  catch _ => return tree

/-- The tree with what a name leads to, or with the folder around it if that cannot be read. -/
def readInto (tree : Tree) (name : String) : IO Tree := do
  try
    return Tree.plant (← readNode name) (placeOf tree.here (Path.ofString name)) tree
  catch _ => readAround tree name

/-- The tree with nothing but the working directory. -/
def readHere : IO Tree := do
  let here := (Path.ofString (← IO.currentDir).toString).parts
  return { (Tree.empty.plantFolder here) with here }

/-- A compiler whose products are there already. -/
def readyCompiler (files : Tree) : Compiler :=
  { compile := fun source =>
      { product := (files.read (compiledPath source)).toOption.map .file }
    folder := "."
    tag := toString }

/-- The variables of the environment that are looked at. -/
def variableNames : List String :=
  ["SECTIONS", "SHOW_ALL_DECORATORS", "VERBOSE", "TRIGGER_FILENAME", "OUTPUT_FILENAME",
   "MAX_WORKERS"].map ("BICEP_DOCS_" ++ ·)

/-- The variables of the environment that are set. -/
def readEnvironment : IO Settings.Environment :=
  variableNames.filterMapM fun name => do
    return (← IO.getEnv name).map fun value => (name, value)

/-- The files that settings can come from. -/
def readSettings (o : Options) : IO Tree := do
  (Settings.defaultNames ++ o.config.toList).foldlM readInto (← readHere)

/-- The documents that options can lead to, besides those below the input. -/
def documentNames (o : Options) (s : Settings) : List String :=
  let beside (input : String) : Option String := s.outputFilename.text?.map fun name =>
    ((Path.ofString input).parent.join (.ofString name)).text
  o.input.toList.filterMap beside ++ o.output.toList

/-- Adds what options can lead to. The files of the settings are read once more where they lie below
the input. -/
def readInputs (settings : Tree) (o : Options) (found : Option Settings) : IO Tree :=
  let documents := (found.map (documentNames o)).getD []
  let inputs := o.input.toList.flatMap fun input => [input, compiledPath input]
  (inputs ++ documents).foldlM readInto settings

/-- Writes the documents that have changed. -/
def writeDocuments (w : World) : IO Unit :=
  w.synced.forM fun d =>
    match d.status, w.files.read d.path with
    | .unchanged, _ => return
    | _, .ok bytes => IO.FS.writeBinFile d.path bytes
    | _, .error _ => return

end TemplateDocs

open TemplateDocs in
/-- Runs the program on the files below the working directory. -/
def main (arguments : List String) : IO UInt32 := do
  let options := (Options.ofArguments arguments).toOption.getD {}
  let environment ← readEnvironment
  let read ← readSettings options
  let known : Program.Surroundings :=
    { compiler := readyCompiler read
      yaml := Yaml.library
      printer := Terminal.printer
      environment }
  let (found, _) := (Program.settings known options).run.run { files := read }
  let files ← readInputs read options found.toOption
  let surroundings := { known with compiler := readyCompiler files }
  let ended := Program.run surroundings arguments { files }
  writeDocuments ended.world
  (← IO.getStdout).putStr ended.console.out
  (← IO.getStderr).putStr ended.console.err
  match ended.exit with
  | .ok code => return UInt32.ofNat code
  | .error _ => return 1
