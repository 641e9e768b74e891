import TemplateDocs.Run.World
import TemplateDocs.Text.Blank
import TemplateDocs.Text.Search
import TemplateDocs.Text.Utf8

/-!
# Compiling a template

The compiler is one of two commands. It writes the compiled template to a temporary file of its own.
The file is removed once the compiler has exited with an error, or once the template was read, but it
stays where something was written to the console that is no text.
-/

namespace TemplateDocs

/-- What one run of the compiler does. -/
structure Compilation where
  starts : Bool := true
  /-- What it leaves at the path that it was told to write to. -/
  product : Option Node := none
  exitCode : Int := 0
  /-- What it writes to the console. -/
  output : ByteArray := .empty
  /-- What it writes there about errors. -/
  errors : ByteArray := .empty

/-- What the compiler writes about errors, as text. All that it writes to the console has to be text. -/
def Compilation.errorText (done : Compilation) : Except Failure String :=
  match Text.decode? done.output, Text.decode? done.errors with
  | some _, some errors => .ok errors
  | _, _ => .error (.fault .notText)

/-- The compiler and the folder for its products. -/
structure Compiler where
  /-- The commands that are there. -/
  available : List String := ["bicep"]
  /-- What compiling a source does. -/
  compile : String → Compilation
  folder : String
  /-- What tells the products of successive commands apart. -/
  tag : Nat → String

/-! ## Errors -/

/-- Why a template could not be compiled. -/
inductive BuildError where
  | wrongEnding
  | noCommand
  | notStarted
  | exited (code : Int)
  /-- A line that the compiler wrote. -/
  | told (line : String)
  deriving DecidableEq, Repr, Inhabited

namespace BuildError

/-- The ending of a source's name. -/
def ending : String := ".bicep"

/-- The wording of a build error. -/
def message : BuildError → String
  | wrongEnding => "file extension must be '" ++ ending ++ "'"
  | noCommand => "neither 'bicep' nor 'az' commands were found"
  | notStarted => "failed to run command"
  | exited code => "failed to run command: exit status " ++ toString code
  | told line => line

/-- The stage that a build error belongs to. -/
def category : BuildError → Category
  | wrongEnding => .input
  | _ => .externalTool

/-- A build error as a report about a source. -/
def report (e : BuildError) (source : String) : Report :=
  { category := e.category, message := e.message, file := some source }

/-- Why a compiler that exited with a code failed: the first line that mentions an error. -/
def ofErrors (code : Int) (errors : String) : BuildError :=
  match (Text.lines errors).find? fun line => Text.contains "Error".toList line.toList with
  | some line => told (Text.strip line)
  | none => exited code

end BuildError

/-! ## Building -/

namespace Compiler

/-- The command that compiles a source to a target; the one made for the job is preferred. -/
def command (c : Compiler) (source target : String) : Except BuildError (List String) :=
  if c.available.contains "bicep" then .ok ["bicep", "build", source, "--outfile", target]
  else if c.available.contains "az" then
    .ok ["az", "bicep", "build", "--file", source, "--outfile", target]
  else .error .noCommand

/-- The command that compiles a source to a target, or a report about the source. -/
def commandFor (c : Compiler) (source target : String) : Except Failure (List String) :=
  (c.command source target).mapError fun e => .reported (e.report source)

/-- The name of the product of a source after a number of commands. -/
def productName (c : Compiler) (source : String) (count : Nat) : String :=
  (Path.ofString source).stem ++ "_" ++ c.tag count ++ ".json"

/-- The path of a product. -/
def productPath (c : Compiler) (name : String) : String :=
  c.folder ++ "/" ++ name

/-- Compiles a source and gives the name of the product. -/
def build (c : Compiler) (source : String) : Run String := do
  let failed (e : BuildError) : Run String := Run.report (e.report source)
  if (Path.ofString source).ending != BuildError.ending then failed .wrongEnding
  else
    let name := c.productName source (← get).commands.length
    let command ← Run.ofExcept (c.commandFor source (c.productPath name))
    modify fun w => { w with commands := w.commands ++ [command] }
    let done := c.compile source
    if !done.starts then failed .notStarted
    else
      match done.product with
      | none => pure ()
      | some node => modify fun w => w.addTemporary name node
      let errors ← Run.ofExcept done.errorText
      if done.exitCode == 0 then return name
      else
        modify fun w => w.dropTemporary (c.productPath name) name
        failed (.ofErrors done.exitCode errors)

/-- Compiles a source, works with the product, and removes it. -/
def withProduct {α : Type} (c : Compiler) (source : String) (work : String → Run α) : Run α := do
  let name ← c.build source
  (work name).andFinally fun w => w.dropTemporary (c.productPath name) name

end Compiler

end TemplateDocs
