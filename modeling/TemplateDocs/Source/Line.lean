import TemplateDocs.Text.Blank
import TemplateDocs.Text.Word
import TemplateDocs.Text.Search

/-!
# Lines of a source file

A line is looked at on its own: it opens a comment, gives or opens a description, declares something,
or says nothing. Declarations and decorators start in the first column.
-/

namespace TemplateDocs.Source

open TemplateDocs.Text

/-- What one line says outside of comments and descriptions. -/
inductive Line where
  /-- Nothing that is looked for. -/
  | silent
  /-- Opens a comment that does not end on the line. -/
  | opensComment
  /-- A description that ends on the line. -/
  | description (text : String)
  /-- Opens a description; `text` is what follows the quotes. -/
  | opensDescription (text : String)
  | variable (name : String) (value : Option String)
  /-- A declaration whose description is read elsewhere. -/
  | otherDeclaration
  | module (name source : String)
  | resource (name type : String)
  deriving DecidableEq, Repr, Inhabited

/-! ## Descriptions -/

/-- The quotes around a text of several lines. -/
def tripleQuote : List Char := ['\'', '\'', '\'']

/-- What follows the opening parenthesis of a description decorator. -/
def decorated? (cs : List Char) : Option (List Char) :=
  (dropStart? "@description(".toList cs).or (dropStart? "@sys.description(".toList cs)

/-- Whether the text starts with quotes and a closing parenthesis. -/
def closesDecorator (cs : List Char) : Bool :=
  (dropStart? (tripleQuote ++ [')']) cs).isSome || (dropStart? ['\'', ')'] cs).isSome

/-- The characters before the first closing mark, all on one line. -/
def inlineBody? : List Char → Option (List Char)
  | [] => none
  | c :: cs =>
    if closesDecorator (c :: cs) then some []
    else if c == '\n' then none
    else (inlineBody? cs).map (c :: ·)

/-- A description that is closed on its line. Three opening quotes are tried before one. -/
def inlineDescription? (cs : List Char) : Option (List Char) :=
  (decorated? cs).bind fun rest =>
    ((dropStart? tripleQuote rest).bind inlineBody?).or
      ((dropStart? ['\''] rest).bind inlineBody?)

/-- The text after the three quotes that open a description. -/
def openDescription? (cs : List Char) : Option (List Char) :=
  ((decorated? cs).bind (dropStart? tripleQuote)).map (List.takeWhile (· != '\n'))

/-! ## Declarations -/

/-- What follows a keyword and the blanks after it. -/
def afterKeyword? (keyword : String) (cs : List Char) : Option (List Char) :=
  match dropStart? keyword.toList cs with
  | some (c :: rest) => if isBlank c then some (trimLeft rest) else none
  | _ => none

/-- The value written after the equals sign, if any. -/
def assigned? (cs : List Char) : Option String :=
  match cutAt? ['='] cs with
  | none => none
  | some (_, rest) =>
    let value := trim rest
    if value.isEmpty then none else some (String.ofList value)

/-- A variable's name and value. -/
def readVariable? (cs : List Char) : Option (String × Option String) :=
  (afterKeyword? "var" cs).bind fun rest =>
    let name := rest.takeWhile isWord
    let tail := rest.dropWhile isWord
    if name.isEmpty || tail.contains '\n' then none
    else some (String.ofList name, assigned? tail)

/-- The keywords whose declarations have their descriptions in the compiled template. -/
def describedElsewhere : List String :=
  ["param", "output", "type", "var", "func"]

/-- Whether the line declares something whose description is read elsewhere. -/
def isOtherDeclaration (cs : List Char) : Bool :=
  describedElsewhere.any fun keyword =>
    match afterKeyword? keyword cs with
    | some rest => !rest.isEmpty
    | none => false

/-- The characters up to the last quote of a run, at least one of them. -/
def untilLastQuote? (run : List Char) : Option (List Char) :=
  match run.reverse.dropWhile (· != '\'') with
  | [] => none
  | [_] => none
  | _ :: before => some before.reverse

/-- The name and the quoted text of a declaration header. The quoted text holds no blanks and reaches
to the last quote before one. -/
def header? (keyword : String) (cs : List Char) : Option (List Char × List Char) :=
  (afterKeyword? keyword cs).bind fun rest =>
    let name := rest.takeWhile fun c => !isBlank c
    match rest.dropWhile fun c => !isBlank c with
    | [] => none
    | gap =>
      if name.isEmpty then none
      else
        match trimLeft gap with
        | '\'' :: after =>
          (untilLastQuote? (after.takeWhile fun c => !isBlank c)).map fun body => (name, body)
        | _ => none

/-- A text without its single quotes. -/
def unquoted (cs : List Char) : String :=
  String.ofList (cs.filter (· != '\''))

/-- A module's name and source. -/
def readModule? (cs : List Char) : Option (String × String) :=
  (header? "module" cs).map fun (name, body) => (String.ofList name, unquoted body)

/-- A resource's name and type, the version left out. -/
def readResource? (cs : List Char) : Option (String × String) :=
  (header? "resource" cs).map fun (name, body) =>
    (String.ofList name, unquoted (body.takeWhile (· != '@')))

/-! ## Reading a line -/

/-- What a line says that is neither blank nor a comment. -/
def Line.ofCode (collectVariables : Bool) (cs : List Char) : Line :=
  match inlineDescription? cs with
  | some text => .description (String.ofList text)
  | none =>
  match openDescription? cs with
  | some text => .opensDescription (String.ofList text)
  | none =>
  match if collectVariables then readVariable? cs else none with
  | some (name, value) => .variable name value
  | none =>
  if isOtherDeclaration cs then .otherDeclaration
  else
  match readModule? cs with
  | some (name, source) => .module name source
  | none =>
  match readResource? cs with
  | some (name, type) => .resource name type
  | none => .silent

/-- What a line says. -/
def Line.ofList (collectVariables : Bool) (cs : List Char) : Line :=
  let stripped := trim cs
  if stripped.isEmpty || (dropStart? ['/', '/'] stripped).isSome then .silent
  else
    match dropStart? ['/', '*'] stripped with
    | some rest => if contains ['*', '/'] rest then .silent else .opensComment
    | none => Line.ofCode collectVariables cs

end TemplateDocs.Source
