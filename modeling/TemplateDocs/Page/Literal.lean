import TemplateDocs.Page.RenderError
import TemplateDocs.Value.Display
import TemplateDocs.Value.Encode

/-!
# Literals of the template language

The usage example writes default values as literals: texts between single quotes, one element or
entry a line, no commas, keys that are identifiers without quotes.
-/

namespace TemplateDocs.Literal

/-! ## Texts and keys -/

/-- The characters of a text inside its quotes. An interpolation is kept from being one. -/
def escape : List Char → List Char
  | [] => []
  | '$' :: '{' :: rest => '\\' :: '$' :: '{' :: escape rest
  | c :: rest =>
    (match c with
      | '\\' => ['\\', '\\']
      | '\'' => ['\\', '\'']
      | '\n' => ['\\', 'n']
      | '\r' => ['\\', 'r']
      | '\t' => ['\\', 't']
      | c => [c]) ++ escape rest

/-- A text between single quotes. -/
def text (s : String) : String :=
  String.ofList ('\'' :: (escape s.toList ++ ['\'']))

/-- Letters, digits and the underscore of ASCII. -/
def isNameChar (c : Char) : Bool :=
  c.isAlphanum || c == '_'

/-- Whether a key stands without quotes: an identifier, which one line feed may follow. -/
def isBareKey (cs : List Char) : Bool :=
  let name := if cs.getLast? == some '\n' then cs.dropLast else cs
  match name with
  | [] => false
  | c :: rest => (c.isAlpha || c == '_') && rest.all isNameChar

/-- A key as it is written. -/
def key (s : String) : String :=
  if isBareKey s.toList then s else text s

/-! ## Values -/

/-- Two blanks for each level of depth. -/
def pad (depth : Nat) : String :=
  String.ofList (List.replicate (2 * depth) ' ')

/-- Lines between brackets, each one level deeper. -/
def block (opening closing : String) (depth : Nat) (lines : List String) : String :=
  opening ++ "\n" ++ Text.join "\n" (lines.map (pad (depth + 1) ++ ·)) ++ "\n" ++ pad depth ++ closing

/-- Why a key that is no text ends a literal. One that cannot be shown ends it without a report. -/
def otherKey (owner : String) (k : Key) : Failure :=
  match k.shown with
  | .ok shown => (RenderError.otherKey owner shown).failure
  | .error fault => .fault fault

/-- The lines of a mapping's entries in the order of their keys; the first failure wins. -/
def entryLines (owner : String) (entries : List (Key × Except Failure String)) :
    Except Failure (List String) :=
  (Key.sortEntries entries).mapM fun (k, written) =>
    match k with
    | .text name => written.map fun w => key name ++ ": " ++ w
    | other => .error (otherKey owner other)

/-- A whole number as a literal. One with too many digits is reported. -/
def int (owner : String) (n : Int) : Except Failure String :=
  (showInt n).mapError fun _ => (RenderError.unencodable owner).failure

mutual

/-- A value as a literal at a depth, with `room` for calls. Each value on the way down takes one of them,
and a list another one to go through its items. -/
def value (owner : String) (room depth : Nat) (v : Value) : Except Failure String :=
  if room = 0 then .error (.fault .tooDeep)
  else
    match v with
    | .null => .ok "null"
    | .bool b => .ok (if b then "true" else "false")
    | .int n => int owner n
    | .float x => .ok (x.text jsonWords)
    | .text s => .ok (text s)
    | .list [] => .ok "[]"
    | .list xs => (items owner (room - 2) (depth + 1) xs).map (block "[" "]" depth)
    | .tuple [] => .ok "[]"
    | .tuple xs => (items owner (room - 2) (depth + 1) xs).map (block "[" "]" depth)
    | .dict [] => .ok "\x7b\x7d"
    | .dict es =>
      if Key.ordered (es.map Prod.fst) then
        (entryLines owner (entries owner (room - 1) (depth + 1) es)).map (block "\x7b" "\x7d" depth)
      else .error (.fault .wrongKind)
    | .bytes _ => .error (RenderError.unsupported owner "bytes").failure
    | .date _ => .error (RenderError.unsupported owner "date").failure
    | .moment _ => .error (RenderError.unsupported owner "datetime").failure
    | .choice _ => .error (RenderError.unsupported owner "Section").failure
    | .set _ => .error (RenderError.unsupported owner "set").failure
    | .ring _ _ _ => .error (.fault .tooDeep)
    | .foreign kind => .error (RenderError.unsupported owner kind).failure

/-- The items of a list as literals. -/
def items (owner : String) (room depth : Nat) : List Value → Except Failure (List String)
  | [] => .ok []
  | x :: xs => do
    let first ← value owner room depth x
    let others ← items owner room depth xs
    return first :: others

/-- The values of a mapping as literals, each with its own outcome. -/
def entries (owner : String) (room depth : Nat) :
    List (Key × Value) → List (Key × Except Failure String)
  | [] => []
  | (k, x) :: es => (k, value owner room depth x) :: entries owner room depth es

end

/-- Every line but the first moves in by `indent`. -/
def indentLines (indent : String) (s : String) : String :=
  String.ofList (s.toList.flatMap fun c => if c == '\n' then '\n' :: indent.toList else [c])

/-- A value as a literal whose further lines are indented. -/
def ofValue (owner : String) (indent : String) (v : Value) : Except Failure String :=
  (value owner callLimit 0 v).map (indentLines indent)

end TemplateDocs.Literal
