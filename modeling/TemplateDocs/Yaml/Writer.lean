import TemplateDocs.Value.Display
import TemplateDocs.Yaml.Kind
import TemplateDocs.Yaml.Pen

/-!
# Writing YAML

Collections are written as blocks with their keys in order, and texts as plainly as they can be read
back.
-/

namespace TemplateDocs.Yaml

/-! ## Styles -/

/-- How a scalar is written. -/
inductive Style where
  | plain
  | single
  | double
  deriving DecidableEq, Repr, Inhabited

/-- The marks that a plain scalar cannot start with. -/
def startMarks : List Char :=
  "#,[]\x7b\x7d&*!|>'\"%@`".toList

/-- Whether a character of one class stands right before one of another. -/
def follows (first second : Char → Bool) (cs : List Char) : Bool :=
  (cs.zip cs.tail).any fun (a, b) => first a && second b

/-- Whether a mark that opens an entry stands at the start. -/
def opensEntry (cs : List Char) : Bool :=
  match cs with
  | c :: rest => (c == '?' || c == ':' || c == '-') && endsWord (rest.headD ' ')
  | [] => false

/-- Whether a text would be read as marks in a block. -/
def hasMarks (cs : List Char) : Bool :=
  cs.take 3 == "---".toList || cs.take 3 == "...".toList ||
    cs.head?.any startMarks.contains || opensEntry cs ||
    follows (· == ':') endsWord cs || cs.getLast? == some ':' || follows endsWord (· == '#') cs

/-- Whether a text has characters that only escapes can write. -/
def needsEscapes (cs : List Char) : Bool :=
  cs.any fun c => c != '\n' && !(decide (' ' ≤ c) && decide (c ≤ '~'))

/-- Whether blanks stand next to line ends, where folding would lose them. -/
def losesBlanks (cs : List Char) : Bool :=
  follows (· == '\n') (· == ' ') cs || follows (· == ' ') (· == '\n') cs

/-- Whether a blank or a line end stands at the start or the end. -/
def hasLooseEnds (cs : List Char) : Bool :=
  let loose (c : Option Char) : Bool := c == some ' ' || c == some '\n'
  loose cs.head? || loose cs.getLast?

/-- The style of a scalar that would be read as it should if it were plain, or would not. -/
def styleOf (readsBack : Bool) (cs : List Char) : Style :=
  if needsEscapes cs || losesBlanks cs then .double
  else if readsBack && !hasLooseEnds cs && !cs.contains '\n' && !hasMarks cs then .plain
  else .single

/-! ## Scalars -/

/-- A text cut into runs of blanks, of line ends, and of other characters. -/
def runs (cs : List Char) : List (List Char) :=
  let sort (c : Char) : Nat := if c == ' ' then 0 else if c == '\n' then 1 else 2
  cs.splitBy fun a b => sort a == sort b

/-- Writes a run of blanks; a single one may become a line break. -/
def putBlanks (indent : Nat) (breakable : Bool) (p : Pen) (run : List Char) : Pen :=
  if breakable && run.length == 1 && decide (Pen.width < p.column) then (p.toColumn indent).inside
  else p.put run

/-- Writes a plain scalar. -/
def putPlain (indent : Nat) (breakable : Bool) (p : Pen) (cs : List Char) : Pen :=
  let start := if p.blank then p else p.put [' ']
  (runs cs).foldl (fun p run =>
    if run.head? == some ' ' then putBlanks indent breakable p run else p.put run) start.inside

/-- Writes the runs of a scalar between single quotes. -/
def putSingleRuns (indent : Nat) (breakable : Bool) : (first : Bool) → List (List Char) → Pen → Pen
  | _, [], p => p
  | first, run :: rest, p =>
    let p :=
      match run.head? with
      | some ' ' => putBlanks indent (breakable && !first && !rest.isEmpty) p run
      | some '\n' => ((run.foldl (fun p _ => p.newLine) p.newLine)).toColumn indent
      | _ => p.put (run.flatMap fun c => if c == '\'' then ['\'', '\''] else [c])
    putSingleRuns indent breakable false rest p

/-- Writes a scalar between single quotes. -/
def putSingle (indent : Nat) (breakable : Bool) (p : Pen) (cs : List Char) : Pen :=
  (putSingleRuns indent breakable true (runs cs) (p.mark ['\''] true false)).mark ['\''] false false

/-- The letter that an escape of a character has. -/
def escapeLetter? : Char → Option Char
  | '\x00' => some '0'
  | '\x07' => some 'a'
  | '\x08' => some 'b'
  | '\t' => some 't'
  | '\n' => some 'n'
  | '\x0b' => some 'v'
  | '\x0c' => some 'f'
  | '\r' => some 'r'
  | '\x1b' => some 'e'
  | '"' => some '"'
  | '\\' => some '\\'
  | '\x85' => some 'N'
  | '\xa0' => some '_'
  | '\u2028' => some 'L'
  | '\u2029' => some 'P'
  | _ => none

/-- The escape of a character. -/
def escapeOf (c : Char) : List Char :=
  let digits (width : Nat) : List Char := (Text.hexDigits width (Text.toUnit c)).map Char.toUpper
  match escapeLetter? c with
  | some letter => ['\\', letter]
  | none =>
    if c.toNat ≤ 0xFF then '\\' :: 'x' :: digits 2
    else if Text.toUnit c ≤ 0xFFFF then '\\' :: 'u' :: digits 4
    else '\\' :: 'U' :: digits 8

/-- Whether a character is written as an escape between double quotes. -/
def isEscaped (c : Char) : Bool :=
  c == '"' || c == '\\' || !(decide (' ' ≤ c) && decide (c ≤ '~'))

/-- Breaks the line between double quotes; a blank at its start is kept by a backslash. -/
def breakDouble (indent : Nat) (p : Pen) (next : Option Char) : Pen :=
  let p := ((p.put ['\\']).toColumn indent).inside
  if next == some ' ' then p.put ['\\'] else p

/-- Writes the rest of a scalar between double quotes. The line may be broken before a blank and
around an escape, once it is full, but at neither end of the scalar. -/
def putDoubleFrom (indent : Nat) (breakable : Bool) :
    (atStart : Bool) → (pending : List Char) → List Char → Pen → Pen
  | _, pending, [], p => p.put pending
  | atStart, pending, c :: rest, p =>
    let inner := breakable && !atStart && !rest.isEmpty
    if isEscaped c then
      let p := (p.put pending).put (escapeOf c)
      let p := if inner && decide (Pen.width + 1 < p.column) then breakDouble indent p rest.head? else p
      putDoubleFrom indent breakable false [] rest p
    else if inner && (c == ' ' || pending.isEmpty) &&
        decide (Pen.width < p.column + pending.length) then
      putDoubleFrom indent breakable false [c] rest (breakDouble indent (p.put pending) (some c))
    else putDoubleFrom indent breakable false (pending ++ [c]) rest p

/-- Writes a scalar between double quotes. -/
def putDouble (indent : Nat) (breakable : Bool) (p : Pen) (cs : List Char) : Pen :=
  (putDoubleFrom indent breakable true [] cs (p.mark ['"'] true false)).mark ['"'] false false

/-- Writes a scalar in a style. Its lines are indented; a key is not broken into lines. -/
def putScalar (style : Style) (indent : Nat) (breakable : Bool) (p : Pen) (s : String) : Pen :=
  match style with
  | .plain => putPlain indent breakable p s.toList
  | .single => putSingle indent breakable p s.toList
  | .double => putDouble indent breakable p s.toList

/-! ## Values -/

/-- The words for numbers without digits. -/
def doubleWords : DoubleWords := ⟨".nan", ".inf"⟩

/-- A double, always with a point. -/
def doubleText (x : Double) : String :=
  let s := x.text doubleWords
  if s.toList.contains '.' then s
  else String.ofList (s.toList.flatMap fun c => if c == 'e' then ".0e".toList else [c])

/-- A key as the text and the style it is written in, and the length of its tag. -/
def keyScalar : Key → String × Style × Nat
  | .null => ("null", .plain, 6)
  | .bool b => (if b then "true" else "false", .plain, 6)
  | .int n => (toString n, .plain, 5)
  | .float x => (doubleText x, .plain, 7)
  | .notANumber _ => (doubleWords.notANumber, .plain, 7)
  | .text s => (s, styleOf (Kind.ofPlain s == .text) s.toList, 5)
  | .bytes content => (Text.quotedBytes content, .double, 8)
  | .date d => (d.text, .plain, 11)
  | .moment m => (m.text, .plain, 11)
  | .choice s => (s.display, .plain, 5)

/-- The length of a key with its tag from which on it is marked as one. -/
def keyWidth : Nat := 128

/-- Whether a key needs no mark of its own: it is short, not empty, and on one line. -/
def isSimpleKey (s : String) (tagWidth : Nat) : Bool :=
  decide (s.length + tagWidth < keyWidth) && s != "" && !s.toList.any isBreak

/-- Writes a key and the colon after it. -/
def putKey (indent : Nat) (p : Pen) (key : Key) : Pen :=
  let (s, style, tagWidth) := keyScalar key
  let p := p.toColumn indent
  if isSimpleKey s tagWidth then (putScalar style (indent + 2) false p s).mark [':'] false false
  else
    let p := putScalar style (indent + 2) true (p.mark ['?'] true true) s
    (p.toColumn indent).mark [':'] true true

mutual

/-- A value with the keys of its mappings in order. Tuples are written as lists, and sets as mappings
without values. -/
def withSortedKeys : Value → Value
  | .list items => .list (itemsWithSortedKeys items)
  | .tuple items => .list (itemsWithSortedKeys items)
  | .set members => .dict (members.map fun key => (key, .null))
  | .dict entries =>
    let entries := entriesWithSortedKeys entries
    .dict (if Key.ordered (entries.map Prod.fst) then Key.sortEntries entries else entries)
  | other => other

/-- Items with the keys of their mappings in order. -/
def itemsWithSortedKeys : List Value → List Value
  | [] => []
  | item :: items => withSortedKeys item :: itemsWithSortedKeys items

/-- Entries with the keys of the mappings in them in order. -/
def entriesWithSortedKeys : List (Key × Value) → List (Key × Value)
  | [] => []
  | (key, item) :: entries => (key, withSortedKeys item) :: entriesWithSortedKeys entries

end

mutual

/-- Writes a value inside of a collection at a column. A list under a key is not indented further.
Tuples and sets are not among the values that are written. -/
def putValue (indent : Nat) (underKey : Bool) (p : Pen) : Value → Pen
  | .null => putScalar .plain (indent + 2) true p "null"
  | .bool b => putScalar .plain (indent + 2) true p (if b then "true" else "false")
  | .int n => putScalar .plain (indent + 2) true p (toString n)
  | .float x => putScalar .plain (indent + 2) true p (doubleText x)
  | .text s => putScalar (styleOf (Kind.ofPlain s == .text) s.toList) (indent + 2) true p s
  | .bytes content => putScalar .double (indent + 2) true p (Text.quotedBytes content)
  | .date d => putScalar .plain (indent + 2) true p d.text
  | .moment m => putScalar .plain (indent + 2) true p m.text
  | .tuple _ => p.mark "[]".toList true false
  | .set _ => p.mark "\x7b\x7d".toList true false
  | .ring _ shown _ => putScalar .double (indent + 2) true p (shown.toOption.getD "")
  | .list [] => p.mark "[]".toList true false
  | .list items => putItems (if underKey && !p.fresh then indent else indent + 2) p items
  | .dict [] => p.mark "\x7b\x7d".toList true false
  | .dict entries => putEntries (indent + 2) p entries
  | .foreign kind => putScalar .plain (indent + 2) true p kind
  | .choice s => putScalar .plain (indent + 2) true p s.display

/-- Writes the items of a list at a column. -/
def putItems (indent : Nat) (p : Pen) : List Value → Pen
  | [] => p
  | item :: items =>
    putItems indent (putValue indent false ((p.toColumn indent).mark ['-'] true true) item) items

/-- Writes the entries of a mapping at a column. -/
def putEntries (indent : Nat) (p : Pen) : List (Key × Value) → Pen
  | [] => p
  | (key, item) :: entries =>
    putEntries indent (putValue indent true (putKey indent p key) item) entries

end

/-- A mapping as a document, with a line feed at its end. -/
def write (entries : List (Key × Value)) : String :=
  match withSortedKeys (.dict entries) with
  | .dict (e :: es) => ((putEntries 0 {} (e :: es)).newLine).text
  | _ => "\x7b\x7d\n"

end TemplateDocs.Yaml
