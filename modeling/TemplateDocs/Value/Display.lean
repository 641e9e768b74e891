import TemplateDocs.Failure
import TemplateDocs.Value.Basic
import TemplateDocs.Number.Shortest
import TemplateDocs.Text.Digit
import TemplateDocs.Text.Quoted
import TemplateDocs.Text.Search

/-!
# Values in messages

A text stands as itself when it is shown alone and is quoted inside a list or a mapping. A whole
number with too many digits cannot be shown, and neither can what stands inside of too many others, or
what holds either of them: the first of them that is come upon ends the showing.
-/

namespace TemplateDocs

/-- The words for numbers without digits in messages. -/
def messageWords : DoubleWords := ⟨"nan", "inf"⟩

/-- True and false in messages. -/
def showBool (b : Bool) : String :=
  if b then "True" else "False"

/-- A whole number in messages. -/
def showInt (n : Int) : Except Fault String :=
  match Text.decimal? n with
  | some digits => .ok digits
  | none => .error .wrongValue

/-- A section itself inside a list or a mapping. -/
def Section.shown (s : Section) : String :=
  "<Section." ++ s.constant ++ ": " ++ Text.quoted s.identifier ++ ">"

/-- A section itself shown alone. -/
def Section.display (s : Section) : String :=
  "Section." ++ s.constant

/-- A key inside a shown mapping. -/
def Key.shown : Key → Except Fault String
  | .null => .ok "None"
  | .bool value => .ok (showBool value)
  | .int value => showInt value
  | .float value => .ok (value.text messageWords)
  | .notANumber _ => .ok messageWords.notANumber
  | .text value => .ok (Text.quoted value)
  | .bytes content => .ok (Text.quotedBytes content)
  | .date value => .ok value.shown
  | .moment value => .ok value.shown
  | .choice value => .ok value.shown

/-- A key shown alone. -/
def Key.display : Key → Except Fault String
  | .text value => .ok value
  | .date value => .ok value.text
  | .moment value => .ok value.text
  | .choice value => .ok value.display
  | key => key.shown

/-- The parts of a shown list between brackets. -/
def showList (parts : List String) : String :=
  "[" ++ Text.join ", " parts ++ "]"

/-- The parts of a shown tuple between parentheses; a single one has a comma after it. -/
def showTuple : List String → String
  | [part] => "(" ++ part ++ ",)"
  | parts => "(" ++ Text.join ", " parts ++ ")"

/-- The parts of a shown mapping or set between braces. -/
def showBraces (parts : List String) : String :=
  "\x7b" ++ Text.join ", " parts ++ "\x7d"

/-- The members of a shown set. -/
def showSet (parts : List String) : String :=
  if parts.isEmpty then "set()" else showBraces parts

namespace Value

mutual

/-- A value inside a list or a mapping, with `room` for values inside of it. -/
def shown (room : Nat) : Value → Except Fault String
  | null => .ok "None"
  | bool value => .ok (showBool value)
  | int value => showInt value
  | float value => .ok (value.text messageWords)
  | text value => .ok (Text.quoted value)
  | bytes content => .ok (Text.quotedBytes content)
  | date value => .ok value.shown
  | moment value => .ok value.shown
  | choice value => .ok value.shown
  | list items => match room with
    | 0 => .error .tooDeep
    | room + 1 => (shownItems room items).map showList
  | tuple items => match room with
    | 0 => .error .tooDeep
    | room + 1 => (shownItems room items).map showTuple
  | set members => match room with
    | 0 => .error .tooDeep
    | _ + 1 => (members.mapM Key.shown).map showSet
  | dict entries => match room with
    | 0 => .error .tooDeep
    | room + 1 => (shownEntries room entries).map showBraces
  | ring _ shown _ => shown
  | foreign kind => .ok kind

/-- The items of a shown list. -/
def shownItems (room : Nat) : List Value → Except Fault (List String)
  | [] => .ok []
  | item :: items => do
    let part ← item.shown room
    return part :: (← shownItems room items)

/-- The entries of a shown mapping. -/
def shownEntries (room : Nat) : List (Key × Value) → Except Fault (List String)
  | [] => .ok []
  | (key, item) :: entries => do
    let name ← key.shown
    let part ← item.shown room
    return (name ++ ": " ++ part) :: (← shownEntries room entries)

end

/-- A value shown alone. -/
def display : Value → Except Fault String
  | text value => .ok value
  | date value => .ok value.text
  | moment value => .ok value.text
  | choice value => .ok value.display
  | value => value.shown callLimit

end Value

end TemplateDocs
