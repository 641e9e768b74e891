import TemplateDocs.Value.Display

/-!
# Values as JSON text

In a cell a value is JSON on one line, its keys in order and characters beyond ASCII kept. In a
settings file it is JSON over several lines, its keys as they come and all in ASCII.
-/

namespace TemplateDocs

/-- The words for numbers without digits in JSON text. -/
def jsonWords : DoubleWords := ⟨"NaN", "Infinity"⟩

/-! ## Strings -/

/-- A code unit as an escape. -/
def unitEscape (unit : Nat) : List Char :=
  '\\' :: 'u' :: Text.hexDigits 4 unit

/-- One character of a JSON string. -/
def jsonChar (c : Char) : List Char :=
  if c == '"' then ['\\', '"']
  else if c == '\\' then ['\\', '\\']
  else if c == '\n' then ['\\', 'n']
  else if c == '\r' then ['\\', 'r']
  else if c == '\t' then ['\\', 't']
  else if c == '\x08' then ['\\', 'b']
  else if c == '\x0c' then ['\\', 'f']
  else if c.toNat < 0x20 then unitEscape c.toNat
  else [c]

/-- One character of a JSON string in ASCII; characters beyond the first plane are written as pairs. -/
def asciiChar (c : Char) : List Char :=
  if c.toNat < 0x7F then jsonChar c
  else if Text.toUnit c < 0x10000 then unitEscape (Text.toUnit c)
  else
    unitEscape (0xD800 + (c.toNat - 0x10000) / 0x400) ++
      unitEscape (0xDC00 + (c.toNat - 0x10000) % 0x400)

/-- A text between double quotes, each character written by `char`. -/
def jsonString (char : Char → List Char) (s : String) : String :=
  String.ofList ('"' :: (s.toList.flatMap char ++ ['"']))

/-- A key as the text it becomes in JSON; keys of some kinds become none. -/
def Key.jsonText : Key → Except Fault String
  | .null => .ok "null"
  | .bool value => .ok (if value then "true" else "false")
  | .int value => showInt value
  | .float value => .ok (value.text jsonWords)
  | .notANumber _ => .ok jsonWords.notANumber
  | .text value => .ok value
  | .bytes _ => .error .wrongKind
  | .date _ => .error .wrongKind
  | .moment _ => .error .wrongKind
  | .choice _ => .error .wrongKind

namespace Value

/-! ## On one line -/

/-- An entry of a mapping on one line; its key is looked at before its value. -/
def encodedEntry (e : Key × Except Fault String) : Except Fault String := do
  let name ← e.1.jsonText
  return jsonString jsonChar name ++ ": " ++ (← e.2)

mutual

/-- A value on one line, with its keys in order and with `room` for values inside of it. The first
obstacle ends it: a number with too many digits, keys without an order or without a text, something
foreign to JSON, or values too deep inside of others. -/
def encode (room : Nat) : Value → Except Fault String
  | null => .ok "null"
  | bool value => .ok (if value then "true" else "false")
  | int value => showInt value
  | float value => .ok (value.text jsonWords)
  | text value => .ok (jsonString jsonChar value)
  | list items => match room with
    | 0 => .error .tooDeep
    | room + 1 => (encodeItems room items).map fun parts => "[" ++ Text.join ", " parts ++ "]"
  | tuple items => match room with
    | 0 => .error .tooDeep
    | room + 1 => (encodeItems room items).map fun parts => "[" ++ Text.join ", " parts ++ "]"
  | dict entries => match room with
    | 0 => .error .tooDeep
    | room + 1 =>
      if Key.ordered (entries.map Prod.fst) then
        ((Key.sortEntries (encodeValues room entries)).mapM encodedEntry).map fun parts =>
          "\x7b" ++ Text.join ", " parts ++ "\x7d"
      else .error .wrongKind
  | ring _ _ _ => .error .wrongValue
  | _ => .error .wrongKind

/-- The items of a list, each on one line. -/
def encodeItems (room : Nat) : List Value → Except Fault (List String)
  | [] => .ok []
  | item :: items => do
    let part ← item.encode room
    return part :: (← encodeItems room items)

/-- The values of a mapping, each on one line or with its own obstacle. -/
def encodeValues (room : Nat) : List (Key × Value) → List (Key × Except Fault String)
  | [] => []
  | (key, item) :: entries => (key, item.encode room) :: encodeValues room entries

end

/-! ## Over several lines -/

/-- Parts on lines of their own between brackets, two more blanks in than the brackets. -/
def bracketed (opening closing : String) (depth : Nat) (parts : List String) : String :=
  let pad (n : Nat) := String.ofList (List.replicate (2 * n) ' ')
  opening ++ "\n" ++ pad (depth + 1) ++ Text.join (",\n" ++ pad (depth + 1)) parts ++ "\n" ++
    pad depth ++ closing

mutual

/-- A value over several lines at a depth, or why JSON cannot hold it. -/
def indented (depth : Nat) : Value → Except Fault String
  | null => .ok "null"
  | bool value => .ok (if value then "true" else "false")
  | int value => showInt value
  | float value => .ok (value.text jsonWords)
  | text value => .ok (jsonString asciiChar value)
  | list [] => .ok "[]"
  | list items => (indentedItems (depth + 1) items).map (bracketed "[" "]" depth)
  | tuple [] => .ok "[]"
  | tuple items => (indentedItems (depth + 1) items).map (bracketed "[" "]" depth)
  | dict [] => .ok "\x7b\x7d"
  | dict entries => (indentedEntries (depth + 1) entries).map (bracketed "\x7b" "\x7d" depth)
  | ring _ _ _ => .error .wrongValue
  | _ => .error .wrongKind

/-- The items of a list over several lines. -/
def indentedItems (depth : Nat) : List Value → Except Fault (List String)
  | [] => .ok []
  | item :: items => do
    let part ← item.indented depth
    return part :: (← indentedItems depth items)

/-- The entries of a mapping over several lines. -/
def indentedEntries (depth : Nat) : List (Key × Value) → Except Fault (List String)
  | [] => .ok []
  | (key, item) :: entries => do
    let name ← key.jsonText
    let part ← item.indented depth
    return (jsonString asciiChar name ++ ": " ++ part) :: (← indentedEntries depth entries)

end

end Value

end TemplateDocs
