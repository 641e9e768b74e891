import TemplateDocs.Text.Lines
import TemplateDocs.Text.Utf8
import TemplateDocs.Yaml.Cursor

/-!
# The text of a YAML file

A file is read piece by piece, and a piece that cannot be read fails only when it is reached. So the
text of a file is what can be read of it, together with why it ends there.
-/

namespace TemplateDocs.Yaml

/-- A text as far as it can be read. -/
structure Source where
  chars : List Char
  /-- Why the text cannot be read beyond its end, if it goes on there. -/
  wall : Option ReadError := none
  deriving DecidableEq, Repr, Inhabited

/-! ## Bytes -/

/-- The bytes that are turned into characters at a time. -/
def blockSize : Nat := 8192

/-- The characters that are taken at a time. -/
def pieceSize : Nat := 4096

/-- The place of the first byte that cannot belong to a text, after `position` bytes and with `owed`
tails still to come; a text that ends inside of a character fails at its end. -/
def brokenAt? (position owed least greatest : Nat) : List Nat → Option Nat
  | [] => if owed = 0 then none else some position
  | b :: rest =>
    if 0 < owed then
      if least ≤ b ∧ b ≤ greatest then brokenAt? (position + 1) (owed - 1) 0x80 0xBF rest
      else some position
    else if b < 0x80 then brokenAt? (position + 1) 0 0 0 rest
    else
      match Text.leadByte? b with
      | some (tails, lo, hi, _) => brokenAt? (position + 1) tails lo hi rest
      | none => some position

/-- The whole characters at the start of bytes, a carriage return at the end left out. -/
def wholeChars (bytes : List Nat) : List Char :=
  let decoded := Text.decodeFrom 0 0 0 0 bytes
  let whole := if (brokenAt? 0 0 0 0 bytes).isSome then decoded.dropLast else decoded
  Text.fileText (if whole.getLast? == some '\r' then whole.dropLast else whole)

/-- The text of bytes as far as they make up one. Bytes are decoded block by block, and characters
are taken piece by piece, two pieces at first. -/
def decoded (bytes : ByteArray) : Source :=
  match Text.decode? bytes with
  | some s => { chars := Text.fileText s.toList }
  | none =>
    let codes := bytes.toList.map UInt8.toNat
    let broken := (brokenAt? 0 0 0 0 codes).getD codes.length
    let start := if broken < codes.length then broken / blockSize * blockSize else codes.length
    let chars := wholeChars (codes.take start)
    let pieces := chars.length / pieceSize
    { chars := if pieces < 2 then [] else chars.take (pieces * pieceSize)
      wall := some (.fault .notText) }

/-! ## Characters -/

/-- The characters that a text may hold. -/
def isReadable (c : Char) : Bool :=
  let n := c.toNat
  n == 0x09 || n == 0x0A || n == 0x0D || (decide (0x20 ≤ n) && decide (n ≤ 0x7E)) || n == 0x85 ||
  (decide (0xA0 ≤ n) && decide (n ≤ 0xD7FF)) || (decide (0xE000 ≤ n) && decide (n ≤ 0xFFFD)) ||
  decide (0x10000 ≤ n)

/-- The number of readable characters before the piece with the first unreadable one. -/
def readablePieces (count : Nat) : Nat :=
  if count < 2 * pieceSize then 0 else count / pieceSize * pieceSize

/-- A text up to the piece that has a character which no text may hold. -/
def Source.checked (s : Source) : Source :=
  if s.chars.all isReadable then s
  else
    let kept := readablePieces (s.chars.takeWhile isReadable).length
    { chars := s.chars.take kept, wall := some .malformed }

/-- The text of a file. -/
def Source.ofBytes (bytes : ByteArray) : Source :=
  (decoded bytes).checked

/-- A text in memory. -/
def Source.ofString (s : String) : Source :=
  { chars := Text.fileText s.toList : Source }.checked

end TemplateDocs.Yaml
