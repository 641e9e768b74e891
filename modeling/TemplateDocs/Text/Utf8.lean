import TemplateDocs.Text.Half

/-!
# Texts and bytes

Bytes are read as UTF-8, either strictly or with the replacement character in place of every maximal
part that starts no character.
-/

namespace TemplateDocs.Text

/-- The text that the bytes encode, if they are valid. -/
def decode? (bytes : ByteArray) : Option String :=
  String.fromUTF8? bytes

/-- What a byte at the start of a character asks for: the number of tails, the least and the greatest
first tail, and the bits that the byte itself carries. -/
def leadByte? (b : Nat) : Option (Nat × Nat × Nat × Nat) :=
  if 0xC2 ≤ b ∧ b ≤ 0xDF then some (1, 0x80, 0xBF, b - 0xC0)
  else if b = 0xE0 then some (2, 0xA0, 0xBF, 0)
  else if b = 0xED then some (2, 0x80, 0x9F, 0xD)
  else if 0xE1 ≤ b ∧ b ≤ 0xEF then some (2, 0x80, 0xBF, b - 0xE0)
  else if b = 0xF0 then some (3, 0x90, 0xBF, 0)
  else if 0xF1 ≤ b ∧ b ≤ 0xF3 then some (3, 0x80, 0xBF, b - 0xF0)
  else if b = 0xF4 then some (3, 0x80, 0x8F, 4)
  else none

/-- Reads the bytes with `owed` tails still to come for a character whose bits so far are `bits`; a
byte that cannot be the next tail ends the broken character and is read anew. -/
def decodeFrom (owed least greatest bits : Nat) : List Nat → List Char
  | [] => if owed = 0 then [] else ['\uFFFD']
  | b :: rest =>
    if 0 < owed ∧ least ≤ b ∧ b ≤ greatest then
      let bits := 64 * bits + (b - 0x80)
      if owed = 1 then Char.ofNat bits :: decodeFrom 0 0 0 0 rest
      else decodeFrom (owed - 1) 0x80 0xBF bits rest
    else
      let broken := if owed = 0 then [] else ['\uFFFD']
      if b < 0x80 then broken ++ Char.ofNat b :: decodeFrom 0 0 0 0 rest
      else
        match leadByte? b with
        | some (tails, lo, hi, bits) => broken ++ decodeFrom tails lo hi bits rest
        | none => broken ++ '\uFFFD' :: decodeFrom 0 0 0 0 rest

/-- The text that the bytes encode, with broken parts replaced. -/
def decodeLossy (bytes : ByteArray) : String :=
  match decode? bytes with
  | some s => s
  | none => String.ofList (decodeFrom 0 0 0 0 (bytes.toList.map UInt8.toNat))

/-- The bytes of a text. -/
def encode (s : String) : ByteArray :=
  s.toUTF8

/-- The bytes of a text, unless half of a pair stands in it. -/
def encode? (s : String) : Option ByteArray :=
  if hasHalf s then none else some (encode s)

end TemplateDocs.Text
