/-!
# Bytes written in letters

Four letters stand for three bytes; equals signs fill the last four. Whatever is no such letter is
passed over, and nothing is read after the signs that fill.
-/

namespace TemplateDocs.Text

/-- The letters for six bits, zero first. -/
def sixBitLetters : List Char :=
  "ABCDEFGHIJKLMNOPQRSTUVWXYZabcdefghijklmnopqrstuvwxyz0123456789+/".toList

/-- The six bits that a letter stands for. -/
def sixBits? (c : Char) : Option Nat :=
  sixBitLetters.findIdx? (· == c)

/-- Reads letters after `place` letters of a group of four, of whose bits `left` are still to be
written, and after `fills` equals signs. -/
def sixBitBytes (place left fills : Nat) : List Char → Option (List UInt8)
  | [] => if place = 0 then some [] else none
  | '=' :: rest =>
    if 2 ≤ place then
      if 4 ≤ place + fills + 1 then some [] else sixBitBytes place left (fills + 1) rest
    else sixBitBytes place left fills rest
  | c :: rest =>
    match sixBits? c with
    | none => sixBitBytes place left fills rest
    | some bits =>
      let more (byte place left : Nat) : Option (List UInt8) :=
        (sixBitBytes place left 0 rest).map (UInt8.ofNat byte :: ·)
      match place with
      | 0 => sixBitBytes 1 bits 0 rest
      | 1 => more (left * 4 + bits / 16) 2 (bits % 16)
      | 2 => more (left * 16 + bits / 4) 3 (bits % 4)
      | _ => more (left * 64 + bits) 0 0

/-- The bytes that letters stand for; none if the last group is not full. -/
def ofBase64? (cs : List Char) : Option (List UInt8) :=
  sixBitBytes 0 0 0 cs

end TemplateDocs.Text
