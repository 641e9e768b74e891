/-!
# Halves of pairs

Escapes write a character beyond the first plane as a pair of code units. One half of a pair may also
be written alone. It is no character, but a text can hold it, and no encoding has bytes for it. The
characters of the last private plane with the same last digits are set aside for the halves.

This has a limit: of the characters from U+10D800 to U+10DFFF themselves, none can be told from the half
that it is set aside for. A text that holds one of them is taken for one with that half.
-/

namespace TemplateDocs.Text

/-- Whether a code unit is one half of a pair. -/
def isHalf (unit : Nat) : Bool :=
  decide (0xD800 ≤ unit) && decide (unit < 0xE000)

/-- How far the characters that are set aside are from the halves. -/
def halfShift : Nat := 0x100000

/-- The character with a code point, or the one that is set aside for half of a pair. -/
def ofUnit (unit : Nat) : Char :=
  Char.ofNat (if isHalf unit then halfShift + unit else unit)

/-- The code unit or code point that a character stands for. -/
def toUnit (c : Char) : Nat :=
  if isHalf (c.toNat - halfShift) then c.toNat - halfShift else c.toNat

/-- Whether a character stands for half of a pair. -/
def standsForHalf (c : Char) : Bool :=
  isHalf (toUnit c)

/-- Whether half of a pair stands in a text. -/
def hasHalf (s : String) : Bool :=
  s.toList.any standsForHalf

end TemplateDocs.Text
