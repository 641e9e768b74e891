import TemplateDocs.Text.Half
import TemplateDocs.Text.Printable

/-!
# Quoted names

A name in a message stands between single quotes, or between double quotes when it holds a single
quote and no double one; what cannot be printed is written as an escape.
-/

namespace TemplateDocs.Text

/-- Hexadecimal digits of `n`, at least `width` of them. -/
def hexDigits (width n : Nat) : List Char :=
  let digits := Nat.toDigits 16 n
  List.replicate (width - digits.length) '0' ++ digits

/-- One character of a name between the quotes `quote`. -/
def quotedChar (quote c : Char) : List Char :=
  if c == '\\' || c == quote then ['\\', c]
  else if c == '\n' then ['\\', 'n']
  else if c == '\r' then ['\\', 'r']
  else if c == '\t' then ['\\', 't']
  else if isPrintable c then [c]
  else if c.toNat < 0x100 then '\\' :: 'x' :: hexDigits 2 c.toNat
  else if toUnit c < 0x10000 then '\\' :: 'u' :: hexDigits 4 (toUnit c)
  else '\\' :: 'U' :: hexDigits 8 c.toNat

/-- The quote that a name is written with. -/
def quoteFor (cs : List Char) : Char :=
  if cs.contains '\'' && !cs.contains '"' then '"' else '\''

/-- A name as messages quote it. -/
def quoted (s : String) : String :=
  let quote := quoteFor s.toList
  String.ofList (quote :: (s.toList.flatMap (quotedChar quote) ++ [quote]))

/-- One byte between the quotes `quote`. -/
def quotedByte (quote : Char) (b : UInt8) : List Char :=
  let c := Char.ofNat b.toNat
  if decide (c.toNat < 0x20) || decide (0x7F ≤ c.toNat) then
    if c == '\n' || c == '\r' || c == '\t' then quotedChar quote c
    else '\\' :: 'x' :: hexDigits 2 b.toNat
  else quotedChar quote c

/-- Bytes as messages quote them. -/
def quotedBytes (content : List UInt8) : String :=
  let quote := quoteFor (content.map fun b => Char.ofNat b.toNat)
  String.ofList ('b' :: quote :: (content.flatMap (quotedByte quote) ++ [quote]))

end TemplateDocs.Text
