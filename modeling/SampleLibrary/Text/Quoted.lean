import SampleLibrary.Text.Printable.Table

/-!
# Quoted texts in messages

A text inside a message stands between double quotes. Quotes and backslashes are escaped, the usual
control characters have a letter, and what has no glyph of its own is spelled by its code point.
-/

namespace SampleLibrary.Text

/-- The digits of `n` in base sixteen, in lower case and without leading zeros. -/
def hexDigits (n : Nat) : List Char := Nat.toDigits 16 n

def quotedChar (c : Char) : List Char :=
  if c == '\x00' then ['\\', '0']
  else if c == '\t' then ['\\', 't']
  else if c == '\r' then ['\\', 'r']
  else if c == '\n' then ['\\', 'n']
  else if c == '\\' then ['\\', '\\']
  else if c == '"' then ['\\', '"']
  else if extendingRanges.has c.toNat || unprintableRanges.has c.toNat then
    ['\\', 'u', '{'] ++ hexDigits c.toNat ++ ['}']
  else [c]

def quoted (s : String) : String := String.ofList ('"' :: s.toList.flatMap quotedChar ++ ['"'])

end SampleLibrary.Text
