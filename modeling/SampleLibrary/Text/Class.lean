import SampleLibrary.Text.Class.Alphanumeric

/-!
# Character classes

The classes that tags, keys, queries and field values are made of. Letters, digits and white space
are those of Unicode; the words of the full-text index are ASCII letters and digits together with
everything beyond ASCII.
-/

namespace SampleLibrary.Text

def isAlphanumeric (c : Char) : Bool := alphanumericRanges.has c.toNat

def blankRanges : Ranges := [
  (0x9, 0xD), (0x20, 0x20), (0x85, 0x85), (0xA0, 0xA0), (0x1680, 0x1680), (0x2000, 0x200A),
  (0x2028, 0x2029), (0x202F, 0x202F), (0x205F, 0x205F), (0x3000, 0x3000)]

def isBlank (c : Char) : Bool := blankRanges.has c.toNat

/-- A control character: below the space, or from delete up to the end of the second control block. -/
def isControl (c : Char) : Bool := c.toNat < 0x20 || (0x7F ≤ c.toNat && c.toNat < 0xA0)

def isWord (c : Char) : Bool := isAlphanumeric c || c == '_'

def isDecimal (c : Char) : Bool := '0' ≤ c && c ≤ '9'

def isAsciiAlphanumeric (c : Char) : Bool :=
  isDecimal c || ('a' ≤ c && c ≤ 'z') || ('A' ≤ c && c ≤ 'Z')

def isLowerHex (c : Char) : Bool := isDecimal c || ('a' ≤ c && c ≤ 'f')

/-- ASCII letters to lower case; everything else stays. -/
def asciiLower (c : Char) : Char :=
  if 'A' ≤ c && c ≤ 'Z' then Char.ofNat (c.toNat + 32) else c

end SampleLibrary.Text
