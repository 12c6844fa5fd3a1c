import SampleLibrary.Text.Class

/-!
# Cutting texts

Splitting at separators, trimming, and looking for pieces. Everything works on lists of characters;
positions, where they matter, count the bytes of UTF-8.
-/

namespace SampleLibrary.Text

/-- The pieces between the characters that satisfy `p`; always at least one, and empty ones stay. -/
def splitAtAll (p : Char → Bool) : List Char → List (List Char)
  | [] => [[]]
  | c :: cs =>
    if p c then [] :: splitAtAll p cs
    else match splitAtAll p cs with
      | [] => [[c]]
      | piece :: pieces => (c :: piece) :: pieces

/-- The longest pieces without a character that satisfies `p`. -/
def wordsBetween (p : Char → Bool) (cs : List Char) : List (List Char) :=
  (splitAtAll p cs).filter (!·.isEmpty)

def blankWords (s : String) : List String := (wordsBetween isBlank s.toList).map String.ofList

def trimLeft (cs : List Char) : List Char := cs.dropWhile isBlank

def trim (cs : List Char) : List Char := (trimLeft (trimLeft cs).reverse).reverse

def afterFront? : (front : List Char) → List Char → Option (List Char)
  | [], cs => some cs
  | _ :: _, [] => none
  | f :: fs, c :: cs => if f == c then afterFront? fs cs else none

def hasPiece (piece : List Char) : List Char → Bool
  | [] => piece.isEmpty
  | c :: cs => piece.isPrefixOf (c :: cs) || hasPiece piece cs

def join (between : String) (parts : List String) : String := between.intercalate parts

/-- Number of bytes of the text in UTF-8. -/
def byteLength : List Char → Nat
  | [] => 0
  | c :: cs => c.utf8Size + byteLength cs

/-- The text from byte `n` on; nothing if `n` is not a boundary of characters. -/
def dropBytes? : Nat → List Char → Option (List Char)
  | 0, cs => some cs
  | _ + 1, [] => none
  | n + 1, c :: cs => if c.utf8Size ≤ n + 1 then dropBytes? (n + 1 - c.utf8Size) cs else none
termination_by _ cs => cs.length

/-- The first `n` bytes of the text; nothing if `n` is not a boundary of characters. -/
def takeBytes? : Nat → List Char → Option (List Char)
  | 0, _ => some []
  | _ + 1, [] => none
  | n + 1, c :: cs =>
    if c.utf8Size ≤ n + 1 then (takeBytes? (n + 1 - c.utf8Size) cs).map (c :: ·) else none
termination_by _ cs => cs.length

/-- The bytes from `start` up to `stop`; nothing unless both are boundaries in order. -/
def slice? (cs : List Char) (start stop : Nat) : Option (List Char) :=
  if start ≤ stop then (dropBytes? start cs).bind (takeBytes? (stop - start)) else none

end SampleLibrary.Text
