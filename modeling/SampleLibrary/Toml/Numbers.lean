import SampleLibrary.Config.Tree
import SampleLibrary.Decimal.Reading
import SampleLibrary.Toml.Strings

/-!
# Numbers and dates of TOML

Digits of numbers may be kept apart by single underscores. Whole numbers have 64 bits, do not start
with a needless zero, and can be written in other bases. Dates and times have to exist.
-/

namespace SampleLibrary.Toml

open Config (Tree)

/-- Reads digits, with single underscores between them. -/
def readDigits (isDigit : Char → Bool) : List Char → List Char × List Char
  | '_' :: c :: rest =>
    if isDigit c then
      let (digits, after) := readDigits isDigit rest
      (c :: digits, after)
    else ([], '_' :: c :: rest)
  | c :: rest =>
    if isDigit c then
      let (digits, after) := readDigits isDigit rest
      (c :: digits, after)
    else ([], c :: rest)
  | [] => ([], [])

/-- Reads at least one digit, the first of them without an underscore in front. -/
def readSomeDigits (isDigit : Char → Bool) : Reader (List Char)
  | c :: rest => if isDigit c then some (readDigits isDigit (c :: rest)) else none
  | [] => none

def readSign : List Char → List Char × List Char
  | '+' :: rest => (['+'], rest)
  | '-' :: rest => (['-'], rest)
  | cs => ([], cs)

/-- Reads the digits of a whole number: a zero in front stands alone. -/
def readWhole : Reader (List Char)
  | '0' :: rest => some (['0'], rest)
  | cs => readSomeDigits Text.isDecimal cs

def wholeTree? (n : Int) : Option Tree :=
  if Int64.minValue.toInt ≤ n && n ≤ Int64.maxValue.toInt then some (.integer n) else none

def readInteger : Reader Tree := fun cs => do
  let (sign, rest) := readSign cs
  let (digits, rest) ← readWhole rest
  let n ← Decimal.readInt? (sign ++ digits)
  return (← wholeTree? n, rest)

def isDigitOf (base : Nat) (c : Char) : Bool := (hexDigit? c).any (· < base)

def readInBase (base : Nat) : Reader Tree := fun cs => do
  let (digits, rest) ← readSomeDigits (isDigitOf base) cs
  let n := digits.foldl (fun n c => base * n + (hexDigit? c).getD 0) 0
  return (← wholeTree? n, rest)

def readExponent : Reader (List Char)
  | c :: rest =>
    if c == 'e' || c == 'E' then
      let (sign, rest) := readSign rest
      (readSomeDigits Text.isDecimal rest).map fun (digits, rest) => ('e' :: sign ++ digits, rest)
    else some ([], c :: rest)
  | [] => some ([], [])

def readFraction : Reader (List Char)
  | '.' :: rest =>
    (readSomeDigits Text.isDecimal rest).map fun (digits, rest) => ('.' :: digits, rest)
  | cs => some ([], cs)

def isFractional (rest : List Char) : Bool :=
  rest.head?.any fun c => c == '.' || c == 'e' || c == 'E'

/-- The float that a text writes; too large a number is refused. -/
def floatTree? (text : List Char) : Option Tree :=
  match Decimal.readFloat? text with
  | some x => if x = Binary64.infinite false then none else some (.real x)
  | none => none

def readFloat : Reader Tree := fun cs => do
  let (sign, rest) := readSign cs
  let (whole, rest) ← readWhole rest
  let (fraction, rest) ← readFraction rest
  let (exponent, rest) ← readExponent rest
  return (← floatTree? (sign ++ whole ++ fraction ++ exponent), rest)

def readSpecial : Reader Tree := fun cs =>
  let (sign, rest) := readSign cs
  match rest with
  | 'i' :: 'n' :: 'f' :: rest => some (.real (.infinite (sign == ['-'])), rest)
  | 'n' :: 'a' :: 'n' :: rest => some (.real .nan, rest)
  | _ => none

def readDecimal : Reader Tree := fun cs =>
  match readWhole (readSign cs).2 with
  | some (_, rest) => if isFractional rest then readFloat cs else readInteger cs
  | none => readSpecial cs

def readNumber : Reader Tree
  | '0' :: 'x' :: rest => readInBase 16 rest
  | '0' :: 'o' :: rest => readInBase 8 rest
  | '0' :: 'b' :: rest => readInBase 2 rest
  | cs => readDecimal cs

/-- Reads exactly two digits as a number from `low` to `high`. -/
def readTwoDigits (low high : Nat) : Reader Nat
  | a :: b :: rest =>
    if Text.isDecimal a && Text.isDecimal b then
      let n := Decimal.digitsValue 0 [a, b]
      if low ≤ n && n ≤ high then some (n, rest) else none
    else none
  | _ => none

def readChar (c : Char) : Reader Unit
  | d :: rest => if d == c then some ((), rest) else none
  | [] => none

def daysOf (year month : Nat) : Nat :=
  if month == 2 then
    if year % 4 == 0 && (year % 100 != 0 || year % 400 == 0) then 29 else 28
  else if [4, 6, 9, 11].contains month then 30 else 31

/-- Skips a time of day. -/
def readTime : Reader Unit := fun cs => do
  let (_, rest) ← readTwoDigits 0 23 cs
  let (_, rest) ← readChar ':' rest
  let (_, rest) ← readTwoDigits 0 59 rest
  let (_, rest) ← readChar ':' rest
  let (_, rest) ← readTwoDigits 0 60 rest
  match rest with
  | '.' :: c :: after => if Text.isDecimal c then some ((), after.dropWhile Text.isDecimal) else none
  | '.' :: [] => none
  | _ => some ((), rest)

def readOffset : Reader Unit
  | c :: rest =>
    if c == 'Z' || c == 'z' then some ((), rest)
    else if c == '+' || c == '-' then do
      let (_, rest) ← readTwoDigits 0 23 rest
      let (_, rest) ← readChar ':' rest
      let (_, rest) ← readTwoDigits 0 59 rest
      return ((), rest)
    else some ((), c :: rest)
  | [] => some ((), [])

def startsTime : List Char → Bool
  | c :: a :: b :: ':' :: _ =>
    (c == 'T' || c == 't' || c == ' ') && Text.isDecimal a && Text.isDecimal b
  | _ => false

/-- Skips a date whose year has been read, and a time if there is one. -/
def readDate (year : Nat) : Reader Unit := fun cs => do
  let (month, rest) ← readTwoDigits 1 12 cs
  let (_, rest) ← readChar '-' rest
  let (_, rest) ← readTwoDigits 1 (daysOf year month) rest
  if startsTime rest then
    let (_, rest) ← readTime (rest.drop 1)
    readOffset rest
  else return ((), rest)

def readNumberOrDate : Reader Tree := fun cs =>
  let dated (read : Option (Unit × List Char)) : Option (Tree × List Char) :=
    read.map fun (_, rest) => (.date (String.ofList (cs.take (cs.length - rest.length))), rest)
  match cs with
  | a :: b :: ':' :: _ =>
    if Text.isDecimal a && Text.isDecimal b then dated (readTime cs) else readNumber cs
  | a :: b :: c :: d :: '-' :: rest =>
    if [a, b, c, d].all Text.isDecimal then
      dated (readDate (Decimal.digitsValue 0 [a, b, c, d]) rest)
    else readNumber cs
  | _ => readNumber cs

end SampleLibrary.Toml
