/-!
# MD5 checksums

The checksum of some bytes in 32 lower-case hexadecimal digits. The bytes are filled up to whole
blocks of 64, with their number of bits at the end, and each block changes a state of four words in
64 rounds.
-/

namespace SampleLibrary.Md5

/-- The state between blocks. -/
structure State where
  a : UInt32
  b : UInt32
  c : UInt32
  d : UInt32
  deriving Repr, DecidableEq

def start : State := ⟨0x67452301, 0xEFCDAB89, 0x98BADCFE, 0x10325476⟩

/-- The constant that each round adds. -/
def constants : List UInt32 := [
  0xD76AA478, 0xE8C7B756, 0x242070DB, 0xC1BDCEEE, 0xF57C0FAF, 0x4787C62A,
  0xA8304613, 0xFD469501, 0x698098D8, 0x8B44F7AF, 0xFFFF5BB1, 0x895CD7BE,
  0x6B901122, 0xFD987193, 0xA679438E, 0x49B40821, 0xF61E2562, 0xC040B340,
  0x265E5A51, 0xE9B6C7AA, 0xD62F105D, 0x02441453, 0xD8A1E681, 0xE7D3FBC8,
  0x21E1CDE6, 0xC33707D6, 0xF4D50D87, 0x455A14ED, 0xA9E3E905, 0xFCEFA3F8,
  0x676F02D9, 0x8D2A4C8A, 0xFFFA3942, 0x8771F681, 0x6D9D6122, 0xFDE5380C,
  0xA4BEEA44, 0x4BDECFA9, 0xF6BB4B60, 0xBEBFBC70, 0x289B7EC6, 0xEAA127FA,
  0xD4EF3085, 0x04881D05, 0xD9D4D039, 0xE6DB99E5, 0x1FA27CF8, 0xC4AC5665,
  0xF4292244, 0x432AFF97, 0xAB9423A7, 0xFC93A039, 0x655B59C3, 0x8F0CCC92,
  0xFFEFF47D, 0x85845DD1, 0x6FA87E4F, 0xFE2CE6E0, 0xA3014314, 0x4E0811A1,
  0xF7537E82, 0xBD3AF235, 0x2AD7D2BB, 0xEB86D391]

/-- How far each round turns, four amounts for each quarter of the rounds. -/
def turns : List (List UInt32) :=
  [[7, 12, 17, 22], [5, 9, 14, 20], [4, 11, 16, 23], [6, 10, 15, 21]]

/-- A round: its quarter, the word of the block that it takes, what it adds and how far it turns. -/
structure Round where
  quarter : Nat
  word : Nat
  constant : UInt32
  turn : UInt32

def wordOf (i : Nat) : Nat :=
  match i / 16 with
  | 0 => i
  | 1 => (5 * i + 1) % 16
  | 2 => (3 * i + 5) % 16
  | _ => (7 * i) % 16

def rounds : List Round :=
  constants.mapIdx fun i constant =>
    ⟨i / 16, wordOf i, constant, ((turns[i / 16]?.getD [])[i % 4]?).getD 0⟩

def turnLeft (x n : UInt32) : UInt32 := (x <<< n) ||| (x >>> (32 - n))

def mix (quarter : Nat) (b c d : UInt32) : UInt32 :=
  match quarter with
  | 0 => (b &&& c) ||| (~~~b &&& d)
  | 1 => (d &&& b) ||| (~~~d &&& c)
  | 2 => b ^^^ c ^^^ d
  | _ => c ^^^ (b ||| ~~~d)

def byteAt (bytes : ByteArray) (i : Nat) : UInt8 := if h : i < bytes.size then bytes[i] else 0

/-- The word of four bytes from a place on, the lowest byte first. -/
def wordAt (bytes : ByteArray) (i : Nat) : UInt32 :=
  (byteAt bytes i).toUInt32 ||| ((byteAt bytes (i + 1)).toUInt32 <<< 8)
    ||| ((byteAt bytes (i + 2)).toUInt32 <<< 16) ||| ((byteAt bytes (i + 3)).toUInt32 <<< 24)

/-- The state after a round on the block that starts at a place. -/
def applyRound (bytes : ByteArray) (place : Nat) (s : State) (r : Round) : State :=
  let f := mix r.quarter s.b s.c s.d + s.a + r.constant + wordAt bytes (place + 4 * r.word)
  ⟨s.d, s.b + turnLeft f r.turn, s.b, s.c⟩

def applyBlock (bytes : ByteArray) (s : State) (place : Nat) : State :=
  let t := rounds.foldl (applyRound bytes place) s
  ⟨s.a + t.a, s.b + t.b, s.c + t.c, s.d + t.d⟩

/-- The lowest `count` bytes of a number, the lowest one first. -/
def lowBytes : (count : Nat) → Nat → List UInt8
  | 0, _ => []
  | count + 1, n => n.toUInt8 :: lowBytes count (n / 256)

def filling (size : Nat) : List UInt8 :=
  0x80 :: List.replicate ((119 - size % 64) % 64) 0 ++ lowBytes 8 (8 * size)

def applyBlocks (bytes : ByteArray) : (count : Nat) → State
  | 0 => start
  | count + 1 => applyBlock bytes (applyBlocks bytes count) (64 * count)

def hexByte (b : UInt8) : List Char :=
  [Nat.digitChar (b.toNat / 16), Nat.digitChar (b.toNat % 16)]

def checksum (bytes : ByteArray) : String :=
  let whole := (filling bytes.size).foldl ByteArray.push bytes
  let s := applyBlocks whole (whole.size / 64)
  String.ofList ([s.a, s.b, s.c, s.d].flatMap fun w => (lowBytes 4 w.toNat).flatMap hexByte)

end SampleLibrary.Md5
