import SampleLibrary.Text.Case.Table

/-!
# Upper and lower case of texts

Every letter goes to its full mapping, which may be longer than one character. A capital sigma that
ends a word becomes the final form of the letter; this is the only mapping that looks at its
neighbours.
-/

namespace SampleLibrary.Text

def CaseRun.map? (r : CaseRun) (n : Nat) : Option Nat :=
  if r.first ≤ n && n ≤ r.last && (n - r.first) % r.stride == 0 then some (r.target + (n - r.first))
  else none

def lowerChar (c : Char) : List Char :=
  if c.toNat == 0x130 then [Char.ofNat 0x69, Char.ofNat 0x307]
  else match lowerRuns.findSome? (·.map? c.toNat) with
    | some n => [Char.ofNat n]
    | none => [c]

def upperChar (c : Char) : List Char :=
  match longUppers.lookup c.toNat with
  | some ns => ns.map Char.ofNat
  | none => match upperRuns.findSome? (·.map? c.toNat) with
    | some n => [Char.ofNat n]
    | none => [c]

/-- Does a cased letter come first, once the characters that words are looked through are skipped? -/
def startsCased (cs : List Char) : Bool :=
  match cs.dropWhile (fun c => caseIgnorableRanges.has c.toNat) with
  | [] => false
  | c :: _ => casedRanges.has c.toNat

/-- The lower case of `cs`, where `before` is the text to its left, nearest character first. -/
def lowerFrom (before : List Char) : List Char → List Char
  | [] => []
  | c :: rest =>
    (if c.toNat == 0x3A3 then
      if startsCased before && !startsCased rest then [Char.ofNat 0x3C2] else [Char.ofNat 0x3C3]
    else lowerChar c) ++ lowerFrom (c :: before) rest

def lowercase (s : String) : String := String.ofList (lowerFrom [] s.toList)

def uppercase (s : String) : String := String.ofList (s.toList.flatMap upperChar)

/-- First letter in upper case, the others letter by letter in lower case. -/
def capitalize (s : String) : String :=
  match s.toList with
  | [] => ""
  | c :: rest => String.ofList (upperChar c ++ rest.flatMap lowerChar)

end SampleLibrary.Text
