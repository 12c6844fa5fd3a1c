import SampleLibrary.Text.Split

/-!
# The words of a query

A query is cut into words the way a shell does it. Single quotes keep everything between them;
between double quotes a backslash escapes a quote or a backslash and otherwise stands for itself;
outside of quotes it escapes any character. A text that ends too early is cut at white space
instead, without quotes and backslashes.

Main definitions: `scan`, `split`, and `quote`, which makes one word of any text.
-/

namespace SampleLibrary.Query

/-- How the text of a query can end too early. -/
inductive Fault where
  | unterminatedQuote
  | trailingEscape
  deriving Repr, DecidableEq

def Fault.message : Fault → String
  | unterminatedQuote => "No closing quotation"
  | trailingEscape => "No escaped character"

/-- A word and the byte at which it starts in the text. -/
structure Word where
  value : String
  start : Nat
  deriving Repr, DecidableEq

/-- What a text was cut into. If it ends too early, the last word is what there is of it. -/
structure Scan where
  words : List Word
  fault : Option Fault
  deriving Repr, DecidableEq

/-- A word that is being read, its characters last one first. -/
structure OpenWord where
  start : Nat
  chars : List Char

def OpenWord.toWord (w : OpenWord) : Word := ⟨String.ofList w.chars.reverse, w.start⟩

def OpenWord.push (w : OpenWord) (c : Char) : OpenWord := { w with chars := c :: w.chars }

/-- Outside of quotes, in a word or between words, or in one kind of quotes. -/
inductive Mode where
  | bare (word : Option OpenWord)
  | single (word : OpenWord)
  | double (word : OpenWord)

def isSeparator (c : Char) : Bool := c == ' ' || c == '\t' || c == '\r' || c == '\n'

def Scan.cons (w : Option OpenWord) (s : Scan) : Scan :=
  { s with words := (w.map OpenWord.toWord).toList ++ s.words }

def scanFrom (mode : Mode) (pos : Nat) : List Char → Scan
  | [] =>
    match mode with
    | .bare w => Scan.cons w ⟨[], none⟩
    | .single w => ⟨[w.toWord], some .unterminatedQuote⟩
    | .double w => ⟨[w.toWord], some .unterminatedQuote⟩
  | c :: cs =>
    let next := pos + c.utf8Size
    match mode with
    | .bare w =>
      if isSeparator c then Scan.cons w (scanFrom (.bare none) next cs)
      else
        let word := w.getD ⟨pos, []⟩
        if c == '\'' then scanFrom (.single word) next cs
        else if c == '"' then scanFrom (.double word) next cs
        else if c == '\\' then
          match cs with
          | [] => ⟨[word.toWord], some .trailingEscape⟩
          | e :: rest => scanFrom (.bare (some (word.push e))) (next + e.utf8Size) rest
        else scanFrom (.bare (some (word.push c))) next cs
    | .single word =>
      if c == '\'' then scanFrom (.bare (some word)) next cs
      else scanFrom (.single (word.push c)) next cs
    | .double word =>
      if c == '"' then scanFrom (.bare (some word)) next cs
      else if c == '\\' then
        match cs with
        | [] => scanFrom (.double (word.push '\\')) next []
        | e :: rest =>
          if e == '"' || e == '\\' then
            scanFrom (.double (word.push e)) (next + e.utf8Size) rest
          else scanFrom (.double (word.push '\\')) next (e :: rest)
      else scanFrom (.double (word.push c)) next cs

def scan (text : String) : Scan := scanFrom (.bare none) 0 text.toList

def split (text : String) : Except Fault (List String) :=
  match scan text with
  | ⟨words, none⟩ => .ok (words.map (·.value))
  | ⟨_, some fault⟩ => .error fault

/-- A quote or a backslash. -/
def isQuoting (c : Char) : Bool := c == '"' || c == '\'' || c == '\\'

def splitLenient (text : String) : List String :=
  match split text with
  | .ok words => words
  | .error _ => Text.blankWords (String.ofList (text.toList.filter (!isQuoting ·)))

def quotedChar (c : Char) : List Char := if c == '"' || c == '\\' then ['\\', c] else [c]

/-- The text written as one word, between double quotes if it would be cut or changed otherwise. -/
def quote (part : String) : String :=
  let cs := part.toList
  if cs.isEmpty || cs.any (fun c => isSeparator c || isQuoting c) then
    String.ofList ('"' :: cs.flatMap quotedChar ++ ['"'])
  else part

end SampleLibrary.Query
