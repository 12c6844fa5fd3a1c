import SampleLibrary.Metadata.View
import SampleLibrary.Query.Words

/-!
# The full-text index

Every item has a document: its indexed values and tags, each followed by a delimiter. The index
knows a document by its words, which are runs of ASCII letters and digits and of all characters
beyond ASCII, with ASCII letters in lower case. A search expression is a list of phrases, all of
which have to occur.
-/

namespace SampleLibrary.FullText

/-- What follows each value in a document. -/
def delimiter : String := "~~~"

def document (m : Metadata) (tags : TagSet) : String :=
  Text.join " " ((m.indexedValues ++ tags.toList).map fun value => value ++ " " ++ delimiter)

def isWordChar (c : Char) : Bool := c.toNat ≥ 128 || Text.isAsciiAlphanumeric c

def words (text : String) : List String :=
  (Text.wordsBetween (!isWordChar ·) text.toList).map String.ofList

/-- A word of a text: folded to lower case, the byte where it starts, its length in bytes, the character
right before it, and the text behind it. -/
structure Token where
  folded : List Char
  start : Nat
  size : Nat
  before : Option Char
  rest : List Char

/-- The tokens of a text that goes on at byte `pos`; `word` is the word being read, last character
first, and `before` is the last character outside of words. -/
def tokensFrom (before : Option Char) (word : List Char) (pos : Nat) : List Char → List Token
  | [] => if word.isEmpty then [] else [token pos []]
  | c :: cs =>
    if isWordChar c then tokensFrom before (c :: word) (pos + c.utf8Size) cs
    else
      (if word.isEmpty then [] else [token pos (c :: cs)])
        ++ tokensFrom (some c) [] (pos + c.utf8Size) cs
where
  /-- The word that ends at byte `stop`. -/
  token (stop : Nat) (rest : List Char) : Token :=
    let size := Text.byteLength word
    ⟨(word.map Text.asciiLower).reverse, stop - size, size, before, rest⟩

def tokens (cs : List Char) : List Token := tokensFrom none [] 0 cs

/-- The index reads a document up to its first NUL. -/
def indexed (document : String) : List Token :=
  tokens (document.toList.takeWhile (· != '\x00'))

/-- A word to look for: the word itself or every word that starts with it, anywhere in a document or
only as its first word. -/
structure Term where
  folded : List Char
  anyEnding : Bool
  leading : Bool
  deriving Repr, DecidableEq

def Term.fits (t : Term) (isFirst : Bool) (word : List Char) : Bool :=
  (isFirst || !t.leading) && if t.anyEnding then t.folded.isPrefixOf word else t.folded == word

/-- Terms that have to follow each other. -/
abbrev Phrase := List Term

/-- The terms in a text. A star right behind a word asks for any ending, a caret right before it for
the first word. -/
def termsOf (cs : List Char) : Phrase :=
  (tokens cs).map fun t => ⟨t.folded, t.rest.head? == some '*', t.before == some '^'⟩

def Phrase.startsAt (isFirst : Bool) : Phrase → List Token → Bool
  | [], _ => true
  | _ :: _, [] => false
  | t :: ts, w :: ws => t.fits isFirst w.folded && Phrase.startsAt false ts ws

/-- The places where the phrase occurs from some word on, as the tokens from there on. -/
def Phrase.occurrencesFrom (p : Phrase) (isFirst : Bool) : List Token → List (List Token)
  | [] => []
  | w :: ws =>
    if p.startsAt isFirst (w :: ws) then (w :: ws) :: p.occurrencesFrom false ws
    else p.occurrencesFrom false ws

/-- The places where the phrase occurs in a document. A phrase without words occurs nowhere. -/
def Phrase.occurrences (p : Phrase) (document : List Token) : List (List Token) :=
  if p.isEmpty then [] else p.occurrencesFrom true document

/-- The expression cannot be read. -/
structure Malformed where
  deriving Repr, DecidableEq

/-- The phrases of an expression: a quoted run is one phrase, even without a word, and outside of quotes
each word is one. `fuel` bounds the number of runs. -/
def phrasesFrom : (fuel : Nat) → List Char → Except Malformed (List Phrase)
  | 0, _ => .ok []
  | fuel + 1, cs =>
    let bare := cs.takeWhile (· != '"')
    let here := (termsOf bare).map ([·])
    match cs.dropWhile (· != '"') with
    | [] => .ok here
    | _ :: quoted =>
      let inner := quoted.takeWhile (· != '"')
      match quoted.dropWhile (· != '"') with
      | [] => .error {}
      | _ :: rest => (phrasesFrom fuel rest).map fun more => here ++ termsOf inner :: more

/-- The phrases of an expression. It ends at a NUL. -/
def phrases (expression : String) : Except Malformed (List Phrase) :=
  let cs := expression.toList.takeWhile (· != '\x00')
  phrasesFrom (cs.length + 1) cs

/-- Do all phrases occur in the document? No phrases find nothing. -/
def found (ps : List Phrase) (document : String) : Bool :=
  !ps.isEmpty && ps.all fun p => !(p.occurrences (indexed document)).isEmpty

/-- Where the terms of phrases occur in a document: the number of the term, counted over all phrases,
and the byte span of the word. -/
def offsets (ps : List Phrase) (document : String) : List (Nat × Nat × Nat) :=
  let ws := indexed document
  (ps.foldl (fun (base, found) p =>
    let spans := (p.occurrences ws).flatMap fun at' =>
      ((List.range p.length).zip at').map fun (k, w) => (base + k, w.start, w.size)
    (base + p.length, found ++ spans)) ((0, []) : Nat × List (Nat × Nat × Nat))).2

end SampleLibrary.FullText
