import SampleLibrary.FullText
import SampleLibrary.Query.Statement

/-!
# Completing a query

The last word of a text that is being typed can be completed from the documents of the items that
the words before it find. A suggestion is a part of a document that starts with the words typed so
far and does not reach beyond one value.
-/

namespace SampleLibrary.Query

/-- A text whose last word can be completed. -/
structure Completion where
  base : List Condition
  text : String
  /-- The byte at which the last word starts. -/
  start : Nat
  /-- The last word as it was meant, without quotes. -/
  typed : String
  words : List String
  quoted : Bool
  /-- The last word ends with white space inside a quote, so that the next word is asked for. -/
  nextWord : Bool
  deriving Repr, DecidableEq

/-- One entry of a report on where terms occur. -/
structure Occurrence where
  offset : Nat
  term : Nat
  column : Nat
  size : Nat
  deriving Repr, DecidableEq

namespace Occurrence

/-- Does `a` come before `b` or in the same place? By place first. -/
def le (a b : Occurrence) : Bool :=
  compareLex (compareOn offset) (compareLex (compareOn term)
    (compareLex (compareOn column) (compareOn size))) a b != .gt

/-- The numbers in groups of four; what is left over at the end says nothing. -/
def ofNumbers : List Nat → List Occurrence
  | column :: term :: offset :: size :: rest => ⟨offset, term, column, size⟩ :: ofNumbers rest
  | _ => []

/-- The entries of a report: column, term, offset and size of each. -/
def read (report : String) : List Occurrence :=
  ofNumbers ((Text.blankWords report).filterMap fun word => Decimal.readNat64? word.toList)

def report (entries : List Occurrence) : String :=
  Text.join " " (entries.flatMap fun o => [o.column, o.term, o.offset, o.size].map toString)

end Occurrence

namespace Completion

def endsBlank (text : String) : Bool := text.toList.getLast?.any Text.isBlank

/-- Does the word ask for a tag or a comparison? -/
def isFinished (word : String) : Bool :=
  (Condition.tagged? word).isSome || (Condition.untagged? word).isSome
    || (Condition.compare? word).isSome

def textBefore (text : String) (start : Nat) : String :=
  String.ofList ((Text.takeBytes? start text.toList).getD [])

/-- The completion of a text, if its last word can be completed. -/
def ofText? (text : String) : Option Completion :=
  let scanned := scan text
  let quoted := scanned.fault == some .unterminatedQuote
  if scanned.fault == some .trailingEscape || (!quoted && endsBlank text) then none
  else match scanned.words.getLast? with
    | none => none
    | some last =>
      let words := FullText.words last.value
      if isFinished last.value || words.isEmpty then none
      else
        some {
          base := parse (textBefore text last.start), text, start := last.start, typed := last.value, words, quoted
          nextWord := quoted && endsBlank last.value }

def before (c : Completion) : String := textBefore c.text c.start

def phrase (c : Completion) : String :=
  "\"" ++ Text.join " " c.words ++ (if c.nextWord then "\"" else "*\"")

def columns : List String := ["item.id", "offsets(fts)", "fts.content"]

def statement (c : Completion) (options : Options) : Statement where
  columns := columns
  withDocuments := true
  clauses := clauses options.scope c.base ++ [.phrase c.phrase]
  orderBy := options.orderBy
  limit := options.limit

/-- Where a suggestion ends that has come to the byte `stop`: there, or at the end of the next word if
one is asked for. -/
def stretch (c : Completion) (content : List Char) (stop : Nat) : Nat :=
  if !c.nextWord then stop
  else match Text.dropBytes? stop content with
    | none => stop
    | some rest =>
      let blank := rest.takeWhile Text.isBlank
      let word := (rest.dropWhile Text.isBlank).takeWhile (!Text.isBlank ·)
      if word.isEmpty || word == FullText.delimiter.toList then stop
      else stop + Text.byteLength blank + Text.byteLength word

/-- Are the entries those of the terms from `term` on, one each? -/
def inTurn (term : Nat) : List Occurrence → Bool
  | [] => true
  | o :: os => o.term == term && inTurn (term + 1) os

/-- The suggestion for the occurrence with which the entries start. -/
def suggestion? (c : Completion) (content : List Char) (entries : List Occurrence) :
    Option String := do
  let occurrence := entries.take c.words.length
  let first ← occurrence.head?
  let last ← occurrence.getLast?
  if occurrence.length == c.words.length && inTurn 0 occurrence then
    let span ← Text.slice? content first.offset
      (c.stretch content ((last.offset + last.size) % UInt64.size))
    if Text.hasPiece FullText.delimiter.toList span then none else some (String.ofList span)
  else none

/-- The lists that are left when entries are dropped one by one. -/
def tails {α : Type} : List α → List (List α)
  | [] => []
  | a :: as => (a :: as) :: tails as

/-- The suggestions from one document, in the order of their places. -/
def suggestions (c : Completion) (report content : String) : List String :=
  (tails ((Occurrence.read report).mergeSort Occurrence.le)).filterMap
    (c.suggestion? content.toList)

/-- The suggestions from some documents, sorted and once each. -/
def collect (c : Completion) (rows : List (String × String)) : List String :=
  (Std.ExtTreeSet.ofList (rows.flatMap fun (report, content) => c.suggestions report content)).toList

def complete (c : Completion) (suggestion : String) : String :=
  String.ofList ((Text.takeBytes? c.start c.text.toList).getD []) ++ quote suggestion

end Completion

end SampleLibrary.Query
