import SampleLibrary.Text.Split
import SampleLibrary.Verifier.Run

/-!
# Asking on the terminal

The verifier tells and asks on the terminal, and reads answers line by line. A line that is no answer is
passed over and the question is put again. After the last line every answer is no, without asking.
-/

namespace SampleLibrary.CommandLine

open Verifier

/-- The answer in a line: its first character that is not blank decides. -/
def lineAnswer? (line : List Char) : Option Answer := (Text.trim line).head?.bind Answer.ofKey?

/-- A question that was put some times until there was an answer. -/
structure Reply where
  asked : Nat
  answer : Answer
  deriving Repr, DecidableEq

/-- The reply to the question with a number, when a question has been put `asked` times already. -/
def reply (asked : Nat) : (question : Nat) → (lines : List (List Char)) → Reply
  | 0, [] => ⟨asked + 1, .no⟩
  | _ + 1, [] => ⟨0, .no⟩
  | question, line :: lines =>
    match lineAnswer? line, question with
    | some a, 0 => ⟨asked + 1, a⟩
    | some _, question + 1 => reply 0 question lines
    | none, question => reply (asked + 1) question lines

/-- The lines of what is typed; there is no line after the last end of a line. -/
def typedLines (input : String) : List (List Char) :=
  let lines := Text.splitAtAll (· == '\n') input.toList
  if lines.getLast? == some [] then lines.dropLast else lines

def questionCount (history : List Event) : Nat :=
  history.countP fun e => match e with
    | .asked .. => true
    | _ => false

def typist (input : String) : Observer := fun history _ =>
  (reply 0 (questionCount history) (typedLines input)).answer

def questionText (k : Kind) : String := k.prompt ++ " [y]es/[n]o/[a]lways/n[e]ver: "

/-- What is shown for events, when `question` questions have been put before. -/
def shownFrom (lines : List (List Char)) : (question : Nat) → List Event → List String
  | _, [] => []
  | question, .progress p :: rest => (p.toText ++ "\n") :: shownFrom lines question rest
  | question, .asked p _ :: rest =>
    List.replicate (reply 0 question lines).asked (questionText p.kind)
      ++ shownFrom lines (question + 1) rest
  | question, .recalled _ _ :: rest => shownFrom lines question rest

/-- What is shown on the terminal for the events of a verification. -/
def shown (input : String) (events : List Event) : String :=
  String.join (shownFrom (typedLines input) 0 events)

end SampleLibrary.CommandLine
