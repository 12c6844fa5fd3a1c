import SampleLibrary.Text.Class

/-!
# What the verifier says

The verifier goes through three stages, tells how far it has come, and asks before it changes
anything. An answer can be given once or for every problem of the same kind.
-/

namespace SampleLibrary.Verifier

def stageCount : Nat := 3

/-- How far the verifier has come, and the problem that it reports, if any. -/
structure Progress where
  stage : Nat
  stageName : String
  percent : Nat
  error : Option String
  deriving Repr, DecidableEq

def padded (width n : Nat) : String :=
  let digits := Nat.toDigits 10 n
  String.ofList (List.replicate (width - digits.length) ' ' ++ digits)

def Progress.toText (p : Progress) : String :=
  "[" ++ toString p.stage ++ "/" ++ toString stageCount ++ "] " ++ p.stageName ++ " "
    ++ padded 3 p.percent ++ "%" ++ (match p.error with | some e => ": " ++ e | none => "")

/-- The kinds of problems that the verifier can repair. -/
inductive Kind where
  | removeMissingItem
  | removeStaleTmpDir
  | removeUnknownFile
  | removeInvalidItem
  | fixBrokenTagAssignments
  | fixBrokenCustomValues
  | fixTagCounts
  deriving Repr, DecidableEq

namespace Kind

def all : List Kind := [removeMissingItem, removeStaleTmpDir, removeUnknownFile, removeInvalidItem,
  fixBrokenTagAssignments, fixBrokenCustomValues, fixTagCounts]

theorem mem_all (k : Kind) : k ∈ all := by cases k <;> decide

def toName : Kind → String
  | removeMissingItem => "remove_missing_item"
  | removeStaleTmpDir => "remove_stale_tmp_dir"
  | removeUnknownFile => "remove_unknown_file"
  | removeInvalidItem => "remove_invalid_item"
  | fixBrokenTagAssignments => "fix_broken_tag_assignments"
  | fixBrokenCustomValues => "fix_broken_custom_values"
  | fixTagCounts => "fix_tag_counts"

def prompt : Kind → String
  | removeMissingItem => "Remove item?"
  | removeStaleTmpDir => "Remove stale temporary directory?"
  | removeUnknownFile => "Remove unknown file?"
  | removeInvalidItem => "Remove invalid item?"
  | fixBrokenTagAssignments => "Fix broken tag assignments?"
  | fixBrokenCustomValues => "Fix broken custom values?"
  | fixTagCounts => "Fix tag counts?"

end Kind

/-- The answer to a question whether something is to be repaired. -/
inductive Answer where
  | yes
  | no
  | always
  | never
  deriving Repr, DecidableEq

namespace Answer

def isYes : Answer → Bool
  | yes | always => true
  | _ => false

/-- Does the answer hold for all later questions of the kind? -/
def isSaved : Answer → Bool
  | always | never => true
  | _ => false

def ofKey? (key : Char) : Option Answer :=
  match Text.asciiLower key with
  | 'y' => some yes
  | 'n' => some no
  | 'a' => some always
  | 'e' => some never
  | _ => none

end Answer

/-- What a verification found and changed. -/
structure Report where
  itemsChecked : Nat := 0
  itemsRemoved : Nat := 0
  filesRemoved : Nat := 0
  dirsRemoved : Nat := 0
  linksRemoved : Nat := 0
  tagCountsFixed : Bool := false
  issues : Nat := 0
  deriving Repr, DecidableEq

end SampleLibrary.Verifier
