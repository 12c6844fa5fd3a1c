import SampleLibrary.Text.Split
import Std.Data.ExtTreeMap

/-!
# Counters

What has been imported, searched, dropped from queries and found wrong since the program started.
-/

namespace SampleLibrary

abbrev Counts := Std.ExtTreeMap String Nat

def Counts.add (counts : Counts) (label : String) : Counts :=
  counts.insert label (counts[label]?.getD 0 + 1)

/-- The counters of a program. -/
structure Metrics where
  imports : Counts := ∅
  searches : Counts := ∅
  droppedWords : Nat := 0
  issues : Counts := ∅

namespace Metrics

def addImport (m : Metrics) (outcome : String) : Metrics := { m with imports := m.imports.add outcome }

def addSearch (m : Metrics) (kind : String) : Metrics := { m with searches := m.searches.add kind }

def addIssue (m : Metrics) (kind : String) : Metrics := { m with issues := m.issues.add kind }

def addDropped (m : Metrics) (n : Nat) : Metrics := { m with droppedWords := m.droppedWords + n }

def family (name help : String) (counters : List (String × Nat)) : List String :=
  if counters.isEmpty then []
  else ["# HELP " ++ name ++ " " ++ help, "# TYPE " ++ name ++ " counter"]
    ++ counters.map fun (labels, n) => name ++ labels ++ " " ++ toString n

def labelled (label : String) (c : Counts) : List (String × Nat) :=
  c.toList.map fun (value, n) => ("\x7b" ++ label ++ "=\"" ++ value ++ "\"\x7d", n)

/-- All counters as lines of text, families in order of their names. -/
def lines (m : Metrics) : List String :=
  family "sampledrawer_dropped_query_tokens_total" "Query tokens dropped as unparsable"
      [("", m.droppedWords)]
    ++ family "sampledrawer_imports_total" "Total file imports" (labelled "result" m.imports)
    ++ family "sampledrawer_searches_total" "Total executed searches" (labelled "kind" m.searches)
    ++ family "sampledrawer_verifier_issues_total" "Library inconsistencies found by the verifier"
      (labelled "kind" m.issues)

end Metrics

end SampleLibrary
