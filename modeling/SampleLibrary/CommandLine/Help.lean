import SampleLibrary.CommandLine.Grammar

/-!
# Help

The help for the program and for each verb, with switches in order and their descriptions in a column.
-/

namespace SampleLibrary.CommandLine

def Switch.shown (s : Switch) : String :=
  "--" ++ s.name ++ (match s.value with | some p => " <" ++ p.title ++ ">" | none => "")

def Switch.about (env : Environment) (s : Switch) : String :=
  let variablePart := s.fromVariable.map fun v =>
    "[env: " ++ v ++ "=" ++ (env.lookup v).getD "" ++ "]"
  let fallbackPart := s.fallback.map fun text => "[default: " ++ text ++ "]"
  Text.join " " ((if s.help.isEmpty then [] else [s.help])
    ++ variablePart.toList ++ fallbackPart.toList)

def line (front : String) (width : Nat) (name about : String) : String :=
  front ++ name ++ String.ofList (List.replicate (width + 2 - name.length) ' ') ++ about ++ "\n"

/-- Lines with descriptions in one column. Each comes with what stands in front of its name. -/
def column (lines : List (String × String × String)) : String :=
  let width := (lines.map fun (_, name, _) => name.length).foldl max 0
  String.join (lines.map fun (front, name, about) => line front width name about)

def Words.shown (w : Words) : String :=
  let name := if w.required then "<" ++ w.placeholder.title ++ ">"
    else "[" ++ w.placeholder.title ++ "]"
  if w.repeats then name ++ "..." else name

/-- The lines for switches, each with its place. Switches with one place stand in the order of their
names. -/
def switchLines (env : Environment) (switches : List (Nat × Switch)) :
    List (String × String × String) :=
  (switches.mergeSort fun a b => a.1 < b.1 || (a.1 == b.1 && a.2.name ≤ b.2.name)).map fun (_, s) =>
    ("      ", s.shown, s.about env)

def helpLine : String × String × String := ("  -h, ", "--help", "Print help")

def programHelp (env : Environment) : String :=
  summary ++ "\n\nUsage: " ++ programName ++ " [OPTIONS] <COMMAND>\n\nCommands:\n"
    ++ column (verbs.map (fun v => ("  ", v.name, v.help))
      ++ [("  ", "help", "Print this message or the help of the given subcommand(s)")])
    ++ "\nOptions:\n"
    ++ column (switchLines env (generalSwitches.mapIdx fun i s => (i, s))
      ++ [helpLine, ("  -V, ", "--version", "Print version")])

/-- The help for a verb. Its words take the first place among its switches. -/
def verbHelp (env : Environment) (v : Verb) : String :=
  let first := if v.words.isSome then 1 else 0
  let places := generalSwitches.mapIdx (fun i s => (i, s))
    ++ v.switches.mapIdx fun i s => (i + first, s)
  v.help ++ "\n\nUsage: " ++ programName ++ " " ++ v.name ++ " [OPTIONS]"
    ++ (match v.words with | some w => " " ++ w.shown | none => "") ++ "\n\n"
    ++ (match v.words with
      | some w => "Arguments:\n" ++ column [("  ", w.shown, "")] ++ "\n"
      | none => "")
    ++ "Options:\n" ++ column (switchLines env places ++ [helpLine])

def versionLine : String := programName ++ " " ++ version ++ "\n"

end SampleLibrary.CommandLine
