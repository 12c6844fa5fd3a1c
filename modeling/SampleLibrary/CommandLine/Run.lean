import SampleLibrary.Analyzer.Cached
import SampleLibrary.CommandLine.Arguments
import SampleLibrary.CommandLine.Terminal
import SampleLibrary.Config.Loading
import SampleLibrary.Library.Alias
import SampleLibrary.Library.Import
import SampleLibrary.Library.Search
import SampleLibrary.Metadata.Json
import SampleLibrary.Verifier.Basic

/-!
# Running the program

A run reads its arguments and settings, opens the library, does what it is told, and closes the library
again. It ends with 0 if all went well, with 1 if something failed, and with 2 if the arguments are
wrong.
-/

namespace SampleLibrary.CommandLine

/-- What a run prints, and how it ends. -/
structure Outcome where
  code : Nat
  output : String := ""
  /-- What goes to the terminal besides the output. -/
  remarks : String := ""
  deriving Repr, DecidableEq

/-- What a command prints. A command that fails prints no output. -/
structure Printed where
  succeeded : Bool
  output : List String := []
  remarks : String := ""
  deriving Repr, DecidableEq

def failed : Printed := { succeeded := false }

def printed {α ε : Type} (lines : α → List String) : Except ε α → Printed
  | .ok a => { succeeded := true, output := lines a }
  | .error _ => failed

/-- The record of a file that is to be imported, or why there is none. -/
def recordOf (tags : List String) (rules : List Rule) (root : Option String) (path : String) :
    Except AnalyzerError FileInfo → Except Library.Failure Metadata
  | .ok info => .ok (((Metadata.ofFileInfo info).addTags tags).rewrite rules root)
  | .error e => .error ⟨path, e.message⟩

/-- The records of files, and those that could not be analyzed. -/
def analyzeAll {σ : Type} (a : Analyzer σ) (fs : Files)
    (finish : String → Except AnalyzerError FileInfo → Except Library.Failure Metadata) :
    σ → List String → List Metadata × List Library.Failure
  | _, [] => ([], [])
  | kept, path :: paths =>
    let (outcome, kept) := a.analyze fs path kept
    let (records, failures) := analyzeAll a fs finish kept paths
    match finish path outcome with
    | .ok m => (m :: records, failures)
    | .error f => (records, f :: failures)

def importLines (r : Library.ImportReport) : List String :=
  r.imported.map (fun (path, id) => "imported #" ++ toString id ++ ": " ++ path)
    ++ r.conflicts.map (fun c =>
      "conflict: " ++ c.path ++ " is already in the library as " ++ Text.quoted c.existingName)
    ++ r.failed.map fun f => "failed: " ++ f.path ++ ": " ++ f.reason

def importFiles (lib : Library) (c : Config) (paths : List String) (rules : String)
    (root : Option String) (tags : List String) (copy : Bool) (w : World) : Printed × World :=
  match c.rules rules with
  | .ok (some rules) =>
    let (records, failures) := analyzeAll (.cached .basic) w.files (recordOf tags rules root)
      (.empty c.cacheCapacity, ()) paths
    let (outcome, w) := lib.importFiles records copy w
    (printed (fun r => importLines { r with failed := r.failed ++ failures }) outcome, w)
  | _ => (failed, w)

def recordLine (m : Metadata) : String :=
  Text.join "\t" [m.md5.getD "", m.name.getD "", Text.join " " m.tags.toList]

def search (lib : Library) (query : String) (limit : Nat) (json : Bool) (w : World) :
    Printed × World :=
  let w := { w with metrics := w.metrics.addDropped (Query.dropped query) }
  let (found, w) := lib.search (Query.parse query) { limit := some limit } w
  (printed (fun records =>
    if json then [Json.Tree.pretty 0 (.array (records.map Metadata.toTree))]
    else records.map recordLine) found, w)

def complete (lib : Library) (text : String) (limit : Nat) (w : World) : Printed × World :=
  match Query.Completion.ofText? text with
  | none => ({ succeeded := true }, w)
  | some completion =>
    let w := { w with metrics := w.metrics.addDropped (Query.dropped completion.before) }
    let (found, w) := lib.completions completion limit w
    (printed (·.map completion.complete) found, w)

/-- Tells where the file of an item is, or makes an alias for it. -/
def path (lib : Library) (md5 : String) (pretty : Bool) (w : World) : Printed × World :=
  match lib.withMd5 md5 w with
  | (.ok (m :: _), w) =>
    if pretty then
      let (name, _, w) := lib.prettyPath m w
      (printed (fun path => [path]) name, w)
    else (printed (fun path => [path]) (lib.blobPath m), w)
  | (_, w) => (failed, w)

def reportLine (r : Verifier.Report) : String :=
  "checked " ++ toString r.itemsChecked ++ " items, " ++ toString r.issues ++ " issues: removed "
    ++ toString r.itemsRemoved ++ " items, " ++ toString r.filesRemoved ++ " files, "
    ++ toString r.dirsRemoved ++ " directories, " ++ toString r.linksRemoved ++ " broken links"
    ++ (if r.tagCountsFixed then ", tag counts fixed" else "")

/-- Verifies the library, with one answer to everything or with answers from the terminal. -/
def verify (lib : Library) (answer : Option Verifier.Answer) (input : String) (w : World) :
    Printed × World :=
  let observer := match answer with
    | some a => fun _ _ => a
    | none => typist input
  let (v, w) := Verifier.verify lib observer w
  let remarks := if answer.isSome then "" else shown input v.events
  ({ printed (fun r => [reportLine r]) v.outcome with remarks }, w)

def perform (lib : Library) (c : Config) (command : Command) (input : String) (w : World) :
    Printed × World :=
  match command with
  | .importFiles paths rules root tags copy => importFiles lib c paths rules root tags copy w
  | .search query limit json => search lib query (limit.getD c.defaultLimit) json w
  | .complete text limit => complete lib text (limit.getD c.completionLimit) w
  | .tags => (printed (·.map fun (name, count) => toString count ++ "\t" ++ name) (lib.tags w.files), w)
  | .path md5 pretty _ => path lib md5 pretty w
  | .verify answer => verify lib answer input w

def unlines (lines : List String) : String := String.join (lines.map (· ++ "\n"))

def settings (fs : Files) (env : Environment) (i : Invocation) : Except ConfigError Config := do
  let c ← Config.load fs env i.config
  let c := { c with libraryPath := i.library.getD c.libraryPath }
  c.check
  return c

def invoke (i : Invocation) (env : Environment) (input : String) (w : World) : Outcome × World :=
  match settings w.files env i with
  | .error _ => ({ code := 1 }, w)
  | .ok c =>
    match Library.openAt c.libraryPath w with
    | (.error _, w) => ({ code := 1 }, w)
    | (.ok lib, w) =>
      let (p, w) := perform lib c i.command input w
      let (_, w) := lib.close w
      let metrics := if i.printMetrics && p.succeeded then w.metrics.lines else []
      (⟨if p.succeeded then 0 else 1, unlines (p.output ++ metrics), p.remarks⟩, w)

/-- Runs the program with its arguments, its environment and what is typed. -/
def run (args : List String) (env : Environment) (input : String) (w : World) : Outcome × World :=
  match readArguments env args with
  | .ok i => invoke i env input w
  | .error (.shown text) => ({ code := 0, output := text }, w)
  | .error .wrong => ({ code := 2 }, w)

end SampleLibrary.CommandLine
