import SampleLibrary.Config.Environment
import SampleLibrary.Rewrite.Rule

/-!
# What can stand on the command line

The program has a few switches for everything, and verbs with words and switches of their own.
-/

namespace SampleLibrary.CommandLine

/-- What the text of a value has to be. -/
inductive ValueKind where
  | text
  /-- Not empty. -/
  | path
  /-- A whole number of 64 bits without minus sign. -/
  | number
  deriving Repr, DecidableEq

def ValueKind.accepts : ValueKind → String → Bool
  | text, _ => true
  | path, s => !s.isEmpty
  | number, s => (Decimal.readNat64? s.toList).isSome

/-- A value, as it is called in the help, and its kind. -/
structure Placeholder where
  title : String
  kind : ValueKind
  deriving Repr, DecidableEq

/-- A switch, which may take a value. -/
structure Switch where
  name : String
  help : String := ""
  value : Option Placeholder := none
  /-- Can it be given more than once? -/
  repeats : Bool := false
  /-- The variable that takes its place. -/
  fromVariable : Option String := none
  fallback : Option String := none
  deriving Repr, DecidableEq

/-- The words after a verb. -/
structure Words where
  placeholder : Placeholder
  required : Bool
  repeats : Bool
  deriving Repr, DecidableEq

/-- What the program can be told to do. -/
structure Verb where
  name : String
  help : String
  words : Option Words := none
  switches : List Switch := []
  deriving Repr, DecidableEq

def programName : String := "sampledrawer"

def version : String := "0.1.0"

def summary : String := "Tag-indexed, full-text searchable audio sample library"

def configVariable : String := Config.variableStart ++ "CONFIG"

def generalSwitches : List Switch := [
  { name := "config"
    help := "Configuration file (defaults to ./config.toml when present)"
    value := some ⟨"FILE", .path⟩
    fromVariable := some configVariable },
  { name := "library"
    help := "Library directory, overriding the configuration"
    value := some ⟨"DIR", .path⟩ },
  { name := "log-json", help := "Emit logs as JSON" },
  { name := "print-metrics", help := "Print metrics in Prometheus text format after the command" }]

def limitSwitch : Switch := { name := "limit", value := some ⟨"LIMIT", .number⟩ }

def verbs : List Verb := [
  { name := "import"
    help := "Analyze files and add them to the library"
    words := some ⟨⟨"PATHS", .path⟩, true, true⟩
    switches := [
      { name := "rules", help := "Rewrite rule set", value := some ⟨"RULES", .text⟩
        fallback := some Rule.defaultSet },
      { name := "root", help := "Folder the auto-category is derived from"
        value := some ⟨"DIR", .path⟩ },
      { name := "tag", help := "Extra tag for every file", value := some ⟨"TAG", .text⟩
        repeats := true },
      { name := "no-copy", help := "Index the files in place instead of copying them" }] },
  { name := "search"
    help := "List items matching a query"
    words := some ⟨⟨"QUERY", .text⟩, false, true⟩
    switches := [limitSwitch, { name := "json" }] },
  { name := "complete"
    help := "Complete the last word of a query"
    words := some ⟨⟨"TEXT", .text⟩, true, false⟩
    switches := [limitSwitch] },
  { name := "tags", help := "List tags with their item counts" },
  { name := "path"
    help := "Print the stored file of an item"
    words := some ⟨⟨"MD5", .text⟩, true, false⟩
    switches := [
      { name := "pretty", help := "Print a human-readable alias kept until the timeout" },
      { name := "timeout", value := some ⟨"SECS", .number⟩ }] },
  { name := "verify"
    help := "Check the library and repair problems"
    switches := [{ name := "assume-yes" }, { name := "assume-no" }] }]

def verb? (name : String) : Option Verb := verbs.find? fun v => v.name == name

end SampleLibrary.CommandLine
