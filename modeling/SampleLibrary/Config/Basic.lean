import SampleLibrary.Cache
import SampleLibrary.Config.Environment
import SampleLibrary.Files.Path
import SampleLibrary.Rewrite.Rule

/-!
# The configuration

The settings of the program, with values for all that are not given. A group of settings can be
written as a table or as a list of its values in order; names that mean nothing are passed over.
-/

namespace SampleLibrary

namespace Config

/-- A rule as it is written. -/
structure RuleText where
  field : String
  pattern : String
  substitutions : Std.ExtTreeMap String String := ∅

/-- A named list of rules as they are written. -/
structure RuleSet where
  title : String
  rules : List RuleText := []

def RuleSet.compile (s : RuleSet) : Except Rule.InvalidPattern (List Rule) :=
  s.rules.mapM fun r => Rule.read r.field r.pattern r.substitutions.toList

def defaultRuleSets : Std.ExtTreeMap String RuleSet :=
  let rules := Rule.defaultTexts.map fun (field, pattern, substitutions) =>
    RuleText.mk field pattern (.ofList substitutions)
  .ofList [(Rule.defaultSet, RuleSet.mk "Default" rules)]

end Config

/-- The settings of the program. -/
structure Config where
  libraryPath : String
  defaultLimit : Nat := 100
  completionLimit : Nat := 20
  /-- How long an alias is kept, in seconds. -/
  aliasTimeout : Nat := 60
  cacheCapacity : Nat := Cache.defaultCapacity
  ruleSets : Std.ExtTreeMap String Config.RuleSet := Config.defaultRuleSets

namespace Config

/-- The directory for the data of programs: `XDG_DATA_HOME` if it is absolute, or else a directory
below `HOME`, or the working directory. -/
def dataDirectory (env : Environment) : String :=
  match (env.lookup "XDG_DATA_HOME").filter Path.isAbsolute with
  | some directory => directory
  | none =>
    match (env.lookup "HOME").filter (!·.isEmpty) with
    | some home => Path.below home ".local/share"
    | none => "."

def defaultLibraryPath (env : Environment) : String :=
  Path.below (Path.below (dataDirectory env) "sample-drawer") "library"

/-- The settings of a group by name, or by place if the group is a list. -/
def members? : Tree → Option (String → Nat → Option Tree)
  | .table entries => some fun name _ => entries.lookup name
  | .list items => some fun _ place => items[place]?
  | .date _ => some fun _ _ => none
  | _ => none

def text? : Tree → Option String
  | .text s => some s
  | _ => none

/-- The number in a tree, if it has 64 bits and no sign. -/
def number? : Tree → Option Nat
  | .integer n => if 0 ≤ n && n < UInt64.size then some n.toNat else none
  | _ => none

def orElse {α : Type} (read : Tree → Option α) (fallback : α) : Option Tree → Option α
  | some tree => read tree
  | none => some fallback

def substitutions? : Tree → Option (Std.ExtTreeMap String String)
  | .table entries => do
    let texts ← entries.mapM fun (name, tree) => (text? tree).map (name, ·)
    return .ofList texts
  | _ => none

def rule? (tree : Tree) : Option RuleText := do
  let get ← members? tree
  return {
    field := ← text? (← get "field" 0)
    pattern := ← text? (← get "pattern" 1)
    substitutions := ← orElse substitutions? ∅ (get "substitutions" 2) }

def rules? : Tree → Option (List RuleText)
  | .list items => items.mapM rule?
  | _ => none

def ruleSet? (tree : Tree) : Option RuleSet := do
  let get ← members? tree
  return {
    title := ← text? (← get "name" 0)
    rules := ← orElse rules? [] (get "rules" 1) }

def ruleSets? : Tree → Option (Std.ExtTreeMap String RuleSet)
  | .table entries => do
    let sets ← entries.mapM fun (name, tree) => (ruleSet? tree).map (name, ·)
    return .ofList sets
  | _ => none

def inGroup {α : Type} (tree : Tree) (group name : String) (place : Nat) (read : Tree → Option α)
    (fallback : α) : Option α := do
  let get ← members? tree
  match get group 0 with
  | none => return fallback
  | some inner => orElse read fallback ((← members? inner) name place)

def ofTree? (env : Environment) (tree : Tree) : Option Config := do
  let d : Config := { libraryPath := defaultLibraryPath env }
  let get ← members? tree
  return {
    libraryPath := ← inGroup tree "library" "path" 0 text? d.libraryPath
    defaultLimit := ← inGroup tree "search" "default_limit" 0 number? d.defaultLimit
    completionLimit := ← inGroup tree "search" "completion_limit" 1 number? d.completionLimit
    aliasTimeout := ← inGroup tree "export" "pretty_path_timeout_secs" 0 number? d.aliasTimeout
    cacheCapacity := ← inGroup tree "analyzer" "cache_capacity" 0 number? d.cacheCapacity
    ruleSets := ← orElse ruleSets? d.ruleSets (get "rewrite_rules" 0) }

/-- The rules of a set. The default rules are there even if no set has their name. -/
def rules (c : Config) (name : String) : Except Rule.InvalidPattern (Option (List Rule)) :=
  match c.ruleSets[name]? with
  | some set => set.compile.map some
  | none => .ok (if name == Rule.defaultSet then some Rule.defaults else none)

/-- Refuses a number that is zero. -/
def requirePositive (name : String) (n : Nat) : Except String Unit :=
  if n == 0 then .error (name ++ " cannot be 0") else .ok ()

/-- Refuses a set of rules with a pattern that cannot be read. -/
def requireRules (name : String) (set : RuleSet) : Except String Unit :=
  match set.compile with
  | .ok _ => .ok ()
  | .error e => .error ("rewrite_rules." ++ name ++ ": " ++ e.message)

/-- Checks that limits are not zero and that all rules can be read. -/
def validate (c : Config) : Except String Unit := do
  requirePositive "search.default_limit" c.defaultLimit
  requirePositive "search.completion_limit" c.completionLimit
  requirePositive "analyzer.cache_capacity" c.cacheCapacity
  requirePositive "export.pretty_path_timeout_secs" c.aliasTimeout
  c.ruleSets.toList.forM fun (name, set) => requireRules name set

end Config

end SampleLibrary
