import SampleLibrary.CommandLine.Help
import SampleLibrary.Verifier.Report

/-!
# Reading the command line

Arguments are read from the left; the first that asks for help or is wrong decides. A general switch
can stand before or after the verb; after it counts more, and a variable counts least.
-/

namespace SampleLibrary.CommandLine

/-- What the program is told to do. -/
inductive Command where
  | importFiles (paths : List String) (rules : String) (root : Option String) (tags : List String)
    (copy : Bool)
  | search (query : String) (limit : Option Nat) (json : Bool)
  | complete (text : String) (limit : Option Nat)
  | tags
  | path (md5 : String) (pretty : Bool) (timeout : Option Nat)
  | verify (answer : Option Verifier.Answer)
  deriving Repr, DecidableEq

/-- A command with the general switches. -/
structure Invocation where
  config : Option String
  library : Option String
  printMetrics : Bool
  command : Command
  deriving Repr, DecidableEq

/-- Why arguments are no invocation: they ask for a text, or they are wrong. -/
inductive Refusal where
  | shown (text : String)
  | wrong
  deriving Repr, DecidableEq

/-- The switches and words that were given. A switch without value has the empty text. -/
structure Given where
  switches : List (String × String) := []
  words : List String := []
  deriving Repr, DecidableEq

namespace Given

def has (g : Given) (name : String) : Bool := g.switches.any (·.1 == name)

def value? (g : Given) (name : String) : Option String := g.switches.lookup name

def values (g : Given) (name : String) : List String :=
  (g.switches.filter (·.1 == name)).map (·.2)

def number? (g : Given) (name : String) : Option Nat :=
  (g.value? name).bind fun text => Decimal.readNat64? text.toList

/-- One switch more. Most switches can be given only once. -/
def addSwitch (g : Given) (s : Switch) (value : String) : Except Refusal Given :=
  if !s.repeats && g.has s.name then .error .wrong
  else if s.value.all fun p => p.kind.accepts value then
    .ok { g with switches := g.switches ++ [(s.name, value)] }
  else .error .wrong

/-- One word more, if there is room. -/
def addWord (g : Given) (words : Option Words) (word : String) : Except Refusal Given :=
  match words with
  | none => .error .wrong
  | some w =>
    if (w.repeats || g.words.isEmpty) && w.placeholder.kind.accepts word then
      .ok { g with words := g.words ++ [word] }
    else .error .wrong

end Given

/-- What an argument looks like. -/
inductive Shape where
  | word
  /-- Two dashes: only words follow. -/
  | divider
  | long (name : String) (attached : Option String)
  | short (first : Char)
  deriving Repr, DecidableEq

/-- The shape of an argument. A single dash is a word. -/
def Shape.of (arg : String) : Shape :=
  match arg.toList with
  | ['-', '-'] => .divider
  | '-' :: '-' :: rest =>
    .long (String.ofList (rest.takeWhile (· != '=')))
      (match rest.dropWhile (· != '=') with
        | [] => none
        | _ :: value => some (String.ofList value))
  | '-' :: c :: _ => .short c
  | _ => .word

/-- Where arguments are read: for the whole program or for a verb. -/
structure Level where
  switches : List Switch
  words : Option Words
  help : String
  /-- Can the version be asked for? -/
  versioned : Bool

def Level.short (l : Level) (c : Char) : Refusal :=
  if c == 'h' then .shown l.help
  else if c == 'V' && l.versioned then .shown versionLine
  else .wrong

/-- The switch with a name, unless it asks for something to be shown or there is none. -/
def Level.long (l : Level) (name : String) (attached : Option String) : Except Refusal Switch :=
  match l.switches.find? fun s => s.name == name with
  | some s => .ok s
  | none =>
    if attached.isSome then .error .wrong
    else if name == "help" then .error (l.short 'h')
    else if name == "version" then .error (l.short 'V')
    else .error .wrong

/-- Reads arguments. A switch may be waiting for its value. If the level takes no words of its own, it
stops at the first word. -/
def Level.read (l : Level) (stops : Bool) :
    (waiting : Option Switch) → Given → List String → Except Refusal (Given × List String)
  | none, g, [] => .ok (g, [])
  | some _, _, [] => .error .wrong
  | some s, g, value :: rest => do
    if Shape.of value != .word then throw .wrong
    l.read stops none (← g.addSwitch s value) rest
  | none, g, arg :: rest =>
    match Shape.of arg with
    | .divider => do
      if stops then throw .wrong
      return (← rest.foldlM (fun g word => g.addWord l.words word) g, [])
    | .short c => .error (l.short c)
    | .word => do
      if stops then return (g, arg :: rest)
      l.read stops none (← g.addWord l.words arg) rest
    | .long name attached => do
      let s ← l.long name attached
      match s.value, attached with
      | none, none => l.read stops none (← g.addSwitch s "") rest
      | none, some _ => throw .wrong
      | some _, some value => l.read stops none (← g.addSwitch s value) rest
      | some _, none => l.read stops (some s) g rest

def commandOf (v : Verb) (g : Given) : Except Refusal Command :=
  match v.name, g.words with
  | "import", first :: rest =>
    .ok (.importFiles (first :: rest) ((g.value? "rules").getD Rule.defaultSet) (g.value? "root")
      (g.values "tag") (!g.has "no-copy"))
  | "search", words => .ok (.search (Text.join " " words) (g.number? "limit") (g.has "json"))
  | "complete", [text] => .ok (.complete text (g.number? "limit"))
  | "tags", _ => .ok .tags
  | "path", [md5] => .ok (.path md5 (g.has "pretty") (g.number? "timeout"))
  | "verify", _ =>
    if g.has "assume-yes" && g.has "assume-no" then .error .wrong
    else if g.has "assume-yes" then .ok (.verify (some .yes))
    else if g.has "assume-no" then .ok (.verify (some .no))
    else .ok (.verify none)
  | _, _ => .error .wrong

def programLevel (env : Environment) : Level :=
  ⟨generalSwitches, none, programHelp env, true⟩

def verbLevel (env : Environment) (v : Verb) : Level :=
  ⟨v.switches ++ generalSwitches, v.words, verbHelp env v, false⟩

/-- The value of a general switch: from after the verb, from before it, or from its variable. -/
def generalValue (env : Environment) (before after : Given) (s : Switch) : Option String :=
  (after.value? s.name).orElse fun _ =>
    (before.value? s.name).orElse fun _ => s.fromVariable.bind fun v => env.lookup v

/-- Are the variables for switches values that these can have? -/
def variablesAccepted (env : Environment) : Bool :=
  generalSwitches.all fun s => match s.value, s.fromVariable.bind fun v => env.lookup v with
    | some p, some text => p.kind.accepts text
    | _, _ => true

def readVerb (env : Environment) (before : Given) (v : Verb) (args : List String) :
    Except Refusal Invocation := do
  let (after, _) ← (verbLevel env v).read false none {} args
  let command ← commandOf v after
  if !variablesAccepted env then throw .wrong
  let general (name : String) : Option String :=
    (generalSwitches.find? fun s => s.name == name).bind (generalValue env before after)
  return ⟨general "config", general "library", (general "print-metrics").isSome, command⟩

def helpFor (env : Environment) : List String → Refusal
  | [] => .shown (programHelp env)
  | [name] => match verb? name with
    | some v => .shown (verbHelp env v)
    | none => .wrong
  | _ => .wrong

def readArguments (env : Environment) (args : List String) : Except Refusal Invocation := do
  match ← (programLevel env).read true none {} args with
  | (_, []) => throw .wrong
  | (before, name :: rest) =>
    if name == "help" then throw (helpFor env rest)
    match verb? name with
    | some v => readVerb env before v rest
    | none => throw .wrong

end SampleLibrary.CommandLine
