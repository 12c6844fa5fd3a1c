import SampleLibrary.Config.Basic
import SampleLibrary.Files.Basic
import SampleLibrary.Toml.Document

/-!
# Loading the configuration

Settings stand in a file, and the environment is laid over them. Without a file of its own the program
looks for one in the working directory, which may be missing.
-/

namespace SampleLibrary

/-- Why there is no configuration. -/
inductive ConfigError where
  | fileNotFound (path : String)
  | unreadable
  | invalid (reason : String)
  deriving Repr, DecidableEq

def ConfigError.message : ConfigError → String
  | fileNotFound path => "Configuration file not found: " ++ path
  | unreadable => "Failed to parse configuration"
  | invalid reason => "Configuration validation failed: " ++ reason

namespace Config

def defaultFile : String := "config.toml"

def read (env : Environment) (text : String) : Except ConfigError Config :=
  match (Toml.readDocument? text).bind (ofTree? env) with
  | some c => .ok c
  | none => .error .unreadable

/-- The settings in a file. Directories have none. -/
def fileTree? (fs : Files) (path : String) : Option Tree :=
  if fs.isFile path then (fs.readText? path).bind Toml.readDocument? else some (.table [])

/-- The configuration from a tree of settings with the environment laid over it. -/
def ofSettings (env : Environment) (tree : Option Tree) : Except ConfigError Config :=
  match tree.bind fun tree => ofTree? env (tree.overlay (ofEnvironment env)) with
  | some c => .ok c
  | none => .error .unreadable

/-- Loads the configuration from a file that has to be there, or from the file in the working directory
if there is one. -/
def load (fs : Files) (env : Environment) (path : Option String) : Except ConfigError Config :=
  match path with
  | some path =>
    if fs.exists? path then ofSettings env (fileTree? fs path) else .error (.fileNotFound path)
  | none =>
    ofSettings env (if fs.exists? defaultFile then fileTree? fs defaultFile else some (.table []))

def check (c : Config) : Except ConfigError Unit := c.validate.mapError .invalid

end Config

end SampleLibrary
