import SampleLibrary.CommandLine.Run
import SampleLibrary.Storage.Archive

/-!
# The program on a machine

The program works on a picture of the files that matter to a command: those that its arguments and its
settings name, the database, and the files of the items in it. Afterwards what has changed in the
picture is changed on the machine. The database is kept as a text.
-/

namespace SampleLibrary.CommandLine

def settingNames : List (String × List String) := [
  ("LIBRARY", ["PATH"]),
  ("SEARCH", ["DEFAULT_LIMIT", "COMPLETION_LIMIT"]),
  ("EXPORT", ["PRETTY_PATH_TIMEOUT_SECS"]),
  ("ANALYZER", ["CACHE_CAPACITY"]),
  ("REWRITE_RULES", [])]

def variableNames : List String :=
  ["HOME", "XDG_DATA_HOME", configVariable] ++ settingNames.flatMap fun (group, names) =>
    (Config.variableStart ++ group) :: names.map fun name =>
      Config.variableStart ++ group ++ "__" ++ name

def machineEnvironment : IO Environment :=
  variableNames.filterMapM fun name => do return (← IO.getEnv name).map (name, ·)

/-- The change that tells a file of the machine from one that has been written since. -/
def untouched : Int := -1

/-- The picture with a file or a directory of the machine, if it is there. `content` is what is in a
file with some bytes. -/
def bring (content : ByteArray → Content) (fs : Files) (path : String) : IO Files := do
  if (← (IO.FS.realPath (path ++ "/.")).toBaseIO).toOption.isSome then return (fs.makeDirs path).2
  match ← (IO.FS.readBinFile path).toBaseIO with
  | .ok data =>
    let (_, fs) := fs.write path .empty untouched
    return (fs.put path (content data) (some untouched)).toOption.getD fs
  | .error _ => return fs

def databaseContent (data : ByteArray) : Content :=
  match (String.fromUTF8? data).bind Archive.read? with
  | some t => .database t
  | none => .bytes data

def itemFiles (base : String) (fs : Files) : List String :=
  match fs.fileAt (Library.databasePath base) with
  | .ok (_, id) =>
    match (fs.dataOf id).content with
    | .database t => t.items.flatMap fun i =>
      let m := t.record i
      m.path.toList ++ m.md5.toList.map fun md5 => Blob.path base md5 m.format
    | .bytes _ => []
  | .error _ => []

def filesFor (base : String) (fs : Files) : Command → List String
  | .importFiles paths .. => paths
  | .path .. | .verify _ => itemFiles base fs
  | .search .. | .complete .. | .tags => []

/-- The picture of what matters to an invocation. -/
def picture (env : Environment) (i : Invocation) (fs : Files) : IO Files := do
  let fs ← bring .bytes fs (i.config.getD Config.defaultFile)
  match settings fs env i with
  | .error _ => return fs
  | .ok c =>
    let fs ← bring databaseContent fs (Library.databasePath c.libraryPath)
    (filesFor c.libraryPath fs i.command).foldlM (bring .bytes) fs

def pathOf (location : Location) : String := Path.ofComponents (Path.rootName :: location)

def machineBytes : Content → ByteArray
  | .bytes data => data
  | .database t => (Archive.write t).toUTF8

/-- Makes on the machine what is new in the picture, and removes what is gone. A directory that still
holds other files stays. -/
def settle (before after : Files) : IO Unit := do
  for (location, node) in before.nodes.toList.reverse do
    if (after.at? location).isNone then
      match node with
      | .directory => discard (IO.FS.removeDir (pathOf location)).toBaseIO
      | _ => IO.FS.removeFile (pathOf location)
  for (location, node) in after.nodes.toList do
    match node with
    | .directory =>
      if (before.at? location).isNone then IO.FS.createDirAll (pathOf location)
    | .file id =>
      let data := after.dataOf id
      if data.modified != untouched then
        IO.FS.writeBinFile (pathOf location) (machineBytes data.content)
    | .link _ => pure ()

def typed : Command → IO String
  | .verify none => do (← IO.getStdin).readToEnd
  | _ => return ""

end SampleLibrary.CommandLine

open SampleLibrary CommandLine in
def main (args : List String) : IO UInt32 := do
  let env ← machineEnvironment
  let empty := Files.fresh (Path.names (toString (← IO.currentDir)))
  let (before, input) ← match readArguments env args with
    | .ok i => pure (← picture env i empty, ← typed i.command)
    | .error _ => pure (empty, "")
  let (outcome, w) := CommandLine.run args env input ⟨before, {}, 1, 0⟩
  settle before w.files
  IO.print outcome.output
  IO.eprint outcome.remarks
  return outcome.code.toUInt32
