import SampleLibrary.Files.Path
import SampleLibrary.Storage.Tables

/-!
# Files and directories

A tree of directories with files and symbolic links. A file may have several names, so that names and
contents are kept apart. Paths are followed name by name, through links, and may start in the working
directory.

Main definitions: `Files.resolve`, which follows a path, and the operations on what it leads to. An
operation that fails says why and changes nothing, apart from `Files.makeDirs`, which keeps the
directories made so far.
-/

namespace SampleLibrary

/-- Where something is: the names from the root down. -/
abbrev Location := List String

/-- What a name stands for. -/
inductive Node where
  | directory
  | file (id : Nat)
  | link (target : String)
  deriving Repr, DecidableEq

/-- What is in a file: some bytes, or the tables of a database. -/
inductive Content where
  | bytes (data : ByteArray)
  | database (tables : Tables)

/-- The bytes of a content; those of a database are not looked at. -/
def Content.toBytes : Content → ByteArray
  | bytes data => data
  | database _ => .empty

/-- The content of a file and when it was last changed. -/
structure FileData where
  content : Content
  modified : Int

/-- Files and directories by location, and a clock that goes on with every change. -/
structure Files where
  nodes : Std.ExtTreeMap Location Node
  data : Std.ExtTreeMap Nat FileData
  nextId : Nat
  clock : Int
  working : Location

/-- Why an operation on files fails. -/
inductive FileError where
  | notFound
  | notPermitted
  | exists
  | notDirectory
  | isDirectory
  | invalid
  | nameTooLong
  | notEmpty
  | tooManyLinks
  | notRegular
  | nulInPath
  deriving Repr, DecidableEq

def FileError.message : FileError → String
  | notFound => "No such file or directory (os error 2)"
  | notPermitted => "Operation not permitted (os error 1)"
  | .exists => "File exists (os error 17)"
  | notDirectory => "Not a directory (os error 20)"
  | isDirectory => "Is a directory (os error 21)"
  | invalid => "Invalid argument (os error 22)"
  | nameTooLong => "File name too long (os error 36)"
  | notEmpty => "Directory not empty (os error 39)"
  | tooManyLinks => "Too many levels of symbolic links (os error 40)"
  | notRegular => "the source path is neither a regular file nor a symlink to a regular file"
  | nulInPath => "file name contained an unexpected NUL byte"

/-- Where a path leads: to something that is there, or to a free name in a directory. -/
inductive Place where
  | found (location : Location) (node : Node)
  /-- The path may end with a slash, as if a directory were meant. -/
  | free (location : Location) (slash : Bool)
  deriving Repr, DecidableEq

/-- How far a path has been followed: to its end, or up to a link. -/
inductive Walk where
  | ended (place : Place)
  | atLink (directory : Location) (target : String) (rest : List String)
  deriving Repr, DecidableEq

namespace Files

/-- Only a working directory. -/
def fresh (working : Location) : Files where
  nodes := (List.range working.length).foldl
    (fun nodes n => nodes.insert (working.take (n + 1)) .directory) ∅
  data := ∅
  nextId := 0
  clock := 0
  working := working

def at? (fs : Files) (location : Location) : Option Node :=
  if location.isEmpty then some .directory else fs.nodes[location]?

/-- The longest name, in bytes. -/
def maxName : Nat := 255

/-- The longest path, in bytes. -/
def maxPath : Nat := 4096

/-- The largest number of links in a path. -/
def maxLinks : Nat := 40

/-- Follows names from a directory on, up to the next link. A link at the very end is followed only if
`followLast` is set. -/
def walk (fs : Files) (followLast : Bool) : Location → List String → Except FileError Walk
  | directory, [] => .ok (.ended (.found directory .directory))
  | directory, name :: rest =>
    if name == "" || name == "." then walk fs followLast directory rest
    else if name == Path.up then walk fs followLast directory.dropLast rest
    else if name.utf8ByteSize > maxName then .error .nameTooLong
    else
      let location := directory ++ [name]
      match fs.nodes[location]? with
      | none =>
        if rest.all (· == "") then .ok (.ended (.free location !rest.isEmpty)) else .error .notFound
      | some .directory => walk fs followLast location rest
      | some (.file id) =>
        if rest.isEmpty then .ok (.ended (.found location (.file id))) else .error .notDirectory
      | some (.link target) =>
        if rest.isEmpty && !followLast then .ok (.ended (.found location (.link target)))
        else .ok (.atLink directory target rest)

/-- The names between the slashes of a path, empty ones among them. -/
def pieces (path : String) : List String :=
  (Text.splitAtAll (· == '/') path.toList).map String.ofList

def follow (fs : Files) (followLast : Bool) :
    (links : Nat) → Location → List String → Except FileError Place
  | links, directory, names =>
    match walk fs followLast directory names with
    | .error e => .error e
    | .ok (.ended place) => .ok place
    | .ok (.atLink directory target rest) =>
      match links with
      | 0 => .error .tooManyLinks
      | links + 1 =>
        let start := if Path.isAbsolute target then [] else directory
        follow fs followLast links start (pieces target ++ rest)

def resolve (fs : Files) (path : String) (followLast : Bool) : Except FileError Place :=
  if path.toList.contains '\x00' then .error .nulInPath
  else if path.isEmpty then .error .notFound
  else if path.utf8ByteSize ≥ maxPath then .error .nameTooLong
  else
    let start := if Path.isAbsolute path then [] else fs.working
    follow fs followLast maxLinks start (pieces path)

def stat (fs : Files) (path : String) (followLast : Bool) : Except FileError (Location × Node) :=
  match fs.resolve path followLast with
  | .ok (.found location node) => .ok (location, node)
  | .ok (.free _ _) => .error .notFound
  | .error e => .error e

def exists? (fs : Files) (path : String) : Bool := (fs.stat path true).toOption.isSome

def isDirectory (fs : Files) (path : String) : Bool :=
  match fs.stat path true with
  | .ok (_, .directory) => true
  | _ => false

def isFile (fs : Files) (path : String) : Bool :=
  match fs.stat path true with
  | .ok (_, .file _) => true
  | _ => false

def fileAt (fs : Files) (path : String) : Except FileError (Location × Nat) :=
  match fs.stat path true with
  | .ok (location, .file id) => .ok (location, id)
  | .ok (_, _) => .error .isDirectory
  | .error e => .error e

def dataOf (fs : Files) (id : Nat) : FileData :=
  (fs.data[id]?).getD ⟨.bytes .empty, 0⟩

def read (fs : Files) (path : String) : Except FileError ByteArray :=
  (fs.fileAt path).map fun (_, id) => (fs.dataOf id).content.toBytes

/-- The text in the file to which a path leads. A database is no text. -/
def readText? (fs : Files) (path : String) : Option String :=
  match fs.fileAt path with
  | .ok (_, id) =>
    match (fs.dataOf id).content with
    | .bytes data => String.fromUTF8? data
    | .database _ => none
  | .error _ => none

/-- The names in a directory with what they stand for, in the order of their texts. -/
def children (fs : Files) (location : Location) : List (String × Node) :=
  fs.nodes.toList.filterMap fun (l, node) =>
    match l.getLast? with
    | some name => if l.dropLast == location then some (name, node) else none
    | none => none

def list (fs : Files) (path : String) : Except FileError (List (String × Node)) :=
  match fs.stat path true with
  | .ok (location, .directory) => .ok (fs.children location)
  | .ok (_, _) => .error .notDirectory
  | .error e => .error e

/-- The tree with a name more or changed, a tick later. -/
def insertNode (fs : Files) (location : Location) (node : Node) : Files :=
  { fs with nodes := fs.nodes.insert location node, clock := fs.clock + 1 }

def eraseNode (fs : Files) (location : Location) : Files :=
  { fs with nodes := fs.nodes.erase location, clock := fs.clock + 1 }

/-- The files with another content, changed at a given time or now. -/
def setData (fs : Files) (id : Nat) (content : Content) (modified : Option Int) : Files :=
  { fs with
    data := fs.data.insert id ⟨content, modified.getD fs.clock⟩
    clock := fs.clock + 1 }

/-- Puts a content into the file to which a path leads, which may be a new one. -/
def put (fs : Files) (path : String) (content : Content) (modified : Option Int) :
    Except FileError Files :=
  match fs.resolve path true with
  | .error e => .error e
  | .ok (.found _ (.file id)) => .ok (fs.setData id content modified)
  | .ok (.found _ _) => .error .isDirectory
  | .ok (.free location slash) =>
    if slash then .error .isDirectory
    else
      let id := fs.nextId
      .ok (({ fs with nextId := id + 1 }.insertNode location (.file id)).setData id content modified)

/-- Makes one directory. -/
def makeDir (fs : Files) (path : String) : Except FileError Files :=
  match fs.resolve path false with
  | .error e => .error e
  | .ok (.found _ _) => .error .exists
  | .ok (.free location _) => .ok (fs.insertNode location .directory)

def ensureDir (fs : Files) (path : String) : Except FileError Files :=
  match fs.makeDir path with
  | .ok fs => .ok fs
  | .error e => if fs.isDirectory path then .ok fs else .error e

/-- Makes the directories above a directory and the directory itself, from the components of its path,
last one first. -/
def makeDirsAt (fs : Files) : List String → Except FileError Unit × Files
  | [] => (.ok (), fs)
  | name :: above =>
    let path := Path.ofComponents (name :: above).reverse
    match fs.makeDir path with
    | .ok fs => (.ok (), fs)
    | .error .notFound =>
      match makeDirsAt fs above with
      | (.error e, fs) => (.error e, fs)
      | (.ok (), fs) =>
        match fs.ensureDir path with
        | .ok fs => (.ok (), fs)
        | .error e => (.error e, fs)
    | .error e => if fs.isDirectory path then (.ok (), fs) else (.error e, fs)

/-- Makes a directory and the directories above it, as far as they are missing. -/
def makeDirs (fs : Files) (path : String) : Except FileError Unit × Files :=
  fs.makeDirsAt (Path.components path).reverse

/-- Removes a file or a link. -/
def remove (fs : Files) (path : String) : Except FileError Files :=
  match fs.stat path false with
  | .error e => .error e
  | .ok (_, .directory) => .error .isDirectory
  | .ok (location, _) => .ok (fs.eraseNode location)

/-- Removes an empty directory. -/
def removeDir (fs : Files) (path : String) : Except FileError Files :=
  match fs.stat path false with
  | .error e => .error e
  | .ok (location, .directory) =>
    if (fs.children location).isEmpty then .ok (fs.eraseNode location) else .error .notEmpty
  | .ok (_, _) => .error .notDirectory

/-- Removes a directory with everything in it; of a link only the link. -/
def removeTree (fs : Files) (path : String) : Except FileError Files :=
  match fs.stat path false with
  | .error e => .error e
  | .ok (location, .directory) => .ok { fs with
      nodes := fs.nodes.filter fun l _ => !location.isPrefixOf l
      clock := fs.clock + 1 }
  | .ok (location, .link _) => .ok (fs.eraseNode location)
  | .ok (_, .file _) => .error .notDirectory

/-- Copies a file. What was in the target is lost before anything is read, so that a file copied to
itself is empty afterwards. -/
def copy (fs : Files) (source target : String) : Except FileError Files :=
  match fs.stat source true with
  | .error e => .error e
  | .ok (_, .file id) =>
    match fs.put target (.bytes .empty) none with
    | .error e => .error e
    | .ok emptied => emptied.put target (emptied.dataOf id).content none
  | .ok (_, _) => .error .notRegular

/-- Gives a file a second name. -/
def hardLink (fs : Files) (source name : String) : Except FileError Files :=
  match fs.stat source false with
  | .error e => .error e
  | .ok (_, .directory) => .error .notPermitted
  | .ok (_, node) =>
    match fs.resolve name false with
    | .error e => .error e
    | .ok (.found _ _) => .error .exists
    | .ok (.free location slash) =>
      if slash then .error .notFound else .ok (fs.insertNode location node)

def symlink (fs : Files) (target path : String) : Except FileError Files :=
  if target.isEmpty then .error .notFound
  else match fs.resolve path false with
    | .error e => .error e
    | .ok (.found _ _) => .error .exists
    | .ok (.free location slash) =>
      if slash then .error .notFound else .ok (fs.insertNode location (.link target))

/-- Writes bytes to a file, after making the directories above it. -/
def write (fs : Files) (path : String) (data : ByteArray) (modified : Int) :
    Except FileError Unit × Files :=
  let above := (Path.parent? path).getD []
  match fs.makeDirsAt above.reverse with
  | (.error e, fs) => (.error e, fs)
  | (.ok (), fs) =>
    match fs.put path (.bytes data) (some modified) with
    | .ok fs => (.ok (), fs)
    | .error e => (.error e, fs)

/-- The paths below a directory, in order of their names; those of directories end with a slash.
Names that `hidden` holds of are left out with everything below them. -/
def below (fs : Files) (hidden : String → Bool) (path : String) : List String :=
  match fs.stat path true with
  | .ok (location, .directory) =>
    fs.nodes.toList.filterMap fun (l, node) =>
      if location.isPrefixOf l && l.length > location.length then
        let names := l.drop location.length
        if names.any hidden then none
        else
          let shown := Path.below path (Text.join "/" names)
          some (if node == .directory then shown ++ "/" else shown)
      else none
  | _ => []

end Files

end SampleLibrary
