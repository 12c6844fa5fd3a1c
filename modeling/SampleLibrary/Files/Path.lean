import SampleLibrary.Text.Split

/-!
# Paths as texts

A path is read as its components: the root, if it starts there, and the names between slashes.
Empty names and the name of the current directory say nothing and are left out.
-/

namespace SampleLibrary.Path

/-- The name of the directory above. -/
def up : String := ".."

/-- The component that an absolute path starts with. -/
def rootName : String := "/"

def isAbsolute (path : String) : Bool := path.toList.head? == some '/'

/-- The names between the slashes of a path. -/
def names (path : String) : List String :=
  ((Text.splitAtAll (· == '/') path.toList).map String.ofList).filter fun name =>
    name != "" && name != "."

def components (path : String) : List String :=
  if isAbsolute path then rootName :: names path else names path

/-- What tells paths apart that are written differently: the components, and whether the path starts
at the current directory by name. -/
def identity (path : String) : List String :=
  match Text.splitAtAll (· == '/') path.toList with
  | ['.'] :: _ => "." :: components path
  | _ => components path

def ofComponents : List String → String
  | [] => ""
  | first :: rest =>
    if first == rootName then rootName ++ Text.join "/" rest else Text.join "/" (first :: rest)

/-- The components of the directory in which a path lies; the root and the empty path lie in none. -/
def parent? (path : String) : Option (List String) :=
  match (components path).reverse with
  | [] => none
  | last :: above => if last == rootName then none else some above.reverse

/-- The last name of a path, unless it leads up or there is none. -/
def fileName? (path : String) : Option String :=
  match (names path).reverse with
  | [] => none
  | last :: _ => if last == up then none else some last

/-- One component more, where a step up takes back the last step, if one can be taken back.
`above` are the components so far, last one first. -/
def step (above : List String) (name : String) : List String :=
  if name != up then name :: above
  else match above with
    | [] => [up]
    | last :: rest => if last == rootName then up :: above else rest

def resolve (components : List String) : List String := (components.foldl step []).reverse

/-- A path below another one; an absolute path stands for itself. -/
def below (base path : String) : String :=
  if isAbsolute path then path
  else if base == "" || base.toList.getLast? == some '/' then base ++ path
  else base ++ "/" ++ path

/-- A file name cut before its last dot; a dot at the start cuts nothing. -/
def splitExtension (name : String) : String × Option String :=
  let cs := name.toList
  let extension := (cs.reverse.takeWhile (· != '.')).reverse
  let stem := cs.take (cs.length - extension.length - 1)
  if extension.length == cs.length || stem.isEmpty then (name, none)
  else (String.ofList stem, some (String.ofList extension))

end SampleLibrary.Path
