import SampleLibrary.Files.Path
import SampleLibrary.Text.Case

/-!
# Where copied samples are kept

The file of a sample is kept under its checksum, in a directory for the first digit and, below that,
one for the next two. For a while a sample can have an alias, a file under its own name.
-/

namespace SampleLibrary.Blob

def extension (format : Option String) : String :=
  match format with
  | some f => if f.isEmpty then ".bin" else "." ++ Text.lowercase f
  | none => ".bin"

/-- The part of a checksum between two bytes; empty unless it is there. -/
def part (md5 : String) (start stop : Nat) : String :=
  ((Text.slice? md5.toList start stop).map String.ofList).getD ""

def fileName (md5 : String) (format : Option String) : String := md5 ++ extension format

/-- The file of a sample below `base`. A short checksum is laid out as far as it goes. -/
def path (base md5 : String) (format : Option String) : String :=
  Path.below (Path.below (Path.below base (part md5 0 1)) (part md5 1 3)) (fileName md5 format)

/-- A name that can be the name of a file: no slashes or control characters, and no dots in front. -/
def sanitize (name : String) : String :=
  let cleaned := name.toList.map fun c =>
    if c == '/' || c == '\\' || Text.isControl c then '_' else c
  String.ofList (cleaned.dropWhile (· == '.'))

/-- The name of the alias of a sample: its own name if that leaves anything, or its checksum. -/
def aliasName (name : Option String) (md5 : String) (format : Option String) : String :=
  (((name.map sanitize).filter (!·.isEmpty)).getD md5) ++ extension format

end SampleLibrary.Blob
