import SampleLibrary.Library.Basic

/-!
# Aliases

The file of an item can be had under the name of the item for a while. Asking again puts off the
removal of the alias.
-/

namespace SampleLibrary.Library

def aliasPath (lib : Library) (m : Metadata) (md5 : String) : String :=
  Path.below (Path.below lib.tmpDir md5) (Blob.aliasName m.name md5 m.format)

/-- Makes an alias for a file in a directory: a second name if possible, or else a copy. -/
def makeAlias (fs : Files) (source directory name : String) : Except FileError Unit × Files :=
  match fs.makeDirs directory with
  | (.error e, fs) => (.error e, fs)
  | (.ok (), fs) =>
    match fs.hardLink source name with
    | .ok fs => (.ok (), fs)
    | .error _ =>
      match fs.copy source name with
      | .ok fs => (.ok (), fs)
      | .error e => (.error e, fs)

/-- The path of an alias of an item, which is made unless it is there, and removed later on. -/
def prettyPath (lib : Library) (m : Metadata) (w : World) :
    Except LibraryError String × Library × World :=
  if lib.isClosed then (.error .closed, lib, w)
  else match lib.blobPath m with
    | .error e => (.error e, lib, w)
    | .ok source =>
      let md5 := m.md5.getD ""
      let name := lib.aliasPath m md5
      let lib := { lib with cleanup := lib.cleanup.schedule name }
      if w.files.exists? name then (.ok name, lib, w)
      else match makeAlias w.files source (Path.below lib.tmpDir md5) name with
        | (.ok (), files) => (.ok name, lib, { w with files })
        | (.error e, files) => (.error (.io e), lib, { w with files })

end SampleLibrary.Library
