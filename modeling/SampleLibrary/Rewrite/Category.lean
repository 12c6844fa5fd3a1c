import SampleLibrary.Files.Path
import SampleLibrary.Tag

/-!
# The category of a sample

A sample that lies in a folder below some root gets the way from the root to the folder as a tag.
-/

namespace SampleLibrary

/-- The way from `root` to the folder of the sample, as a tag path; none if the sample is not in a
folder below `root`. -/
def category? (path root : String) : Option String := do
  let folder := Path.resolve (← Path.parent? path)
  let root := Path.resolve (Path.components root)
  let names := folder.drop root.length
  if root.isPrefixOf folder && !names.isEmpty then
    some ("/" ++ Tag.sanitize (Text.join "/" names))
  else none

end SampleLibrary
