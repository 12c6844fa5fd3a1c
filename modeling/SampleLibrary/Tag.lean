import Std.Data.ExtTreeSet
import SampleLibrary.Text.Split

/-!
# Tags

A tag is a word of letters, digits, underscores and hyphens, or a path of such words that starts with
a slash. A path implies the shorter paths above it: `/drums/kick` implies `/drums`. Expanding a set
adds what its tags imply; its leaves are the tags that no other tag of the set implies.
-/

namespace SampleLibrary

/-- A set of tags, in the order of their texts. -/
abbrev TagSet := Std.ExtTreeSet String

namespace Tag

/-- The tag that stands for the whole library. It is no tag of any sample. -/
def root : String := "/"

def isTagChar (c : Char) : Bool := Text.isWord c || c == '-'

/-- A word of a tag: at least one character, all of them allowed. -/
def isSegment (cs : List Char) : Bool := !cs.isEmpty && cs.all isTagChar

/-- A valid tag: one word, or words that each follow a slash. -/
def isValid (tag : String) : Bool :=
  match tag.toList with
  | '/' :: rest => (Text.splitAtAll (· == '/') rest).all isSegment
  | cs => isSegment cs

/-- The path with an underscore for each character that cannot stand in a tag path. -/
def sanitize (path : String) : String :=
  String.ofList (path.toList.map fun c => if isTagChar c || c == '/' then c else '_')

/-- The paths above the path whose characters, last one first, are given: nearest first. The empty
path is left out. -/
def pathsAbove : List Char → List (List Char)
  | [] => []
  | c :: cs =>
    if c == '/' && !cs.isEmpty then cs.reverse :: pathsAbove cs
    else pathsAbove cs

/-- The tags that a tag implies, nearest first. -/
def ancestors (tag : String) : List String :=
  match tag.toList with
  | '/' :: rest => (pathsAbove ('/' :: rest).reverse).map String.ofList
  | _ => []

/-- Does `tag` lie below `other`? -/
def isBelow (tag other : String) : Bool := (other.toList ++ ['/']).isPrefixOf tag.toList

/-- The set with everything that its tags imply. -/
def expand (tags : List String) : TagSet :=
  tags.foldl (fun set tag => (set.insertMany (ancestors tag)).insert tag) ∅

/-- The tags below which the set has none. -/
def leaves (tags : TagSet) : TagSet :=
  tags.filter fun tag => !tags.toList.any fun other => isBelow other tag

end Tag

end SampleLibrary
