import SampleLibrary.Text.Quoted
import SampleLibrary.Text.Split
import SampleLibrary.Verifier.Report

/-!
# What can be wrong with a library

A problem can be repaired if whoever is asked agrees. A remark only says what is wrong, because the
repair belongs to a problem that follows later.
-/

namespace SampleLibrary.Verifier

/-- Something that can be repaired. -/
inductive Problem where
  | missingFile (item : Int) (name path : String)
  | staleTmpDir (path : String)
  | unknownFile (path : String)
  | wrongExtension (path format : String)
  | wrongChecksum (item : Int) (path : String)
  | unreadable (item : Int) (path : String)
  | linksWithoutTag (tags : List Int)
  | linksWithoutItem (items : List Int)
  | strayCustomValues (count : Nat)
  | wrongCounts (tags : List (String × Int × Nat))
  deriving Repr, DecidableEq

namespace Problem

def kind : Problem → Kind
  | missingFile .. => .removeMissingItem
  | staleTmpDir _ => .removeStaleTmpDir
  | unknownFile _ | wrongExtension .. => .removeUnknownFile
  | wrongChecksum .. | unreadable .. => .removeInvalidItem
  | linksWithoutTag _ | linksWithoutItem _ => .fixBrokenTagAssignments
  | strayCustomValues _ => .fixBrokenCustomValues
  | wrongCounts _ => .fixTagCounts

def listed (ns : List Int) : String := "[" ++ Text.join ", " (ns.map toString) ++ "]"

def message : Problem → String
  | missingFile item name path =>
    "Item #" ++ toString item ++ " " ++ Text.quoted name ++ ": file " ++ path ++ " missing"
  | staleTmpDir path => "Unexpected (stale?) temporary directory: " ++ path
  | unknownFile path => "File " ++ path ++ " not in the database"
  | wrongExtension path format =>
    "File " ++ path ++ " extension does not match file format from the library "
      ++ Text.quoted format
  | wrongChecksum _ path => "File " ++ path ++ " checksum mismatch"
  | unreadable _ path => "File " ++ path ++ " unreadable"
  | linksWithoutTag tags => "Missing item tags: " ++ listed tags
  | linksWithoutItem items => "Missing tag items: " ++ listed items
  | strayCustomValues count => toString count ++ " custom values without item or key"
  | wrongCounts tags =>
    "Wrong tag counts: " ++ Text.join ", " (tags.map fun (name, said, really) =>
      name ++ " says " ++ toString said ++ " instead of " ++ toString really)

end Problem

/-- Something that is only reported. -/
inductive Remark where
  | missingRootTag
  | wrongItemCounter (said : Int) (really : Nat)
  deriving Repr, DecidableEq

namespace Remark

def toName : Remark → String
  | missingRootTag => "missing_root_tag"
  | wrongItemCounter .. => "item_counter"

def message : Remark → String
  | missingRootTag => "Missing '/' tag for total item count"
  | wrongItemCounter said really =>
    "Item counter is wrong: says " ++ toString said ++ " instead of " ++ toString really

end Remark

end SampleLibrary.Verifier
