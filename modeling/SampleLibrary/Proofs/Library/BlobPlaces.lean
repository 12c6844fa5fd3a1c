import SampleLibrary.Proofs.Files.Making
import SampleLibrary.Proofs.Library.Histories
import SampleLibrary.Proofs.Storage.ReadingBack
import SampleLibrary.Proofs.Text.Lowercase
import SampleLibrary.Proofs.Verifier.Names
import SampleLibrary.Verifier.Items

/-!
# Where the files of items are

Below a directory without links, the path for a checksum and a format leads to a place of its own, or nowhere
(`Blob.resolve_path`), and no two checksums share a place (`Blob.location_injective`).
-/

namespace SampleLibrary

/-- There are no links in a directory and below it. -/
def Files.Plain (fs : Files) (place : Location) : Prop :=
  ∀ location target, place <+: location → fs.nodes[location]? ≠ some (.link target)

theorem Files.MoreDirectories.plain {fs fs' : Files} {place : Location}
    (more : MoreDirectories fs fs') (plain : fs.Plain place) : fs'.Plain place :=
  fun location target inside found => plain location target inside (more.link found)

namespace Blob

open Files (Usable maxName)
open Verifier (isHexName firstPart secondPart)

variable {fs : Files} {base md5 md5' : String} {format format' : Option String} {place : Location}
  {followLast : Bool}

/-- Where the file for a checksum and a format is, if the library is in the directory at `place`. -/
def location (place : Location) (md5 : String) (format : Option String) : Location :=
  place ++ [firstPart md5] ++ [secondPart md5] ++ [fileName md5 format]

/-- A format that can be an extension. -/
def IsPlainFormat (format : Option String) : Prop := ∀ f, format = some f → '/' ∉ f.toList

theorem below_location (place : Location) (md5 : String) (format : Option String) :
    place <+: location place md5 format := by
  simp [location]

/-! ## Names -/

theorem noSlash_extension (plainFormat : IsPlainFormat format) :
    '/' ∉ (extension format).toList := by
  unfold extension
  split
  · rename_i f
    split
    · decide
    · rw [String.toList_append, List.mem_append]
      rintro (dot | slash)
      · exact absurd dot (by decide)
      · rw [Text.lowercase, String.toList_ofList] at slash
        exact plainFormat f rfl (Text.mem_of_mem_lowerFrom slash (by decide))
  · decide

theorem isName_fileName (digits : isHexName 32 md5 = true) (plainFormat : IsPlainFormat format) :
    IsName (fileName md5 format) := by
  rcases Verifier.isHexName_iff.mp digits with ⟨size, digit⟩
  have long {s : String} (short : s.toList.length < 32) : fileName md5 format ≠ s := by
    rintro rfl
    rw [fileName, String.toList_append, List.length_append, size] at short
    omega
  refine ⟨long (by decide), long (by decide), long (by decide), ?_⟩
  rw [fileName, String.toList_append, List.mem_append]
  rintro (slash | slash)
  · exact Verifier.ne_slash_of_isLowerHex (digit '/' slash) rfl
  · exact noSlash_extension plainFormat slash

theorem short_parts (digits : isHexName 32 md5 = true) :
    ¬(firstPart md5).utf8ByteSize > maxName ∧ ¬(secondPart md5).utf8ByteSize > maxName := by
  rcases Verifier.isHexName_parts digits with ⟨one, two⟩
  rw [Verifier.utf8ByteSize_of_isHexName one, Verifier.utf8ByteSize_of_isHexName two, maxName]
  omega

/-- A place belongs to one checksum. -/
theorem location_injective (digits : isHexName 32 md5 = true) (digits' : isHexName 32 md5' = true)
    (same : location place md5 format = location place md5' format') : md5 = md5' := by
  have names : fileName md5 format = fileName md5' format' := by
    have last := congrArg List.getLast? same
    simpa [location] using last
  have chars := congrArg String.toList names
  rw [fileName, fileName, String.toList_append, String.toList_append] at chars
  have sizes : md5.toList.length = md5'.toList.length :=
    (Verifier.isHexName_iff.mp digits).1.trans (Verifier.isHexName_iff.mp digits').1.symm
  exact String.toList_inj.mp (List.append_inj_left chars sizes)

/-! ## Paths -/

/-- The directories for a checksum are there, and nothing is wrong with the path of its file. -/
structure Laid (fs : Files) (base : String) (place : Location) (md5 : String)
    (format : Option String) : Prop where
  first : fs.nodes[place ++ [firstPart md5]]? = some .directory
  second : fs.nodes[place ++ [firstPart md5] ++ [secondPart md5]]? = some .directory
  shortName : ¬(fileName md5 format).utf8ByteSize > maxName
  usable : Usable (path base md5 format)

/-- The path leads to the place for the checksum and the format, or it does not lead anywhere. -/
theorem resolve_path {result : Place} (digits : isHexName 32 md5 = true)
    (plainFormat : IsPlainFormat format) (leads : fs.directory? base = some place)
    (plain : fs.Plain place) (resolved : fs.resolve (path base md5 format) followLast = .ok result) :
    Laid fs base place md5 format ∧
      ((∃ node, result = .found (location place md5 format) node ∧
          fs.nodes[location place md5 format]? = some node) ∨
        result = .free (location place md5 format) false ∧
          fs.nodes[location place md5 format]? = none) := by
  have isFirst := Verifier.isName_firstPart digits
  have isSecond := Verifier.isName_secondPart digits
  have isFile := isName_fileName digits plainFormat
  have directory {above name : String} {here there : Location} (isName : IsName name)
      (leadsAbove : fs.directory? above = some here) (inside : place <+: here)
      (leadsTo : fs.directory? (Path.below above name) = some there)
      (nonempty : Path.below above name ≠ "") :
      there = here ++ [name] ∧ fs.nodes[here ++ [name]]? = some .directory := by
    have found := Files.stat_eq_ok_iff.mp ((Files.directory?_eq_some nonempty).mp leadsTo)
    rcases Files.resolve_below_cases isName leadsAbove
      (fun target => plain _ target (inside.trans (List.prefix_append _ _))) found with
      ⟨-, ⟨node, same, entry⟩ | ⟨same, -⟩⟩
    · cases same
      exact ⟨rfl, entry⟩
    · cases same
  rcases Files.directory?_of_resolve_below isFile resolved with ⟨inner, leadsInner⟩
  have innerNonempty : Path.below (Path.below base (part md5 0 1)) (part md5 1 3) ≠ "" :=
    Files.below_ne_empty _ isSecond
  have leadsOuter : ∃ outer, fs.directory? (Path.below base (part md5 0 1)) = some outer :=
    Files.directory?_of_resolve_below isSecond
      (Files.stat_eq_ok_iff.mp ((Files.directory?_eq_some innerNonempty).mp leadsInner))
  rcases leadsOuter with ⟨outer, leadsOuter⟩
  rcases directory isFirst leads (List.prefix_refl place) leadsOuter
    (Files.below_ne_empty _ isFirst) with ⟨rfl, first⟩
  rcases directory isSecond leadsOuter (List.prefix_append _ _) leadsInner innerNonempty with
    ⟨rfl, second⟩
  rcases Files.resolve_below_cases isFile leadsInner
    (fun target => plain _ target (below_location place md5 format)) resolved with ⟨shortName, cases⟩
  exact ⟨⟨first, second, shortName, Files.usable_of_resolve resolved⟩, cases⟩

/-- What is at the place for a checksum is found at the end of the path. -/
theorem Laid.stat {node : Node} (laid : Laid fs base place md5 format)
    (digits : isHexName 32 md5 = true) (plainFormat : IsPlainFormat format)
    (leads : fs.directory? base = some place)
    (there : fs.nodes[location place md5 format]? = some node) (notLink : ∀ target, node ≠ .link target) :
    fs.stat (path base md5 format) followLast = .ok (location place md5 format, node) := by
  have isFirst := Verifier.isName_firstPart digits
  have isSecond := Verifier.isName_secondPart digits
  have isFile := isName_fileName digits plainFormat
  have short := short_parts digits
  have usableInner := laid.usable.of_below (Files.below_ne_empty _ isSecond) isFile
  have usableOuter := usableInner.of_below (Files.below_ne_empty _ isFirst) isSecond
  have leadsOuter := Files.directory?_of_stat (Files.stat_below_of_directory? isFirst leads usableOuter
    short.1 laid.first (by simp))
  have leadsInner := Files.directory?_of_stat (Files.stat_below_of_directory? isSecond leadsOuter
    usableInner short.2 laid.second (by simp))
  exact Files.stat_below_of_directory? isFile leadsInner laid.usable laid.shortName there notLink

theorem Laid.within {fs' : Files} (laid : Laid fs base place md5 format) (within : fs.Within fs') :
    Laid fs' base place md5 format :=
  ⟨within.nodes _ _ laid.first, within.nodes _ _ laid.second, laid.shortName, laid.usable⟩

/-- What is put where the path leads is put into the place for the checksum and the format. -/
theorem written_path {fs' : Files} {content : Content} {modified : Option Int}
    (digits : isHexName 32 md5 = true) (plainFormat : IsPlainFormat format)
    (leads : fs.directory? base = some place) (plain : fs.Plain place)
    (done : fs.put (path base md5 format) content modified = .ok fs') :
    Laid fs base place md5 format ∧
      ∃ id, Files.Written (location place md5 format) id content fs fs' := by
  rcases Files.written_put done with ⟨spot, id, written, resolved | resolved⟩
  · rcases resolve_path digits plainFormat leads plain resolved with
      ⟨laid, ⟨node, same, -⟩ | ⟨same, -⟩⟩
    · cases same
      exact ⟨laid, id, written⟩
    · cases same
  · rcases resolve_path digits plainFormat leads plain resolved with
      ⟨laid, ⟨node, same, -⟩ | ⟨same, -⟩⟩
    · cases same
    · cases same
      exact ⟨laid, id, written⟩

end Blob

namespace Library

open Verifier (isHexName itemPath)

variable {lib : Library} {w : World} {m : Metadata}

/-! ## Records and items that a file can be named after -/

/-- A checksum is made of digits, and a format can be an extension. -/
structure Named (m : Metadata) (_ : Bool) : Prop where
  digits : ∀ md5, m.md5 = some md5 → md5 ≠ "" → isHexName 32 md5 = true
  plainFormat : Blob.IsPlainFormat m.format

/-- An item with such a checksum and such a format. -/
structure NamedItem (i : Item) : Prop where
  inLibrary : i.inLibrary = true
  digits : ∃ md5, i.cell .md5 = .text md5 ∧ isHexName 32 md5 = true
  plainFormat : Blob.IsPlainFormat (i.text? .format)
  format : (i.cell .format).toValue = (i.text? .format).map .text

theorem nonempty_of_requireSource {md5 path : String} (required : requireSource m = .ok (md5, path)) :
    md5 ≠ "" := by
  rcases exists_of_bind_ok required with ⟨found, checksum, required⟩
  have same : found = md5 := by
    split at required
    · split at required <;> cases required
      rfl
    · cases required
  subst same
  unfold requireMd5 at checksum
  split at checksum
  · split at checksum
    · cases checksum
    · rename_i nonempty
      cases checksum
      simpa using nonempty
  · cases checksum

theorem text?_rowOf_format (id : Int) (m : Metadata) : (Tables.rowOf id m).text? .format = m.format := by
  cases format : m.format <;>
    simp [Tables.rowOf, Item.text?, Metadata.get?, format, Cell.ofValue, Cell.toColumn, Field.kind,
      Cell.toTextColumn, Cell.asText?]

theorem namedItem_rowOf {copy : Bool} {md5 path : String} (named : Named m copy)
    (required : requireSource m = .ok (md5, path)) (id : Int) :
    NamedItem (Tables.rowOf id (stored m path copy)) := by
  have checksum := requireSource_ok required
  refine ⟨Tables.rowOf_inLibrary id, ⟨md5, Tables.rowOf_checksum (m := stored m path copy) checksum,
    named.digits md5 checksum (nonempty_of_requireSource required)⟩, ?_, ?_⟩
  · rw [text?_rowOf_format]
    exact named.plainFormat
  · rw [text?_rowOf_format]
    exact Cell.toValue_text (f := .format) rfl m.format

/-- If all records that are imported can name files, then so can all items. -/
theorem History.named {allowed : Metadata → Bool → Prop}
    (all : ∀ m copy, allowed m copy → Named m copy) (history : History allowed lib w) :
    ∃ t, Holds lib w t ∧ ∀ i ∈ t.items, NamedItem i := by
  apply history.items
  intro m copy md5 path isAllowed required id
  exact namedItem_rowOf (all m copy isAllowed) required id

/-- The place of the file of an item. -/
def itemSpot (place : Location) (i : Item) : Location :=
  Blob.location place ((i.text? .md5).getD "") (i.text? .format)

theorem itemSpot_eq {i : Item} {md5 : String} (place : Location) (checksum : i.cell .md5 = .text md5) :
    itemSpot place i = Blob.location place md5 (i.text? .format) := by
  have text : i.text? .md5 = some md5 := by simp [Item.text?, checksum, Cell.asText?]
  rw [itemSpot, text]
  rfl

theorem itemPath_eq {i : Item} {md5 : String} (checksum : i.cell .md5 = .text md5) :
    itemPath lib i = Blob.path lib.base md5 (i.text? .format) := by
  have text : i.text? .md5 = some md5 := by simp [Item.text?, checksum, Cell.asText?]
  rw [itemPath, text]
  rfl

end Library

end SampleLibrary
