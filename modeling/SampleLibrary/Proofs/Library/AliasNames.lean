import SampleLibrary.Library.Alias
import SampleLibrary.Proofs.Files.Ways
import SampleLibrary.Proofs.Library.BlobPlaces

/-!
# The names of aliases

The alias of an item has a name that users choose. Sanitizing leaves a text that can start the name of a
file and that is left alone when it is sanitized again (`Blob.IsClean`). So an alias is a name directly in
the directory for the checksum of its item (`Path.LiesIn`), whatever the item is called, and two checksums
never share an alias (`Library.aliases_confined`).
-/

namespace SampleLibrary

/-! ## A name in a directory -/

namespace Path

variable {base directory path name : String}

theorem names_empty : names "" = [] := by decide

theorem names_append_slash (front rest : String) :
    names (front ++ "/" ++ rest) = names front ++ names rest := by
  have cut : (front ++ "/" ++ rest).toList = front.toList ++ '/' :: rest.toList := by simp
  rw [names, cut, Text.splitAtAll_append_cons rfl, List.map_append, List.filter_append]
  rfl

theorem names_of_isName (isName : IsName name) : names name = [name] := by
  have uncut : Files.pieces name = [name] := Files.pieces_of_isName isName
  rw [Files.pieces] at uncut
  simp [names, uncut, isName.nonempty, isName.notHere]

/-- The path of a name in a directory has that name behind those of the directory. -/
theorem names_below (base : String) (isName : IsName name) :
    names (below base name) = names base ++ [name] := by
  unfold below
  rw [if_neg (by simp [Files.isAbsolute_of_isName isName])]
  by_cases empty : base = ""
  · subst empty
    have alone : (if ("" == "" || "".toList.getLast? == some '/') = true then "" ++ name
        else "" ++ "/" ++ name) = name := by simp
    rw [alone, names_of_isName isName, names_empty, List.nil_append]
  by_cases slash : base.toList.getLast? = some '/'
  · rw [if_pos (by simp [slash])]
    obtain ⟨front, ends⟩ := List.getLast?_eq_some_iff.mp slash
    have whole : base = String.ofList front ++ "/" ++ "" := by
      rw [← String.toList_inj, ends]
      simp
    have longer : base ++ name = String.ofList front ++ "/" ++ name := by simp [whole]
    rw [longer, names_append_slash, names_of_isName isName, whole, names_append_slash, names_empty,
      List.append_nil]
  · rw [if_neg (by simp [empty, slash]), names_append_slash, names_of_isName isName]

theorem components_below (base : String) (isName : IsName name) :
    components (below base name) = components base ++ [name] := by
  rw [components_eq, components_eq, names_below base isName, List.append_assoc]
  congr 2
  by_cases empty : base = ""
  · subst empty
    have alone : below "" name = name := by simp [below]
    rw [alone, Files.isAbsolute_of_isName isName]
    rfl
  · exact Files.isAbsolute_below empty isName

theorem components_of_isName (isName : IsName name) : components name = [name] := by
  rw [components_eq, Files.isAbsolute_of_isName isName, names_of_isName isName]
  rfl

/-- A path is a name directly in a directory: as it is written, and wherever the directory is. -/
structure LiesIn (path directory name : String) : Prop where
  components : components path = components directory ++ [name]
  parent : parent? path = some (Path.components directory)
  entry : ∀ (fs : Files) (place location : Location) (node : Node),
    fs.stat directory true = .ok (place, .directory) →
      fs.stat path false = .ok (location, node) → location = place ++ [name]

theorem liesIn_below (base : String) (isName : IsName name) : LiesIn (below base name) base name where
  components := components_below base isName
  parent := by
    have notRoot : name ≠ rootName := by
      rintro rfl
      exact isName.noSlash (by decide)
    rw [parent?, components_below base isName, List.reverse_append]
    simp [notRoot]
  entry fs place location node leads found :=
    (Files.stat_below_inv isName leads found (.inl rfl)).1

/-- Paths that are not told apart end alike. -/
theorem components_suffix_identity (path : String) : components path <:+ identity path := by
  unfold identity
  split
  · exact List.suffix_cons _ _
  · exact List.suffix_refl _

end Path

/-! ## Sanitized names -/

namespace Blob

open Verifier (isHexName)

variable {md5 : String} {format : Option String}

/-- A text that can start the name of a file: it leads into no directory and is not hidden. -/
structure IsClean (text : String) : Prop where
  noSlash : '/' ∉ text.toList
  noBackslash : '\\' ∉ text.toList
  printing : ∀ c ∈ text.toList, Text.isControl c = false
  visible : text.toList.head? ≠ some '.'

/-- What stands for a character in a sanitized name. -/
def cleanChar (c : Char) : Char := if c == '/' || c == '\\' || Text.isControl c then '_' else c

theorem cleanChar_clean (c : Char) :
    cleanChar c ≠ '/' ∧ cleanChar c ≠ '\\' ∧ Text.isControl (cleanChar c) = false := by
  unfold cleanChar
  split
  · decide
  · rename_i clean
    simpa [not_or, and_assoc] using clean

theorem cleanChar_of_clean {c : Char} (noSlash : c ≠ '/') (noBackslash : c ≠ '\\')
    (printing : Text.isControl c = false) : cleanChar c = c := by
  simp [cleanChar, noSlash, noBackslash, printing]

theorem toList_sanitize (name : String) :
    (sanitize name).toList = (name.toList.map cleanChar).dropWhile (· == '.') := by
  rw [sanitize, String.toList_ofList]
  rfl

theorem isClean_sanitize (name : String) : IsClean (sanitize name) := by
  have cleaned : ∀ c ∈ (sanitize name).toList,
      c ≠ '/' ∧ c ≠ '\\' ∧ Text.isControl c = false := by
    intro c membership
    rw [toList_sanitize] at membership
    obtain ⟨d, -, rfl⟩ := List.mem_map.mp ((List.dropWhile_sublist _).subset membership)
    exact cleanChar_clean d
  refine ⟨fun slash => (cleaned _ slash).1 rfl, fun backslash => (cleaned _ backslash).2.1 rfl,
    fun c membership => (cleaned c membership).2.2, fun dot => ?_⟩
  rw [toList_sanitize] at dot
  have stopped := List.head?_dropWhile_not (· == '.') (name.toList.map cleanChar)
  rw [dot] at stopped
  exact absurd stopped (by decide)

/-- A name that is clean is left alone. -/
theorem sanitize_of_isClean {name : String} (clean : IsClean name) : sanitize name = name := by
  have same : name.toList.map cleanChar = name.toList := by
    have each : ∀ c ∈ name.toList, cleanChar c = id c := by
      intro c membership
      apply cleanChar_of_clean
      · rintro rfl
        exact clean.noSlash membership
      · rintro rfl
        exact clean.noBackslash membership
      · exact clean.printing c membership
    rw [List.map_congr_left each, List.map_id]
  have shown : name.toList.dropWhile (· == '.') = name.toList := by
    cases chars : name.toList with
    | nil => rfl
    | cons c rest =>
        have visible : c ≠ '.' := by
          rintro rfl
          exact clean.visible (by rw [chars]; rfl)
        simp [visible]
  rw [← String.toList_inj, toList_sanitize, same, shown]

/-! ## Names of aliases -/

theorem isClean_of_isHexName {length : Nat} (digits : isHexName length md5 = true) : IsClean md5 := by
  obtain ⟨-, digit⟩ := Verifier.isHexName_iff.mp digits
  have never {c : Char} (membership : c ∈ md5.toList) (noDigit : Text.isLowerHex c = false) : False := by
    rw [digit c membership] at noDigit
    cases noDigit
  refine ⟨fun slash => never slash (by decide), fun backslash => never backslash (by decide),
    fun c membership => ?_, fun dot => never (List.mem_of_head? dot) (by decide)⟩
  have bounds : 48 ≤ c.toNat ∧ c.toNat ≤ 102 := by
    have isDigit := digit c membership
    simp only [Text.isLowerHex, Bool.or_eq_true, Text.isDecimal_iff, Bool.and_eq_true,
      decide_eq_true_eq] at isDigit
    rcases isDigit with ⟨low, high⟩ | ⟨low, high⟩
    · omega
    · exact ⟨Nat.le_trans (by decide) low, high⟩
  simp only [Text.isControl, Bool.or_eq_false_iff, Bool.and_eq_false_iff, decide_eq_false_iff_not]
  omega

/-- An alias starts with a clean text that is not empty: the name of its item, or the checksum. -/
theorem exists_stem (name : Option String) (digits : isHexName 32 md5 = true) (format : Option String) :
    ∃ stem, IsClean stem ∧ stem ≠ "" ∧ aliasName name md5 format = stem ++ extension format := by
  have checksum : md5 ≠ "" := (Verifier.isName_of_isHexName (by decide) digits).nonempty
  unfold aliasName
  cases kept : (name.map sanitize).filter (!·.isEmpty) with
  | none => exact ⟨md5, isClean_of_isHexName digits, checksum, rfl⟩
  | some stem =>
      obtain ⟨sanitized, nonempty⟩ := Option.filter_eq_some_iff.mp kept
      obtain ⟨n, -, rfl⟩ := Option.map_eq_some_iff.mp sanitized
      exact ⟨sanitize n, isClean_sanitize n, by simpa using nonempty, rfl⟩

/-- One component of a path, which stands for itself and is not hidden. -/
structure IsAliasName (name : String) : Prop extends IsName name where
  single : Path.components name = [name]
  visible : name.toList.head? ≠ some '.'

theorem isAliasName (name : Option String) (digits : isHexName 32 md5 = true)
    (plainFormat : IsPlainFormat format) : IsAliasName (aliasName name md5 format) := by
  obtain ⟨stem, clean, nonempty, whole⟩ := exists_stem name digits format
  have first : (aliasName name md5 format).toList.head? = stem.toList.head? := by
    cases chars : stem.toList with
    | nil => exact absurd (String.toList_eq_nil_iff.mp chars) nonempty
    | cons c rest => simp [whole, chars]
  have visible : (aliasName name md5 format).toList.head? ≠ some '.' := by
    rw [first]
    exact clean.visible
  have other {dots : String} (hidden : dots.toList.head? = some '.') : aliasName name md5 format ≠ dots := by
    rintro rfl
    exact visible hidden
  have isName : IsName (aliasName name md5 format) := by
    refine ⟨fun empty => ?_, other (by decide), other (by decide), fun slash => ?_⟩
    · rw [whole, String.append_eq_empty_iff] at empty
      exact nonempty empty.1
    · rw [whole, String.toList_append, List.mem_append] at slash
      exact slash.elim clean.noSlash (noSlash_extension plainFormat)
  exact ⟨isName, Path.components_of_isName isName, visible⟩

end Blob

/-! ## Paths of aliases -/

namespace Library

open Blob (IsAliasName IsClean IsPlainFormat)
open Verifier (isHexName)

variable {lib : Library} {m : Metadata} {md5 : String} {w : World}

theorem suffix_identity_aliasPath (lib : Library) (digits : isHexName 32 md5 = true)
    (plainFormat : IsPlainFormat m.format) :
    [md5, Blob.aliasName m.name md5 m.format] <:+ Path.identity (lib.aliasPath m md5) := by
  have components : Path.components (lib.aliasPath m md5) =
      Path.components lib.tmpDir ++ [md5, Blob.aliasName m.name md5 m.format] := by
    rw [aliasPath, Path.components_below _ (Blob.isAliasName m.name digits plainFormat).toIsName,
      Path.components_below _ (Verifier.isName_of_isHexName (by decide) digits), List.append_assoc]
    rfl
  exact (components ▸ List.suffix_append _ _).trans (Path.components_suffix_identity _)

/-- What is asked for under the name of an item, and later removed, is its alias. -/
theorem prettyPath_aliasPath (checksum : m.md5 = some md5) :
    (∀ path, (lib.prettyPath m w).1 = .ok path → path = lib.aliasPath m md5) ∧
      ∀ t ∈ (lib.prettyPath m w).2.1.cleanup.started,
        t ∈ lib.cleanup.started ∨ t.path = lib.aliasPath m md5 := by
  have started : ∀ t ∈ (lib.cleanup.schedule (lib.aliasPath m md5)).started,
      t ∈ lib.cleanup.started ∨ t.path = lib.aliasPath m md5 := by
    intro t isTask
    unfold Cleanup.schedule at isTask
    split at isTask
    · exact .inl isTask
    · rcases List.mem_append.mp isTask with old | new
      · exact .inl old
      · exact .inr (by rw [List.mem_singleton.mp new])
  have own : m.md5.getD "" = md5 := by rw [checksum]; rfl
  unfold prettyPath
  rw [own]
  split
  · exact ⟨fun path found => (nomatch found), fun t => Or.inl⟩
  · split
    · exact ⟨fun path found => (nomatch found), fun t => Or.inl⟩
    · dsimp only
      split
      · exact ⟨fun path found => (Except.ok.inj found).symm, started⟩
      · split
        · exact ⟨fun path found => (Except.ok.inj found).symm, started⟩
        · exact ⟨fun path found => (nomatch found), started⟩

/-- No two checksums have an alias in common. -/
theorem md5_eq_of_identity {m' : Metadata} {md5' : String} (digits : isHexName 32 md5 = true)
    (plainFormat : IsPlainFormat m.format) (digits' : isHexName 32 md5' = true)
    (plainFormat' : IsPlainFormat m'.format)
    (same : Path.identity (lib.aliasPath m md5) = Path.identity (lib.aliasPath m' md5')) :
    md5 = md5' := by
  have ends := suffix_identity_aliasPath lib digits plainFormat
  rw [same] at ends
  have ends' := suffix_identity_aliasPath lib digits' plainFormat'
  have names := (List.suffix_of_suffix_length_le ends ends' (by simp)).eq_of_length (by simp)
  exact (List.cons.inj names).1

/-- The alias of a record has a name of its own in the directory for the checksum. -/
structure Confined (lib : Library) (m : Metadata) (md5 : String) : Prop where
  /-- Only this alias is ever made for the record. -/
  built : ∀ w path, (lib.prettyPath m w).1 = .ok path → path = lib.aliasPath m md5
  /-- Only this alias is removed later on because of it. -/
  removed : ∀ w, ∀ t ∈ (lib.prettyPath m w).2.1.cleanup.started,
    t ∈ lib.cleanup.started ∨ t.path = lib.aliasPath m md5
  inside : Path.LiesIn (lib.aliasPath m md5) (Path.below lib.tmpDir md5)
    (Blob.aliasName m.name md5 m.format)
  below : Path.LiesIn (Path.below lib.tmpDir md5) lib.tmpDir md5
  apart : ∀ m' md5', isHexName 32 md5' = true → IsPlainFormat m'.format →
    Path.identity (lib.aliasPath m md5) = Path.identity (lib.aliasPath m' md5') → md5 = md5'

/-- Sanitizing gives a clean text and is done once. The name of an alias is one visible component, whatever
the sample is called, so that the alias lies directly in the directory for its checksum and belongs to no
other one. -/
theorem aliases_confined :
    (∀ name, IsClean (Blob.sanitize name) ∧ Blob.sanitize (Blob.sanitize name) = Blob.sanitize name) ∧
      (∀ name md5 format, isHexName 32 md5 = true → IsPlainFormat format →
        IsAliasName (Blob.aliasName name md5 format)) ∧
      ∀ (lib : Library) (m : Metadata) (md5 : String), m.md5 = some md5 → isHexName 32 md5 = true →
        IsPlainFormat m.format → Confined lib m md5 := by
  refine ⟨fun name => ?_, fun name md5 format digits => Blob.isAliasName name digits, ?_⟩
  · have clean := Blob.isClean_sanitize name
    exact ⟨clean, Blob.sanitize_of_isClean clean⟩
  · intro lib m md5 checksum digits plainFormat
    have isAliasName := Blob.isAliasName m.name digits plainFormat
    have isDirectory := Verifier.isName_of_isHexName (by decide) digits
    exact {
      built := fun w => (prettyPath_aliasPath checksum).1
      removed := fun w => (prettyPath_aliasPath checksum).2
      inside := Path.liesIn_below _ isAliasName.toIsName
      below := Path.liesIn_below _ isDirectory
      apart := fun m' md5' digits' plainFormat' =>
        md5_eq_of_identity digits plainFormat digits' plainFormat' }

/-- A sample whose name climbs out of a directory and whose format does so, too. -/
def climber : Metadata :=
  { Metadata.empty with
    md5 := some "f175e09ccd29c70d6cfd9181256da4a7"
    name := some "../..\\\x00/.."
    format := some ".." }

def climbingLibrary : Library where
  base := "lib"
  place := ["home", "lib", databaseName]
  database := 0
  tmpDir := "lib/tmp.1.0"

theorem climber_confined :
    climber.md5 = some "f175e09ccd29c70d6cfd9181256da4a7" ∧
      isHexName 32 "f175e09ccd29c70d6cfd9181256da4a7" = true ∧ IsPlainFormat climber.format ∧
      Blob.aliasName climber.name "f175e09ccd29c70d6cfd9181256da4a7" climber.format = "_..___....." ∧
      IsAliasName (Blob.aliasName climber.name "f175e09ccd29c70d6cfd9181256da4a7" climber.format) ∧
      Confined climbingLibrary climber "f175e09ccd29c70d6cfd9181256da4a7" := by
  have digits : isHexName 32 "f175e09ccd29c70d6cfd9181256da4a7" = true := by decide
  have plainFormat : IsPlainFormat climber.format := by
    intro f isFormat
    cases isFormat
    decide
  have confined := aliases_confined
  exact ⟨rfl, digits, plainFormat, by decide +kernel, confined.2.1 _ _ _ digits plainFormat,
    confined.2.2 climbingLibrary climber _ rfl digits plainFormat⟩

end Library

end SampleLibrary
