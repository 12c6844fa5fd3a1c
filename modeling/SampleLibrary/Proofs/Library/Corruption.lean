import SampleLibrary.Analyzer.Basic
import SampleLibrary.Proofs.Digest.Md5
import SampleLibrary.Proofs.Library.Histories
import SampleLibrary.Proofs.Verifier.Corruption

/-!
# Copied files whose content is changed

In a library made of copies of analyzed files, every item has a checksum that some content has, so that the
directory and the name of its file are the ones that the verifier knows. The format is another matter: it is
taken from the name of the file as it is, while the verifier passes over extensions with other than word
characters. So whether changed content comes up depends on the extension (`History.corruption_found`).
-/

namespace SampleLibrary.Library

open Verifier (Visible DeletedBefore BlobFile itemPath questions verify)

variable {lib : Library} {w : World} {t : Tables} {i : Item}

/-- The file is copied, and the analyzer has told its checksum and format. -/
def Analyzed (m : Metadata) (copy : Bool) : Prop :=
  copy = true ∧ m.TagsValid ∧ ∃ fs path info, Analyzer.inspect fs path = .ok info ∧
    m.md5 = info.md5 ∧ m.format = info.format

/-- A library item with the checksum of some content. -/
def Checksummed (i : Item) : Prop :=
  i.inLibrary = true ∧ ∃ bytes, i.cell .md5 = .text (Md5.checksum bytes)

theorem isHexName_checksum (bytes : ByteArray) :
    Verifier.isHexName 32 (Md5.checksum bytes) = true :=
  Verifier.isHexName_iff.mpr
    ⟨Md5.length_checksum bytes, fun _ => Md5.isLowerHex_of_mem_checksum⟩

theorem md5_of_inspect {fs : Files} {path : String} {info : FileInfo}
    (told : Analyzer.inspect fs path = .ok info) : ∃ bytes, info.md5 = some (Md5.checksum bytes) := by
  unfold Analyzer.inspect Analyzer.checksum at told
  split at told
  · split at told
    · rename_i data _
      cases told
      exact ⟨data, rfl⟩
    · cases told
  · cases told

/-- In a library made of copies of analyzed files all items have the checksum of some content. -/
theorem History.checksummed (history : History Analyzed lib w) :
    ∃ t, Holds lib w t ∧ ∀ i ∈ t.items, Checksummed i := by
  apply history.items
  rintro m copy md5 path ⟨-, -, fs, source, info, told, checksum, -⟩ required id
  rcases md5_of_inspect told with ⟨bytes, known⟩
  exact ⟨Tables.rowOf_inLibrary id, bytes,
    Tables.rowOf_checksum (m := stored m path copy) (checksum.trans known)⟩

/-- The file of an item has been given other content than the item has the checksum of. If the verifier comes
to the file, this comes up in every verification that goes well, unless the item has been deleted before in
the same run; and if it does not, nothing comes up for the file. -/
theorem History.corruption_found {location : Location} {id : Nat} {observer : Verifier.Observer}
    {report : Verifier.Report} (history : History Analyzed lib w)
    (isOpen : lib.tables w.files = .ok t) (row : i ∈ t.items)
    (there : w.files.stat (itemPath lib i) true = .ok (location, .file id))
    (corrupted : i.cell .md5 ≠ .text (Md5.checksum (w.files.dataOf id).content.toBytes))
    (done : (verify lib observer w).1.outcome = .ok report) :
    (Visible lib w.files i →
      (∃ p a, (p, a) ∈ questions (verify lib observer w).1.events ∧
          p.IsInvalid i.id (itemPath lib i)) ∨
        DeletedBefore lib (verify lib observer w).2 (verify lib observer w).1.events i) ∧
    (¬Visible lib w.files i → ∀ q ∈ questions (verify lib observer w).1.events, ∀ item,
      ¬q.1.IsInvalid item (itemPath lib i)) := by
  rcases history.checksummed with ⟨t₁, content, checksummed⟩
  obtain rfl := Holds.eq (tables_eq_ok isOpen) content
  rcases checksummed i row with ⟨inLibrary, bytes, checksum⟩
  rcases (history.reached fun _ _ isAnalyzed => isAnalyzed.2.1).consistent with
    ⟨t₂, content₂, consistent⟩
  obtain rfl := content.eq content₂
  have digits := isHexName_checksum bytes
  rcases Verifier.exists_extension (i.text? .format) with ⟨extension, named, nonempty⟩
  rcases Verifier.verified isOpen done with ⟨place, r₁, r₂, r₃, course⟩
  have samePath : itemPath lib i = Verifier.blobPath lib (Md5.checksum bytes) extension :=
    Verifier.itemPath_eq_blobPath checksum named
  have visible := Verifier.visible_iff course.leads checksum digits named nonempty
  rw [samePath] at there ⊢
  constructor
  · intro isVisible
    rcases visible.mp isVisible with ⟨id', blob⟩
    obtain rfl : id = id' := by
      have same := (Verifier.stat_blobPath course.leads blob there).2
      cases same
      rfl
    have wrong : Md5.checksum (w.files.dataOf id).content.toBytes ≠ Md5.checksum bytes := by
      intro same
      exact corrupted (checksum.trans (congrArg Cell.text same.symm))
    exact course.corrupted consistent.keyed (Tables.mem_libraryItems.mpr ⟨row, inLibrary⟩) checksum
      named blob there wrong
  · intro notVisible
    exact Verifier.verify_blind isOpen done course.leads digits fun blob =>
      notVisible (visible.mpr blob)

/-! ## One file -/

/-- A directory with one file of four bytes. -/
def drumWorld (name : String) : World where
  process := 1
  files := ((Files.fresh ["home"]).put name (.bytes ⟨#[107, 105, 99, 107]⟩) none).toOption.getD
    (Files.fresh ["home"])

/-- What is known about the file once it has been analyzed. -/
def drum (name : String) : Metadata :=
  match Analyzer.inspect (drumWorld name).files name with
  | .ok info => .ofFileInfo info
  | .error _ => .empty

def drumImported (lib : Library) (name : String) : World :=
  (lib.importFile (drum name) true (openAt "lib" (drumWorld name)).2).2

/-- The number of the file to which a path leads. -/
def fileNumber (fs : Files) (path : String) : Nat := ((fs.fileAt path).toOption.map (·.2)).getD 0

/-- The number of the copy of the file. -/
def drumNumber (lib : Library) (name : String) : Nat :=
  fileNumber (drumImported lib name).files
    (Blob.path "lib" ((drum name).md5.getD "") (drum name).format)

/-- The copy has been given one byte as content. -/
def drumChanged (lib : Library) (name : String) : World :=
  { drumImported lib name with
    files := (drumImported lib name).files.setData (drumNumber lib name) (.bytes ⟨#[1]⟩) none }

/-- An observer who does not want anything to be repaired. -/
def unwilling : Verifier.Observer := fun _ _ => .no

/-- Is the file imported, is its copy then corrupted, and how many questions come up in a verification? -/
def drumCheck (name : String) (asked : Nat) : Bool :=
  !(drumWorld name).files.exists? (databasePath "lib") &&
  (Analyzer.inspect (drumWorld name).files name).toOption.isSome &&
  match (openAt "lib" (drumWorld name)).1 with
  | .ok lib =>
    let w := drumChanged lib name
    drumNumber lib name != lib.database &&
    match lib.tables w.files with
    | .ok t =>
      match t.items with
      | i :: _ =>
        (match w.files.stat (itemPath lib i) false with
        | .ok (_, .file id) => i.cell .md5 != .text (Md5.checksum (w.files.dataOf id).content.toBytes)
        | _ => false) &&
        (verify lib unwilling w).1.outcome.toOption.isSome &&
        (questions (verify lib unwilling w).1.events).length == asked
      | [] => false
    | .error _ => false
  | .error _ => false

theorem drum_analyzed {name : String}
    (told : (Analyzer.inspect (drumWorld name).files name).toOption.isSome = true) :
    Analyzed (drum name) true := by
  unfold drum
  cases inspected : Analyzer.inspect (drumWorld name).files name with
  | error e => simp [inspected, Except.toOption] at told
  | ok info => exact ⟨rfl, Metadata.tagsValid_empty, _, _, info, inspected, rfl, rfl⟩

/-- The file is imported and the copy is changed, and nothing else happens. -/
theorem drumChanged_history {name : String}
    (absent : (drumWorld name).files.exists? (databasePath "lib") = false)
    (analyzed : Analyzed (drum name) true) (opened : (openAt "lib" (drumWorld name)).1 = .ok lib)
    (other : drumNumber lib name ≠ lib.database) : History Analyzed lib (drumChanged lib name) := by
  have imported : History Analyzed lib (drumImported lib name) :=
    .next (.created absent opened) (.imported _ _ analyzed)
  exact .next imported (.changed _ (congrArg FileData.content (Files.dataOf_setData_of_ne other.symm)))

theorem exists_of_drumCheck {name : String} {asked : Nat} (checked : drumCheck name asked = true) :
    ∃ lib t i location id report, History Analyzed lib (drumChanged lib name) ∧
      lib.tables (drumChanged lib name).files = .ok t ∧ i ∈ t.items ∧
      (drumChanged lib name).files.stat (itemPath lib i) false = .ok (location, .file id) ∧
      i.cell .md5 ≠ .text (Md5.checksum ((drumChanged lib name).files.dataOf id).content.toBytes) ∧
      (verify lib unwilling (drumChanged lib name)).1.outcome = .ok report ∧
      (questions (verify lib unwilling (drumChanged lib name)).1.events).length = asked := by
  unfold drumCheck at checked
  rw [Bool.and_eq_true, Bool.and_eq_true, Bool.not_eq_true'] at checked
  rcases checked with ⟨⟨absent, told⟩, checked⟩
  cases opened : (openAt "lib" (drumWorld name)).1 with
  | error e => simp [opened] at checked
  | ok lib =>
      simp only [opened, Bool.and_eq_true, bne_iff_ne] at checked
      rcases checked with ⟨other, checked⟩
      have history := drumChanged_history absent (drum_analyzed told) opened other
      cases isOpen : lib.tables (drumChanged lib name).files with
      | error e => simp [isOpen] at checked
      | ok t =>
          rw [isOpen] at checked
          dsimp only at checked
          cases rows : t.items with
          | nil => simp [rows] at checked
          | cons i more =>
              rw [rows] at checked
              simp only [Bool.and_eq_true, beq_iff_eq] at checked
              rcases checked with ⟨⟨corrupted, done⟩, asked⟩
              cases found : (drumChanged lib name).files.stat (itemPath lib i) false with
              | error e => simp [found] at corrupted
              | ok result =>
                  rcases result with ⟨location, node⟩
                  cases node with
                  | file id =>
                      simp only [found, bne_iff_ne] at corrupted
                      cases outcome : (verify lib unwilling (drumChanged lib name)).1.outcome with
                      | error e => simp [outcome, Except.toOption] at done
                      | ok report =>
                          exact ⟨lib, t, i, location, id, report, history, isOpen,
                            rows ▸ List.mem_cons_self, found, corrupted, outcome, asked⟩
                  | directory => simp [found] at corrupted
                  | link target => simp [found] at corrupted

/-- The copy of a file with a common extension has been changed. -/
theorem kick_corruption_found :
    ∃ lib t i location id report, History Analyzed lib (drumChanged lib "kick.wav") ∧
      lib.tables (drumChanged lib "kick.wav").files = .ok t ∧ i ∈ t.items ∧
      (drumChanged lib "kick.wav").files.stat (itemPath lib i) true = .ok (location, .file id) ∧
      i.cell .md5 ≠
        .text (Md5.checksum ((drumChanged lib "kick.wav").files.dataOf id).content.toBytes) ∧
      (verify lib unwilling (drumChanged lib "kick.wav")).1.outcome = .ok report ∧
      (Visible lib (drumChanged lib "kick.wav").files i →
        (∃ p a, (p, a) ∈ questions (verify lib unwilling (drumChanged lib "kick.wav")).1.events ∧
            p.IsInvalid i.id (itemPath lib i)) ∨
          DeletedBefore lib (verify lib unwilling (drumChanged lib "kick.wav")).2
            (verify lib unwilling (drumChanged lib "kick.wav")).1.events i) ∧
      (¬Visible lib (drumChanged lib "kick.wav").files i →
        ∀ q ∈ questions (verify lib unwilling (drumChanged lib "kick.wav")).1.events, ∀ item,
          ¬q.1.IsInvalid item (itemPath lib i)) := by
  have checked : drumCheck "kick.wav" 1 = true := by decide +kernel
  rcases exists_of_drumCheck checked with
    ⟨lib, t, i, location, id, report, history, isOpen, row, found, corrupted, done, -⟩
  have there := Files.stat_true_of_false found fun target same => by cases same
  exact ⟨lib, t, i, location, id, report, history, isOpen, row, there, corrupted, done,
    history.corruption_found isOpen row there corrupted done⟩

/-- The copy of a file with a tilde at the end of its name has been changed: nothing comes up, and the item is
not deleted either. -/
theorem kick_tilde_passed_over :
    ∃ lib t i location id report, History Analyzed lib (drumChanged lib "kick.wav~") ∧
      lib.tables (drumChanged lib "kick.wav~").files = .ok t ∧ i ∈ t.items ∧
      (drumChanged lib "kick.wav~").files.stat (itemPath lib i) false = .ok (location, .file id) ∧
      i.cell .md5 ≠
        .text (Md5.checksum ((drumChanged lib "kick.wav~").files.dataOf id).content.toBytes) ∧
      (verify lib unwilling (drumChanged lib "kick.wav~")).1.outcome = .ok report ∧
      questions (verify lib unwilling (drumChanged lib "kick.wav~")).1.events = [] ∧
      ¬DeletedBefore lib (verify lib unwilling (drumChanged lib "kick.wav~")).2
        (verify lib unwilling (drumChanged lib "kick.wav~")).1.events i := by
  have checked : drumCheck "kick.wav~" 0 = true := by decide +kernel
  rcases exists_of_drumCheck checked with
    ⟨lib, t, i, location, id, report, history, isOpen, row, found, corrupted, done, asked⟩
  have silent := List.length_eq_zero_iff.mp asked
  refine ⟨lib, t, i, location, id, report, history, isOpen, row, found, corrupted, done, silent, ?_⟩
  intro deleted
  rcases deleted.agreed with ⟨md5, extension, p, a, -, -, membership, -⟩
  rw [silent] at membership
  exact absurd membership List.not_mem_nil

end SampleLibrary.Library
