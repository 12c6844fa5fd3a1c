import Mathlib.Tactic.Common
import SampleLibrary.Proofs.Decimal.Digits
import SampleLibrary.Proofs.Files.Following
import SampleLibrary.Proofs.Splitting
import SampleLibrary.Verifier.BlobFiles

/-!
# Names that the second stage knows

The directories and the files of items are named after checksums, and directories for aliases after
processes. Each of these names stands for itself in a path, and no two kinds have one in common.
-/

namespace SampleLibrary.Verifier

/-- A checksum and an extension that the name of a file of an item can be made of. -/
structure Naming (md5 extension : String) : Prop where
  digits : isHexName 32 md5 = true
  nonempty : extension.toList ≠ []
  word : ∀ c ∈ extension.toList, Text.isWord c = true

/-- The name of the file with a checksum and an extension. -/
def blobName (md5 extension : String) : String := md5 ++ "." ++ extension

theorem isHexName_iff {length : Nat} {name : String} :
    isHexName length name = true ↔
      name.toList.length = length ∧ ∀ c ∈ name.toList, Text.isLowerHex c = true := by
  simp [isHexName]

theorem ne_dot_of_isLowerHex {c : Char} (digit : Text.isLowerHex c = true) : c ≠ '.' := by
  rintro rfl
  exact absurd digit (by decide)

theorem ne_slash_of_isLowerHex {c : Char} (digit : Text.isLowerHex c = true) : c ≠ '/' := by
  rintro rfl
  exact absurd digit (by decide)

theorem ne_slash_of_isWord {c : Char} (word : Text.isWord c = true) : c ≠ '/' := by
  rintro rfl
  exact absurd word (by decide)

theorem isName_of_isHexName {length : Nat} {name : String} (positive : 0 < length)
    (digits : isHexName length name = true) : IsName name := by
  obtain ⟨size, digit⟩ := isHexName_iff.mp digits
  have notDots {s : String} (dots : '.' ∈ s.toList) : name ≠ s := by
    rintro rfl
    exact ne_dot_of_isLowerHex (digit '.' dots) rfl
  refine ⟨?_, notDots (by decide), notDots (by decide), fun slash => ?_⟩
  · rintro rfl
    simp only [String.toList_empty, List.length_nil] at size
    omega
  · exact ne_slash_of_isLowerHex (digit '/' slash) rfl

theorem toList_blobName (md5 extension : String) :
    (blobName md5 extension).toList = md5.toList ++ '.' :: extension.toList := by
  simp [blobName]

theorem Naming.isName {md5 extension : String} (naming : Naming md5 extension) :
    IsName (blobName md5 extension) := by
  obtain ⟨size, digit⟩ := isHexName_iff.mp naming.digits
  have long {s : String} (short : s.toList.length < 32) : blobName md5 extension ≠ s := by
    rintro rfl
    rw [toList_blobName, List.length_append, size] at short
    omega
  refine ⟨long (by decide), long (by decide), long (by decide), ?_⟩
  rw [toList_blobName, List.mem_append, List.mem_cons]
  rintro (slash | dot | slash)
  · exact ne_slash_of_isLowerHex (digit '/' slash) rfl
  · exact absurd dot (by decide)
  · exact ne_slash_of_isWord (naming.word '/' slash) rfl

theorem splitAtDot?_eq_some {cs front rest : List Char} :
    splitAtDot? cs = some (front, rest) ↔ cs = front ++ '.' :: rest ∧ '.' ∉ front := by
  unfold splitAtDot?
  constructor
  · intro split
    split at split
    · cases split
    · rename_i c rest' cut
      simp only [Option.some.injEq, Prod.mk.injEq] at split
      obtain ⟨rfl, rfl⟩ := split
      have isDot : c = '.' := by
        have stopped := List.head?_dropWhile_not (· != '.') cs
        simpa [cut] using stopped
      subst isDot
      refine ⟨by rw [← cut, List.takeWhile_append_dropWhile], ?_⟩
      intro membership
      have before := List.all_eq_true.mp (List.all_takeWhile (p := (· != '.')) (l := cs))
      simpa using before '.' membership
  · rintro ⟨rfl, noDot⟩
    have taken : (front ++ '.' :: rest).takeWhile (· != '.') = front := by
      rw [List.takeWhile_append_of_pos]
      · simp
      · intro c membership
        simpa using fun same : c = '.' => noDot (same ▸ membership)
    have dropped : (front ++ '.' :: rest).dropWhile (· != '.') = '.' :: rest := by
      rw [List.dropWhile_append_of_pos]
      · simp
      · intro c membership
        simpa using fun same : c = '.' => noDot (same ▸ membership)
    rw [dropped, taken]

/-- The names of files of items are made of a checksum, a dot and an extension. -/
theorem blobName?_eq_some {name md5 extension : String} :
    blobName? name = some (md5, extension) ↔
      name = blobName md5 extension ∧ Naming md5 extension := by
  unfold blobName?
  constructor
  · intro named
    obtain ⟨⟨front, rest⟩, split, named⟩ := Option.bind_eq_some_iff.mp named
    obtain ⟨cut, -⟩ := splitAtDot?_eq_some.mp split
    dsimp only at named
    split at named
    · rename_i demands
      simp only [Option.some.injEq, Prod.mk.injEq] at named
      obtain ⟨rfl, rfl⟩ := named
      simp only [Bool.and_eq_true, beq_iff_eq, List.all_eq_true, Bool.not_eq_true',
        List.isEmpty_eq_false_iff] at demands
      refine ⟨?_, ⟨?_, ?_, ?_⟩⟩
      · rw [← String.toList_inj, toList_blobName, cut]
        simp
      · simpa [isHexName_iff] using demands.1.1
      · simpa using demands.1.2
      · simpa using demands.2
    · cases named
  · rintro ⟨rfl, naming⟩
    obtain ⟨size, digit⟩ := isHexName_iff.mp naming.digits
    have split : splitAtDot? (blobName md5 extension).toList =
        some (md5.toList, extension.toList) :=
      splitAtDot?_eq_some.mpr ⟨toList_blobName md5 extension,
        fun dot => ne_dot_of_isLowerHex (digit '.' dot) rfl⟩
    rw [split]
    simpa [size, naming.nonempty] using And.intro digit naming.word

/-- A file has one name for a checksum and an extension only. -/
theorem blobName_injective {md5 md5' extension extension' : String}
    (naming : Naming md5 extension) (naming' : Naming md5' extension')
    (same : blobName md5 extension = blobName md5' extension') :
    md5 = md5' ∧ extension = extension' := by
  have named := blobName?_eq_some.mpr ⟨rfl, naming⟩
  rw [blobName?_eq_some.mpr ⟨same, naming'⟩] at named
  simpa [eq_comm] using named

/-! ## Directories -/

/-- The name of the directory for the first digit of a checksum. -/
abbrev firstPart (md5 : String) : String := Blob.part md5 0 1

/-- The name of the directory for the next two digits of a checksum. -/
abbrev secondPart (md5 : String) : String := Blob.part md5 1 3

theorem utf8Size_of_isLowerHex {c : Char} (digit : Text.isLowerHex c = true) : c.utf8Size = 1 := by
  unfold Text.isLowerHex Text.isDecimal at digit
  rw [Char.utf8Size_eq_one_iff]
  simp only [Bool.or_eq_true, Bool.and_eq_true, decide_eq_true_eq, Char.le_def] at digit
  rw [UInt32.le_iff_toNat_le]
  simp only [UInt32.le_iff_toNat_le] at digit
  rcases digit with ⟨-, low⟩ | ⟨-, low⟩
  · exact Nat.le_trans low (by decide)
  · exact Nat.le_trans low (by decide)

theorem utf8ByteSize_ofList_of_isLowerHex {cs : List Char}
    (digits : ∀ c ∈ cs, Text.isLowerHex c = true) :
    (String.ofList cs).utf8ByteSize = cs.length := by
  induction cs with
  | nil => rfl
  | cons c cs inductionHypothesis =>
      rw [String.ofList_cons, String.utf8ByteSize_append, String.utf8ByteSize_singleton,
        utf8Size_of_isLowerHex (digits c (by simp)),
        inductionHypothesis fun d membership => digits d (by simp [membership]), List.length_cons,
        Nat.add_comm]

theorem utf8ByteSize_of_isHexName {length : Nat} {name : String}
    (digits : isHexName length name = true) : name.utf8ByteSize = length := by
  obtain ⟨size, digit⟩ := isHexName_iff.mp digits
  have bytes := utf8ByteSize_ofList_of_isLowerHex digit
  rw [String.ofList_toList] at bytes
  rw [bytes, size]

/-- The directories for a checksum are named after its digits. -/
theorem isHexName_parts {md5 : String} (digits : isHexName 32 md5 = true) :
    isHexName 1 (firstPart md5) = true ∧ isHexName 2 (secondPart md5) = true := by
  obtain ⟨size, digit⟩ := isHexName_iff.mp digits
  obtain ⟨a, b, c, rest, cs⟩ : ∃ a b c rest, md5.toList = a :: b :: c :: rest := by
    match md5.toList, size with
    | a :: b :: c :: rest, _ => exact ⟨a, b, c, rest, rfl⟩
  rw [cs] at digit
  have ha := utf8Size_of_isLowerHex (digit a (by simp))
  have hb := utf8Size_of_isLowerHex (digit b (by simp))
  have hc := utf8Size_of_isLowerHex (digit c (by simp))
  have first : firstPart md5 = String.ofList [a] := by
    simp [firstPart, Blob.part, Text.slice?, cs, Text.dropBytes?, Text.takeBytes?, ha]
  have second : secondPart md5 = String.ofList [b, c] := by
    simp [secondPart, Blob.part, Text.slice?, cs, Text.dropBytes?, Text.takeBytes?, ha, hb, hc]
  rw [first, second]
  constructor
  · simpa [isHexName_iff] using digit a (by simp)
  · simpa [isHexName_iff] using And.intro (digit b (by simp)) (digit c (by simp))

theorem isName_firstPart {md5 : String} (digits : isHexName 32 md5 = true) :
    IsName (firstPart md5) :=
  isName_of_isHexName Nat.one_pos (isHexName_parts digits).1

theorem isName_secondPart {md5 : String} (digits : isHexName 32 md5 = true) :
    IsName (secondPart md5) :=
  isName_of_isHexName Nat.two_pos (isHexName_parts digits).2

/-! ## Directories for aliases -/

theorem not_slash_of_readNat? {limit n : Nat} {cs : List Char}
    (number : Decimal.readNat? limit cs = some n) : '/' ∉ cs := by
  intro slash
  obtain ⟨value, read, -⟩ := Option.bind_eq_some_iff.mp number
  have digits {cs : List Char} (read : Decimal.readDigits? cs = some value) (slash : '/' ∈ cs) :
      False := by
    unfold Decimal.readDigits? at read
    split at read
    · cases read
    · rename_i demands
      simp only [Bool.or_eq_true, Bool.not_eq_true', not_or, Bool.not_eq_false,
        List.all_eq_true] at demands
      exact absurd (demands.2 '/' slash) (by decide)
  split at read
  · rename_i rest
    exact digits read ((List.mem_cons.mp slash).resolve_left (by decide))
  · exact digits read slash

/-- The name of a directory for aliases. -/
theorem tmpProcess?_eq_some {name : String} {process : Nat}
    (owned : tmpProcess? name = some process) :
    ∃ rest, name.toList = 't' :: 'm' :: 'p' :: '.' :: rest ∧ '/' ∉ rest := by
  unfold tmpProcess? at owned
  obtain ⟨rest, after, owned⟩ := Option.bind_eq_some_iff.mp owned
  refine ⟨rest, Text.afterFront?_eq_some.mp after, ?_⟩
  split at owned
  · exact not_slash_of_readNat? owned
  · rename_i first opened split
    obtain ⟨rfl, -⟩ := splitAtDot?_eq_some.mp split
    split at owned
    · cases owned
    · rename_i demands
      simp only [Bool.or_eq_true, Bool.not_eq_true', not_or, Bool.not_eq_false,
        List.all_eq_true] at demands
      rw [List.mem_append, List.mem_cons]
      rintro (slash | dot | slash)
      · exact not_slash_of_readNat? owned slash
      · exact absurd dot (by decide)
      · exact absurd (demands.2 '/' slash) (by decide)

theorem isName_of_tmpProcess? {name : String} {process : Nat}
    (owned : tmpProcess? name = some process) : IsName name := by
  obtain ⟨rest, cs, noSlash⟩ := tmpProcess?_eq_some owned
  have long {s : String} (short : s.toList.length < 4) : name ≠ s := by
    rintro rfl
    simp only [cs, List.length_cons] at short
    omega
  refine ⟨long (by decide), long (by decide), long (by decide), ?_⟩
  simp [cs, noSlash]

/-- The directories for aliases of a process are named after it. -/
def IsOwn (process : Nat) (name : String) : Prop :=
  name = Library.tmpStart ++ toString process ∨ ∃ opened, name = Library.tmpName process opened

theorem isDecimal_of_mem_toString {n : Nat} {c : Char} (digit : c ∈ (toString n).toList) :
    Text.isDecimal c = true :=
  Decimal.isDecimal_of_mem_natDigits (Decimal.toList_toString n ▸ digit)

/-- A number that is read from its digits is that number. -/
theorem eq_of_readNat?_toString {limit n m : Nat}
    (read : Decimal.readNat? limit (toString n).toList = some m) : m = n := by
  obtain ⟨value, read, small⟩ := Option.bind_eq_some_iff.mp read
  have unsigned : Decimal.readDigits? (toString n).toList = some value := by
    split at read
    · rename_i rest signed
      have sign : '+' ∈ (toString n).toList := signed ▸ List.mem_cons_self
      exact absurd (isDecimal_of_mem_toString sign) (by decide)
    · exact read
  rw [Decimal.toList_toString, Decimal.readDigits?_natDigits] at unsigned
  cases unsigned
  split at small
  · exact (Option.some.inj small).symm
  · cases small

/-- A directory for aliases of a process is not taken for one of another process. -/
theorem IsOwn.owner_eq {process owner : Nat} {name : String} (own : IsOwn process name)
    (owned : tmpProcess? name = some owner) : owner = process := by
  have noDot : '.' ∉ (toString process).toList :=
    fun dot => absurd (isDecimal_of_mem_toString dot) (by decide)
  obtain ⟨rest, after, owned⟩ := Option.bind_eq_some_iff.mp owned
  have cut := Text.afterFront?_eq_some.mp after
  obtain rfl | ⟨opened, rfl⟩ := own
  · obtain rfl : rest = (toString process).toList := by simpa using cut.symm
    split at owned
    · exact eq_of_readNat?_toString owned
    · rename_i front more split
      have dot : '.' ∈ front ++ '.' :: more := by simp
      exact absurd ((splitAtDot?_eq_some.mp split).1 ▸ dot) noDot
  · obtain rfl : rest = (toString process).toList ++ '.' :: (toString opened).toList := by
      simpa [Library.tmpName] using cut.symm
    rw [splitAtDot?_eq_some.mpr ⟨rfl, noDot⟩] at owned
    dsimp only at owned
    split at owned
    · cases owned
    · exact eq_of_readNat?_toString owned

/-- No directory is for items and for aliases. -/
theorem tmpProcess?_of_isHexName {name : String} (digits : isHexName 1 name = true) :
    tmpProcess? name = none := by
  cases owned : tmpProcess? name with
  | none => rfl
  | some process =>
      obtain ⟨rest, cs, -⟩ := tmpProcess?_eq_some owned
      have size := (isHexName_iff.mp digits).1
      simp [cs] at size

end SampleLibrary.Verifier
