import SampleLibrary.Digest.Md5
import SampleLibrary.Text.Class

/-!
# How checksums are written

A checksum is written with 32 lower-case hexadecimal digits.
-/

namespace SampleLibrary.Md5

theorem length_lowBytes (count n : Nat) : (lowBytes count n).length = count := by
  induction count generalizing n with
  | zero => rfl
  | succ count inductionHypothesis => rw [lowBytes, List.length_cons, inductionHypothesis]

theorem length_hexByte (b : UInt8) : (hexByte b).length = 2 := rfl

theorem isLowerHex_digitChar {n : Nat} (digit : n < 16) : Text.isLowerHex (Nat.digitChar n) = true := by
  have checked : ∀ n < 16, Text.isLowerHex (Nat.digitChar n) = true := by decide
  exact checked n digit

theorem isLowerHex_of_mem_hexByte {b : UInt8} {c : Char} (membership : c ∈ hexByte b) :
    Text.isLowerHex c = true := by
  have bound : b.toNat < 256 := b.toNat_lt
  rcases List.mem_cons.mp membership with rfl | low
  · exact isLowerHex_digitChar (by omega)
  · rw [List.mem_singleton.mp low]
    exact isLowerHex_digitChar (by omega)

/-- There are two digits for each of the four bytes of a number. -/
theorem length_digits (numbers : List UInt32) :
    (numbers.flatMap fun w => (lowBytes 4 w.toNat).flatMap hexByte).length = numbers.length * 8 := by
  simp only [List.length_flatMap, length_hexByte, List.map_const', List.sum_replicate_nat,
    length_lowBytes]

theorem length_checksum (bytes : ByteArray) : (checksum bytes).toList.length = 32 := by
  unfold checksum
  dsimp only
  rw [String.toList_ofList, length_digits]
  rfl

theorem isLowerHex_of_mem_checksum {bytes : ByteArray} {c : Char}
    (membership : c ∈ (checksum bytes).toList) : Text.isLowerHex c = true := by
  unfold checksum at membership
  dsimp only at membership
  rw [String.toList_ofList] at membership
  rcases List.mem_flatMap.mp membership with ⟨w, -, inWord⟩
  rcases List.mem_flatMap.mp inWord with ⟨b, -, inByte⟩
  exact isLowerHex_of_mem_hexByte inByte

end SampleLibrary.Md5
