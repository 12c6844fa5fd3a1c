import Mathlib.Algebra.Group.Nat.Defs
import SampleLibrary.Decimal.Reading
import SampleLibrary.Decimal.Shortest
import SampleLibrary.Proofs.Text.Lowercase

/-!
# Digits

The digits of a number read as that number, and the texts of whole numbers read back.
-/

namespace SampleLibrary

namespace Text

/-- A text without blanks has nothing to trim. -/
theorem trim_eq_self {cs : List Char} (unblank : ∀ c ∈ cs, isBlank c = false) : trim cs = cs :=
  trim_of_sharp (fun c first => unblank c (List.mem_of_head? first))
    fun c last => unblank c (List.mem_of_getLast? last)

theorem isDecimal_iff {c : Char} : isDecimal c = true ↔ 48 ≤ c.toNat ∧ c.toNat ≤ 57 := by
  simp only [isDecimal, Bool.and_eq_true, decide_eq_true_eq]
  exact Iff.rfl

theorem not_isBlank_of_isDecimal {c : Char} (digit : isDecimal c = true) : isBlank c = false := by
  obtain ⟨low, high⟩ := isDecimal_iff.mp digit
  unfold isBlank blankRanges
  simp only [Ranges.has]
  grind

end Text

namespace Decimal

open Text

theorem digitsValue_nil (acc : Nat) : digitsValue acc [] = acc := by rfl

theorem digitsValue_cons (acc : Nat) (c : Char) (cs : List Char) :
    digitsValue acc (c :: cs) = digitsValue (acc * 10 + (c.toNat - 48)) cs := by rfl

theorem digitsValue_eq_ofDigitChars (cs : List Char) (acc : Nat) :
    digitsValue acc cs = Nat.ofDigitChars 10 cs acc := by
  induction cs generalizing acc with
  | nil => rfl
  | cons c cs inductionHypothesis =>
      rw [digitsValue_cons, inductionHypothesis, Nat.ofDigitChars_cons, Nat.mul_comm acc]
      rfl

theorem digitsValue_append (acc : Nat) (front rest : List Char) :
    digitsValue acc (front ++ rest) = digitsValue (digitsValue acc front) rest := by
  induction front generalizing acc with
  | nil => rfl
  | cons c front inductionHypothesis => exact inductionHypothesis _

theorem digitsValue_zeros (acc count : Nat) :
    digitsValue acc (List.replicate count '0') = acc * 10 ^ count := by
  induction count generalizing acc with
  | zero => rw [List.replicate_zero, digitsValue_nil, Nat.pow_zero, Nat.mul_one]
  | succ count inductionHypothesis =>
      rw [List.replicate_succ, digitsValue_cons, inductionHypothesis, Nat.pow_succ', ← Nat.mul_assoc]
      rfl

theorem toList_toString (n : Nat) : (toString n).toList = natDigits n := by
  rw [Nat.toString_eq_repr, Nat.toList_repr, natDigits]

theorem natDigits_ne_nil (n : Nat) : natDigits n ≠ [] :=
  Nat.toDigits_ne_nil

theorem isDecimal_of_mem_natDigits {n : Nat} {c : Char} (digit : c ∈ natDigits n) :
    isDecimal c = true := by
  have isDigit := Nat.isDigit_of_mem_toDigits (by decide) (by decide) digit
  simpa [Char.isDigit, isDecimal, Char.le_def] using isDigit

theorem digitsValue_natDigits (n : Nat) : digitsValue 0 (natDigits n) = n := by
  rw [digitsValue_eq_ofDigitChars, natDigits, Nat.ofDigitChars_toDigits (by decide) (by decide)]

theorem readDigits?_natDigits (n : Nat) : readDigits? (natDigits n) = some n := by
  have all : (natDigits n).all isDecimal = true :=
    List.all_eq_true.mpr fun c => isDecimal_of_mem_natDigits
  rw [readDigits?, if_neg (by simp [all, natDigits_ne_nil]), digitsValue_natDigits]

/-- A text of digits has no sign. -/
theorem readSign_of_isDecimal {c : Char} (digit : isDecimal c = true) (cs : List Char) :
    readSign (c :: cs) = (false, c :: cs) := by
  unfold readSign
  split
  · rename_i equality
    cases equality
    exact absurd digit (by decide)
  · rename_i equality
    cases equality
    exact absurd digit (by decide)
  · rfl

theorem readInt?_natDigits (n : Nat) : readInt? (natDigits n) = some (n : Int) := by
  have unsigned : readSign (natDigits n) = (false, natDigits n) := by
    cases digits : natDigits n with
    | nil => exact absurd digits (natDigits_ne_nil n)
    | cons c cs =>
        exact readSign_of_isDecimal (isDecimal_of_mem_natDigits (digits ▸ List.mem_cons_self)) cs
  simp [readInt?, unsigned, readDigits?_natDigits]

theorem readInt?_minus (n : Nat) : readInt? ('-' :: natDigits n) = some (-(n : Int)) := by
  simp only [readInt?, readSign, readDigits?_natDigits]
  rfl

theorem toList_toString_int (n : Int) :
    (toString n).toList = (if n < 0 then ['-'] else []) ++ natDigits n.natAbs := by
  cases n with
  | ofNat n => exact (toList_toString n).trans rfl
  | negSucc n =>
      rw [if_pos (Int.negSucc_lt_zero n)]
      change ("-" ++ toString (n + 1)).toList = _
      rw [String.toList_append, toList_toString]
      rfl

theorem readInt?_toString (n : Int) : readInt? (toString n).toList = some n := by
  rw [toList_toString_int]
  split
  · rename_i negative
    rw [List.singleton_append, readInt?_minus, Int.ofNat_natAbs_of_nonpos (by omega), Int.neg_neg]
  · rw [List.nil_append, readInt?_natDigits, Int.natAbs_of_nonneg (by omega)]

theorem trim_toString (n : Int) : trim (toString n).toList = (toString n).toList := by
  apply trim_eq_self
  intro c membership
  rw [toList_toString_int, List.mem_append] at membership
  rcases membership with sign | digit
  · split at sign
    · rw [List.mem_singleton.mp sign]
      decide
    · exact absurd sign List.not_mem_nil
  · exact not_isBlank_of_isDecimal (isDecimal_of_mem_natDigits digit)

/-- The text of a whole number of 64 bits reads back. -/
theorem readInt64?_toString (n : Int64) :
    readInt64? (trim (toString n.toInt).toList) = some n := by
  have inRange : (Int64.minValue.toInt ≤ n.toInt && n.toInt ≤ Int64.maxValue.toInt) = true := by
    simp only [n.minValue_le_toInt, n.toInt_le, decide_true, Bool.and_self]
  rw [trim_toString, readInt64?, readInt?_toString, Option.bind_some, if_pos inRange,
    Int64.ofInt_toInt]

end Decimal

end SampleLibrary
