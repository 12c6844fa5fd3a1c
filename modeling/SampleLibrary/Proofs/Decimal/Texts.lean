import Mathlib.Data.List.TakeWhile
import SampleLibrary.Proofs.Decimal.Digits
import SampleLibrary.Proofs.Decimal.Nearest
import SampleLibrary.Value

/-!
# Texts of floats

The text of a float reads as that float: the infinities, both zeros and every other number.
-/

namespace SampleLibrary

namespace Decimal

open Text

/-! ## Decimals in full -/

/-- The decimal with the zeros at its end among its digits. -/
def Numeral.flat (d : Numeral) : Numeral :=
  if 0 ≤ d.exponent then ⟨d.digits * 10 ^ d.exponent.toNat, 0⟩ else d

theorem Numeral.value_flat (d : Numeral) : d.flat.value = d.value := by
  unfold flat
  split
  · rename_i whole
    obtain ⟨p, exponent⟩ := Int.eq_ofNat_of_zero_le whole
    rw [value_of_whole exponent, value, exponent]
    simp
  · rfl

theorem Numeral.le_exponent_flat (d : Numeral) : min d.exponent 0 ≤ d.flat.exponent := by
  unfold flat
  split
  · exact min_le_right ..
  · exact min_le_left ..

/-- The digits before and after the point of a decimal that is written in full. -/
structure Numeral.Written (d : Numeral) (whole places : List Char) : Prop where
  nonempty : whole ≠ []
  digits : ∀ c ∈ whole ++ places, isDecimal c = true
  value : digitsValue 0 (whole ++ places) = d.flat.digits
  length : (places.length : Int) = -d.flat.exponent

/-- The two runs of digits with the point between them, if there are places at all. -/
def pointed (whole : List Char) : (places : List Char) → List Char
  | [] => whole
  | c :: cs => whole ++ '.' :: c :: cs

theorem isDecimal_of_mem_replicate {count : Nat} {c : Char}
    (membership : c ∈ List.replicate count '0') : isDecimal c = true := by
  rw [List.eq_of_mem_replicate membership]
  decide

theorem Numeral.exists_written (d : Numeral) :
    ∃ whole places, d.Written whole places ∧ d.plain = pointed whole places := by
  by_cases noPlaces : 0 ≤ d.exponent
  · have flat : d.flat = ⟨d.digits * 10 ^ d.exponent.toNat, 0⟩ := if_pos noPlaces
    refine ⟨natDigits d.digits ++ List.replicate d.exponent.toNat '0', [], ⟨?_, ?_, ?_, ?_⟩, ?_⟩
    · simp [natDigits_ne_nil]
    · intro c membership
      rw [List.append_nil, List.mem_append] at membership
      exact membership.elim isDecimal_of_mem_natDigits isDecimal_of_mem_replicate
    · rw [List.append_nil, digitsValue_append, digitsValue_natDigits, digitsValue_zeros, flat]
    · rw [flat]
      rfl
    · exact if_pos noPlaces
  · have flat : d.flat = d := if_neg noPlaces
    obtain ⟨p, exponent⟩ : ∃ p : Nat, d.exponent = -(p + 1 : Nat) :=
      ⟨(-d.exponent - 1).toNat, by omega⟩
    let padded := List.replicate (p + 1 + 1 - (natDigits d.digits).length) '0' ++ natDigits d.digits
    have length : p + 1 < padded.length := by
      simp only [padded, List.length_append, List.length_replicate]
      omega
    refine ⟨padded.take (padded.length - (p + 1)), padded.drop (padded.length - (p + 1)),
      ⟨?_, ?_, ?_, ?_⟩, ?_⟩
    · apply List.ne_nil_of_length_pos
      rw [List.length_take]
      omega
    · intro c membership
      rw [List.take_append_drop, List.mem_append] at membership
      exact membership.elim isDecimal_of_mem_replicate isDecimal_of_mem_natDigits
    · rw [List.take_append_drop, digitsValue_append, digitsValue_zeros, Nat.zero_mul,
        digitsValue_natDigits, flat]
    · rw [flat, exponent, List.length_drop]
      omega
    · have someDrop : padded.drop (padded.length - (p + 1)) ≠ [] := by
        apply List.ne_nil_of_length_pos
        rw [List.length_drop]
        omega
      have places : (-d.exponent).toNat = p + 1 := by omega
      have plain : d.plain = padded.take (padded.length - (p + 1)) ++
          '.' :: padded.drop (padded.length - (p + 1)) := by
        unfold Numeral.plain
        dsimp only
        rw [if_neg noPlaces, places]
      rw [plain]
      cases cut : padded.drop (padded.length - (p + 1)) with
      | nil => exact absurd cut someDrop
      | cons c cs => rfl

/-! ## Reading them -/

section Reading

variable {whole places : List Char} {negative : Bool}

/-- The text with a minus if it is negative. -/
def withSign (negative : Bool) (cs : List Char) : List Char := if negative then '-' :: cs else cs

theorem exists_first (nonempty : whole ≠ []) (digits : ∀ c ∈ whole, isDecimal c = true)
    (places : List Char) : ∃ c cs, pointed whole places = c :: cs ∧ isDecimal c = true := by
  cases whole with
  | nil => exact absurd rfl nonempty
  | cons c cs => cases places <;> exact ⟨c, _, rfl, digits c List.mem_cons_self⟩

theorem readSign_withSign {c : Char} (digit : isDecimal c = true) (cs : List Char) :
    readSign (withSign negative (c :: cs)) = (negative, c :: cs) := by
  cases negative with
  | true => rfl
  | false => exact readSign_of_isDecimal digit cs

theorem asciiLower_of_isDecimal {c : Char} (digit : isDecimal c = true) : asciiLower c = c := by
  have high := (isDecimal_iff.mp digit).2
  refine if_neg ?_
  rw [Bool.and_eq_true, decide_eq_true_eq, decide_eq_true_eq, Char.le_def, UInt32.le_iff_toNat_le]
  change ¬(65 ≤ c.toNat ∧ _)
  omega

theorem readWord?_withSign {c : Char} (digit : isDecimal c = true) (cs : List Char) :
    readWord? (withSign negative (c :: cs)) = none := by
  have noLetter : c ≠ 'i' ∧ c ≠ 'n' := by
    constructor <;>
    · rintro rfl
      exact absurd digit (by decide)
  simp [readWord?, readSign_withSign digit, asciiLower_of_isDecimal digit, noLetter]

theorem takeWhile_pointed (digits : ∀ c ∈ whole, isDecimal c = true) :
    (pointed whole places).takeWhile isDecimal = whole ∧
      (pointed whole places).dropWhile isDecimal = if places.isEmpty then [] else '.' :: places := by
  cases places with
  | nil => exact ⟨List.takeWhile_eq_self_iff.mpr digits, List.dropWhile_eq_nil_iff.mpr digits⟩
  | cons c cs =>
      rw [pointed, List.takeWhile_append_of_pos digits, List.dropWhile_append_of_pos digits]
      simp [show isDecimal '.' = false by decide]

theorem scan?_withSign (nonempty : whole ≠ []) (digits : ∀ c ∈ whole ++ places, isDecimal c = true) :
    scan? (withSign negative (pointed whole places)) = some ⟨negative, whole, places, 0, []⟩ := by
  have before : ∀ c ∈ whole, isDecimal c = true := fun c membership =>
    digits c (List.mem_append_left _ membership)
  have after : ∀ c ∈ places, isDecimal c = true := fun c membership =>
    digits c (List.mem_append_right _ membership)
  obtain ⟨c, cs, front, digit⟩ := exists_first nonempty before places
  have sign : readSign (withSign negative (pointed whole places)) = (negative, pointed whole places) :=
    front ▸ readSign_withSign digit cs
  unfold scan?
  rw [sign]
  dsimp only
  rw [(takeWhile_pointed before).1, (takeWhile_pointed before).2]
  cases places with
  | nil => simp [nonempty, readExponent]
  | cons d ds =>
      simp [readExponent, List.takeWhile_eq_self_iff.mpr after,
        List.dropWhile_eq_nil_iff.mpr after]

/-- A decimal that is written in full is read with just its digits. -/
theorem readFloat?_plain (negative : Bool) (d : Numeral) : readFloat? (withSign negative d.plain) =
    some (nearest negative d.flat.digits d.flat.exponent) := by
  obtain ⟨whole, places, written, plain⟩ := d.exists_written
  obtain ⟨c, cs, front, digit⟩ := exists_first written.nonempty
    (fun c membership => written.digits c (List.mem_append_left _ membership)) places
  have noWord : readWord? (withSign negative d.plain) = none := by
    rw [plain, front]
    exact readWord?_withSign digit cs
  rw [readFloat?, noWord, plain]
  dsimp only
  rw [scan?_withSign written.nonempty written.digits, Option.bind_some]
  dsimp only [List.isEmpty_nil]
  rw [if_pos rfl, Scan.value, written.value, written.length, zero_sub, neg_neg]

end Reading

/-- The text of a decimal that reads back as a float reads as the float. -/
theorem readFloat?_of_readsBack {rank : Nat} {d : Numeral} (negative : Bool)
    (finite : rank < infiniteRank) (readsBack : (Binary.ofRank rank).readsBack d = true)
    (places : -1100 ≤ d.exponent) :
    readFloat? (withSign negative d.plain) = some (.ofRank negative rank) := by
  have least := d.le_exponent_flat
  rw [readFloat?_plain, nearest_of_readsBack negative finite _ (by omega)]
  rwa [Binary.readsBack_iff, Numeral.value_flat, ← Binary.readsBack_iff]

theorem trim_plain (negative : Bool) (d : Numeral) :
    trim (withSign negative d.plain) = withSign negative d.plain := by
  obtain ⟨whole, places, written, plain⟩ := d.exists_written
  have unblank : ∀ c ∈ pointed whole places, isBlank c = false := by
    intro c membership
    have digitOrPoint : c ∈ whole ++ places ∨ c = '.' := by
      cases places with
      | nil => exact .inl (List.mem_append_left _ membership)
      | cons d ds =>
          rw [pointed, List.mem_append, List.mem_cons] at membership
          rw [List.mem_append]
          tauto
    rcases digitOrPoint with digit | rfl
    · exact not_isBlank_of_isDecimal (written.digits c digit)
    · decide
  apply trim_eq_self
  rw [plain]
  cases negative with
  | false => exact unblank
  | true =>
      intro c membership
      rcases List.mem_cons.mp membership with rfl | inside
      · decide
      · exact unblank c inside

end Decimal

open Decimal

namespace Binary64

/-- Finite floats are written as decimals that read back. -/
theorem exists_plain (negative : Bool) {rank : Fin (infiniteRank + 1)} (finite : rank.val < infiniteRank) :
    ∃ d : Numeral, (Binary.ofRank rank.val).readsBack d = true ∧ -1100 ≤ d.exponent ∧
      (toText (.signed negative rank)).toList = withSign negative d.plain := by
  have smallest := (Binary.ofRank_spec rank.val).smallest
  unfold toText
  dsimp only
  rw [if_pos finite]
  by_cases small : ((Binary.ofRank rank.val).isWhole &&
      decide ((Binary.ofRank rank.val).truncated < Nat.pow 10 16)) = true
  · have whole := (Bool.and_eq_true_iff.mp small).1
    refine ⟨_, Binary.readsBack_truncated whole, (by decide : (-1100 : Int) ≤ -1), ?_⟩
    rw [if_pos small, Binary.fixed_one_of_isWhole whole, String.toList_ofList, withSign]
  · refine ⟨_, Binary.readsBack_shortest _ .upper, Binary.le_exponent_shortest smallest, ?_⟩
    rw [if_neg small, String.toList_ofList, withSign]

/-- The text of a float reads as that float. -/
theorem readFloat?_toText {x : Binary64} (isNumber : x ≠ .nan) :
    readFloat? (Text.trim x.toText.toList) = some x := by
  cases x with
  | nan => exact absurd rfl isNumber
  | signed negative rank =>
      by_cases finite : rank.val < infiniteRank
      · obtain ⟨d, readsBack, places, text⟩ := exists_plain negative finite
        have bounded : min rank.val infiniteRank = rank.val := by omega
        rw [text, trim_plain, readFloat?_of_readsBack negative finite readsBack places, ofRank]
        simp only [bounded]
      · obtain ⟨rank, bound⟩ := rank
        obtain rfl : rank = infiniteRank := Nat.le_antisymm (Nat.le_of_lt_succ bound) (not_lt.mp finite)
        have text : (toText (.signed negative ⟨infiniteRank, bound⟩)).toList =
            withSign negative "inf".toList := by
          unfold toText
          dsimp only
          rw [if_neg (lt_irrefl _), String.toList_ofList, withSign]
        rw [text]
        cases negative <;> rfl

end Binary64

end SampleLibrary
