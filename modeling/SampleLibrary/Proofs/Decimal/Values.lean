import Mathlib.Algebra.Order.Field.Power
import Mathlib.Data.Nat.Cast.Field
import Mathlib.Data.Rat.Cast.Order
import Mathlib.Tactic.FieldSimp
import Mathlib.Tactic.Linarith
import Mathlib.Tactic.NormNum
import Mathlib.Tactic.Positivity
import Mathlib.Tactic.Ring
import SampleLibrary.Decimal.Places

/-!
# What decimals and binary floats stand for

Decimals and binary floats as rational numbers. A decimal reads back as a float if its value lies
between the ends of an interval around the float (`Binary.Covers`), and the shortest decimal of a float
does.
-/

namespace SampleLibrary.Decimal

/-! ## Powers -/

theorem power_snd_pos {base : Nat} (positive : 0 < base) (e : Int) : 0 < (power base e).2 :=
  Nat.pow_pos positive

theorem power_fst_pos {base : Nat} (positive : 0 < base) (e : Int) : 0 < (power base e).1 :=
  Nat.pow_pos positive

/-- The two parts of a power are its numerator and its denominator. -/
theorem power_div (base : Nat) (positive : 0 < base) (e : Int) :
    ((power base e).1 : ℚ) / (power base e).2 = (base : ℚ) ^ e := by
  have nonzero : (base : ℚ) ≠ 0 := by positivity
  change ((base ^ e.toNat : Nat) : ℚ) / (base ^ (-e).toNat : Nat) = _
  push_cast
  rw [← zpow_natCast, ← zpow_natCast, ← zpow_sub₀ nonzero]
  congr 1
  omega

theorem two_zpow_pos (e : Int) : (0 : ℚ) < 2 ^ e := zpow_pos (by norm_num) e

/-! ## Values -/

/-- The number that a decimal stands for. -/
def Numeral.value (d : Numeral) : ℚ := d.digits * 10 ^ d.exponent

/-- The number that a float stands for. -/
def Binary.value (x : Binary) : ℚ := x.mantissa * 2 ^ x.exponent

theorem Binary.fraction_snd_pos (x : Binary) : 0 < x.fraction.2 :=
  power_snd_pos (by decide) _

theorem Binary.fraction_div (x : Binary) : (x.fraction.1 : ℚ) / x.fraction.2 = x.value := by
  have parts := power_div 2 (by decide) x.exponent
  change ((x.mantissa * (power 2 x.exponent).1 : Nat) : ℚ) / (power 2 x.exponent).2 = _
  rw [Nat.cast_mul, mul_div_assoc, parts]
  rfl

/-! ## Exact comparison -/

section Comparison

variable {a n : Nat} {i j : Int}

/-- Both sides of a comparison, with their denominators taken away. -/
theorem exists_scale (a n : Nat) (i j : Int) : ∃ (scale : ℚ) (left right : Nat), 0 < scale ∧
    compareScaled a i n j = compare left right ∧
    (a : ℚ) * 10 ^ i = left * scale ∧ (n : ℚ) * 2 ^ j = right * scale := by
  have ten := power_div 10 (by decide) i
  have two := power_div 2 (by decide) j
  have tenBelow : (0 : ℚ) < (power 10 i).2 := Nat.cast_pos.mpr (power_snd_pos (by decide) i)
  have twoBelow : (0 : ℚ) < (power 2 j).2 := Nat.cast_pos.mpr (power_snd_pos (by decide) j)
  refine ⟨1 / ((power 10 i).2 * (power 2 j).2), a * (power 10 i).1 * (power 2 j).2,
    n * (power 2 j).1 * (power 10 i).2, by positivity, rfl, ?_, ?_⟩
  · rw [show (10 : ℚ) = ((10 : Nat) : ℚ) from rfl, ← ten]
    push_cast
    field_simp
  · rw [show (2 : ℚ) = ((2 : Nat) : ℚ) from rfl, ← two]
    push_cast
    field_simp

theorem compareScaled_eq_lt : compareScaled a i n j = .lt ↔ (a : ℚ) * 10 ^ i < n * 2 ^ j := by
  obtain ⟨scale, left, right, positive, compared, leftSide, rightSide⟩ := exists_scale a n i j
  rw [compared, leftSide, rightSide, mul_lt_mul_iff_of_pos_right positive, Nat.cast_lt,
    Nat.compare_eq_lt]

theorem compareScaled_eq_eq : compareScaled a i n j = .eq ↔ (a : ℚ) * 10 ^ i = n * 2 ^ j := by
  obtain ⟨scale, left, right, positive, compared, leftSide, rightSide⟩ := exists_scale a n i j
  rw [compared, leftSide, rightSide, mul_left_inj' positive.ne', Nat.cast_inj, Nat.compare_eq_eq]

theorem compareScaled_eq_gt : compareScaled a i n j = .gt ↔ (n : ℚ) * 2 ^ j < a * 10 ^ i := by
  obtain ⟨scale, left, right, positive, compared, leftSide, rightSide⟩ := exists_scale a n i j
  rw [compared, leftSide, rightSide, mul_lt_mul_iff_of_pos_right positive, Nat.cast_lt,
    Nat.compare_eq_gt]

end Comparison

/-! ## The reals that round to a float -/

namespace Binary

variable {x : Binary} {d : Numeral}

/-- The lower end of the interval of a float. -/
def low (x : Binary) : ℚ :=
  ((if x.narrowBelow then 4 * x.mantissa - 1 else 4 * x.mantissa - 2 : Nat) : ℚ) * 2 ^ (x.exponent - 2)

/-- The upper end of the interval of a float. -/
def high (x : Binary) : ℚ := ((4 * x.mantissa + 2 : Nat) : ℚ) * 2 ^ (x.exponent - 2)

/-- The number lies in the interval of the float; the ends count if the mantissa is even. -/
structure Covers (x : Binary) (q : ℚ) : Prop where
  above : x.low < q ∨ x.mantissa % 2 = 0 ∧ q = x.low
  below : q < x.high ∨ x.mantissa % 2 = 0 ∧ q = x.high

theorem readsBack_iff : x.readsBack d = true ↔ x.Covers d.value := by
  have closed : (x.mantissa % 2 == 0) = true ↔ x.mantissa % 2 = 0 := beq_iff_eq
  simp only [readsBack, Bool.and_eq_true, Bool.or_eq_true, beq_iff_eq, compareScaled_eq_gt,
    compareScaled_eq_eq, compareScaled_eq_lt]
  exact ⟨fun ⟨above, below⟩ => ⟨above, below⟩, fun ⟨above, below⟩ => ⟨above, below⟩⟩

theorem value_eq_quarters (x : Binary) :
    x.value = ((4 * x.mantissa : Nat) : ℚ) * 2 ^ (x.exponent - 2) := by
  rw [value, zpow_sub₀ (by norm_num)]
  push_cast
  ring

theorem value_lt_high (x : Binary) : x.value < x.high := by
  rw [value_eq_quarters, high]
  exact mul_lt_mul_of_pos_right (Nat.cast_lt.mpr (by omega)) (two_zpow_pos _)

theorem low_lt_value (nonzero : x.mantissa ≠ 0) : x.low < x.value := by
  rw [value_eq_quarters, low]
  refine mul_lt_mul_of_pos_right (Nat.cast_lt.mpr ?_) (two_zpow_pos _)
  split <;> omega

/-- A float lies in its own interval; zero is the lower end of its one. -/
theorem covers_value (x : Binary) : x.Covers x.value := by
  refine ⟨?_, .inl x.value_lt_high⟩
  by_cases zero : x.mantissa = 0
  · exact .inr ⟨by omega, by simp [low, value, zero]⟩
  · exact .inl (low_lt_value zero)

theorem readsBack_of_value_eq (same : d.value = x.value) : x.readsBack d = true :=
  readsBack_iff.mpr (same ▸ x.covers_value)

/-! ## Candidates for the shortest decimal -/

theorem value_exact (x : Binary) : x.exact.value = x.value := by
  unfold exact
  split
  · rename_i whole
    rw [Numeral.value, value, zpow_zero, mul_one]
    change ((x.mantissa * 2 ^ x.exponent.toNat : Nat) : ℚ) = _
    rw [Nat.cast_mul, Nat.cast_pow, ← zpow_natCast, Int.toNat_of_nonneg whole]
    rfl
  · rename_i fractional
    rw [Numeral.value, value]
    change ((x.mantissa * 5 ^ (-x.exponent).toNat : Nat) : ℚ) * 10 ^ x.exponent = _
    have negated : ((-x.exponent).toNat : Int) = -x.exponent := Int.toNat_of_nonneg (by omega)
    rw [Nat.cast_mul, Nat.cast_pow, ← zpow_natCast, negated, mul_assoc, Nat.cast_ofNat,
      show (10 : ℚ) = 5 * 2 by norm_num, mul_zpow, ← mul_assoc (5 ^ _), ← zpow_add₀ (by norm_num),
      neg_add_cancel, zpow_zero, one_mul]

/-- What is found on a grid reads back and lies on the grid. -/
theorem onGrid?_eq_some {tie : Tie} {g : Int} (found : x.onGrid? tie g = some d) :
    x.readsBack d = true ∧ d.exponent = g := by
  unfold onGrid? at found
  dsimp only at found
  split at found
  · rename_i low high
    split at found
    · exact Option.some.inj found ▸ ⟨low, rfl⟩
    · exact Option.some.inj found ▸ ⟨high, rfl⟩
    · split at found
      · exact Option.some.inj found ▸ ⟨low, rfl⟩
      · exact Option.some.inj found ▸ ⟨high, rfl⟩
  · rename_i low _
    exact Option.some.inj found ▸ ⟨low, rfl⟩
  · rename_i _ high
    exact Option.some.inj found ▸ ⟨high, rfl⟩
  · cases found

end Binary

theorem value_dropZeros (fuel : Nat) (d : Numeral) : (dropZeros fuel d).value = d.value := by
  induction fuel generalizing d with
  | zero => rfl
  | succ fuel inductionHypothesis =>
      unfold dropZeros
      split
      · rename_i zeros
        have last : d.digits % 10 = 0 := by simp at zeros; exact zeros.2
        have digits : (d.digits : ℚ) = ((d.digits / 10 : Nat) : ℚ) * 10 := by
          exact_mod_cast (Nat.div_mul_cancel (Nat.dvd_of_mod_eq_zero last)).symm
        rw [inductionHypothesis, Numeral.value, Numeral.value, zpow_add_one₀ (by norm_num), digits]
        ring
      · rfl

theorem le_exponent_dropZeros (fuel : Nat) (d : Numeral) :
    d.exponent ≤ (dropZeros fuel d).exponent := by
  induction fuel generalizing d with
  | zero => exact le_rfl
  | succ fuel inductionHypothesis =>
      unfold dropZeros
      split
      · exact (by omega : d.exponent ≤ d.exponent + 1).trans (inductionHypothesis _)
      · exact le_rfl

namespace Binary

variable {x : Binary}

/-- The shortest decimal reads back. -/
theorem readsBack_shortest (x : Binary) (tie : Tie) : x.readsBack (x.shortest tie) = true := by
  unfold shortest
  split
  · rename_i zero
    refine readsBack_of_value_eq ?_
    simp [Numeral.value, value, beq_iff_eq.mp zero]
  · dsimp only
    rw [readsBack_iff, value_dropZeros, ← readsBack_iff]
    cases found : (List.range 17).findSome? fun (i : Nat) => x.onGrid? tie (x.scale - ((i : Int) + 1)) with
    | none => exact readsBack_of_value_eq x.value_exact
    | some d =>
        obtain ⟨i, -, onGrid⟩ := List.exists_of_findSome?_eq_some found
        exact (onGrid?_eq_some onGrid).1

/-- The shortest decimal of a float has not many more places than the float itself. -/
theorem le_exponent_shortest {tie : Tie} (smallest : -1074 ≤ x.exponent) :
    -1100 ≤ (x.shortest tie).exponent := by
  have scale : -330 ≤ x.scale := by
    unfold scale
    dsimp only
    omega
  unfold shortest
  split
  · decide
  · dsimp only
    refine le_trans ?_ (le_exponent_dropZeros _ _)
    cases found : (List.range 17).findSome? fun (i : Nat) => x.onGrid? tie (x.scale - ((i : Int) + 1)) with
    | none =>
        rw [Option.getD_none, exact]
        split
        · change (-1100 : Int) ≤ 0
          decide
        · dsimp only
          omega
    | some d =>
        obtain ⟨i, bound, onGrid⟩ := List.exists_of_findSome?_eq_some found
        have small := List.mem_range.mp bound
        rw [Option.getD_some, (onGrid?_eq_some onGrid).2]
        omega

/-! ## Whole numbers -/

theorem value_of_isWhole (whole : x.isWhole = true) : x.value = x.truncated := by
  have divides : x.fraction.2 ∣ x.fraction.1 := Nat.dvd_of_mod_eq_zero (beq_iff_eq.mp whole)
  rw [← fraction_div, truncated, Nat.cast_div divides]
  exact_mod_cast x.fraction_snd_pos.ne'

/-- With one place a whole number is written exactly. -/
theorem fixed_one_of_isWhole (whole : x.isWhole = true) :
    x.fixed 1 = Numeral.plain ⟨x.truncated * 10, -1⟩ := by
  have exactly : x.fraction.1 % x.fraction.2 = 0 := beq_iff_eq.mp whole
  have rounded : roundDiv (x.fraction.1 * 10 ^ 1) x.fraction.2 = x.truncated * 10 := by
    obtain ⟨n, multiple⟩ := Nat.dvd_of_mod_eq_zero exactly
    have positive := x.fraction_snd_pos
    rw [roundDiv, truncated, multiple, Nat.mul_assoc, Nat.mul_mod_right, Nat.mul_div_cancel_left _ positive,
      Nat.mul_div_cancel_left _ positive, Nat.mul_zero, Nat.compare_eq_lt.mpr positive, Nat.pow_one]
  unfold fixed
  dsimp only
  rw [show Nat.pow 10 1 = 10 ^ 1 from rfl, rounded]
  rfl

theorem readsBack_truncated (whole : x.isWhole = true) :
    x.readsBack ⟨x.truncated * 10, -1⟩ = true := by
  refine readsBack_of_value_eq ?_
  rw [value_of_isWhole whole, Numeral.value]
  push_cast
  norm_num
  ring

end Binary

end SampleLibrary.Decimal
