import SampleLibrary.Decimal.Reading
import SampleLibrary.Proofs.Decimal.Values

/-!
# The nearest float

A number in the interval of a float is rounded to that float. So a decimal that reads back is read as the
float again.
-/

namespace SampleLibrary.Decimal

/-! ## Rounding to whole numbers -/

/-- The number rounds to the whole number; a tie does so if the whole number is even. -/
structure RoundsTo (q : ℚ) (n : Nat) : Prop where
  above : (n : ℚ) - 1 / 2 < q ∨ n % 2 = 0 ∧ q = n - 1 / 2
  below : q < n + 1 / 2 ∨ n % 2 = 0 ∧ q = n + 1 / 2

theorem RoundsTo.eq_zero {n : Nat} (rounds : RoundsTo 0 n) : n = 0 := by
  by_contra nonzero
  have least : (1 : ℚ) ≤ n := by exact_mod_cast Nat.one_le_iff_ne_zero.mpr nonzero
  rcases rounds.above with less | ⟨-, equal⟩
  · linarith
  · linarith

/-- Rounding a fraction, with the ends of the interval in whole numbers. -/
theorem roundDiv_eq_of_bounds {num den n : Nat} (positive : 0 < den)
    (above : 2 * n * den < 2 * num + den ∨ n % 2 = 0 ∧ 2 * num + den = 2 * n * den)
    (below : 2 * num < 2 * n * den + den ∨ n % 2 = 0 ∧ 2 * num = 2 * n * den + den) :
    roundDiv num den = n := by
  have parts := Nat.div_add_mod num den
  have rest := Nat.mod_lt num positive
  unfold roundDiv
  dsimp only
  generalize num / den = q at *
  generalize num % den = r at *
  have twice : 2 * n * den = 2 * (n * den) := Nat.mul_assoc ..
  -- the products of `den` are all that is not linear
  have upper : n ≤ q + 1 := by
    by_contra tooLarge
    have product : (q + 2) * den ≤ n * den := Nat.mul_le_mul_right den (by omega)
    have : (q + 2) * den = den * q + 2 * den := by ring
    omega
  have lower : q ≤ n := by
    by_contra tooSmall
    have product : den * (n + 1) ≤ den * q := Nat.mul_le_mul_left den (by omega)
    have : den * (n + 1) = n * den + den := by ring
    omega
  obtain rfl | rfl : n = q ∨ n = q + 1 := by omega
  · have : n * den = den * n := Nat.mul_comm ..
    split
    · rfl
    · rename_i larger
      rw [Nat.compare_eq_gt] at larger
      omega
    · rename_i tie
      rw [Nat.compare_eq_eq] at tie
      rw [if_pos (by rw [beq_iff_eq]; omega)]
  · have : (q + 1) * den = den * q + den := by ring
    split
    · rename_i smaller
      rw [Nat.compare_eq_lt] at smaller
      omega
    · rfl
    · rename_i tie
      rw [Nat.compare_eq_eq] at tie
      rw [if_neg (by rw [beq_iff_eq]; omega)]

theorem roundDiv_eq {num den n : Nat} (positive : 0 < den) (rounds : RoundsTo (num / den) n) :
    roundDiv num den = n := by
  have denominator : (0 : ℚ) < den := Nat.cast_pos.mpr positive
  obtain ⟨above, below⟩ := rounds
  rw [lt_div_iff₀ denominator, div_eq_iff denominator.ne'] at above
  rw [div_lt_iff₀ denominator, div_eq_iff denominator.ne'] at below
  apply roundDiv_eq_of_bounds positive
  · rcases above with less | ⟨even, equal⟩
    · exact .inl (by exact_mod_cast (by linarith : (2 * n * den : ℚ) < 2 * num + den))
    · exact .inr ⟨even, by exact_mod_cast (by linarith : (2 * num + den : ℚ) = 2 * n * den)⟩
  · rcases below with less | ⟨even, equal⟩
    · exact .inl (by exact_mod_cast (by linarith : (2 * num : ℚ) < 2 * n * den + den))
    · exact .inr ⟨even, by exact_mod_cast (by linarith : (2 * num : ℚ) = 2 * n * den + den)⟩

/-! ## The binary logarithm -/

theorem log2Floor_bounds {num den : Nat} (above : 0 < num) (below : 0 < den) :
    (2 : ℚ) ^ log2Floor num den ≤ num / den ∧ (num / den : ℚ) < 2 ^ (log2Floor num den + 1) := by
  have denominator : (0 : ℚ) < den := Nat.cast_pos.mpr below
  have least : (2 : ℚ) ^ ((num.log2 : Int) - den.log2 - 1) ≤ num / den := by
    rw [le_div_iff₀ denominator]
    calc (2 : ℚ) ^ ((num.log2 : Int) - den.log2 - 1) * den
        ≤ 2 ^ ((num.log2 : Int) - den.log2 - 1) * 2 ^ ((den.log2 : Int) + 1) :=
          mul_le_mul_of_nonneg_left (by exact_mod_cast Nat.lt_log2_self.le) (two_zpow_pos _).le
      _ = 2 ^ (num.log2 : Int) := by
          rw [← zpow_add₀ (by norm_num)]
          congr 1
          omega
      _ ≤ num := by exact_mod_cast Nat.log2_self_le above.ne'
  have greatest : (num / den : ℚ) < 2 ^ ((num.log2 : Int) - den.log2 + 1) := by
    rw [div_lt_iff₀ denominator]
    calc (num : ℚ) < 2 ^ ((num.log2 : Int) + 1) := by exact_mod_cast Nat.lt_log2_self
      _ = 2 ^ ((num.log2 : Int) - den.log2 + 1) * 2 ^ (den.log2 : Int) := by
          rw [← zpow_add₀ (by norm_num)]
          congr 1
          omega
      _ ≤ 2 ^ ((num.log2 : Int) - den.log2 + 1) * den :=
          mul_le_mul_of_nonneg_left (by exact_mod_cast Nat.log2_self_le below.ne') (two_zpow_pos _).le
  have compared (k : Int) :
      num * (power 2 k).2 < den * (power 2 k).1 ↔ (num / den : ℚ) < 2 ^ k := by
    rw [show (2 : ℚ) = ((2 : Nat) : ℚ) from rfl, ← power_div 2 (by decide),
      div_lt_div_iff₀ denominator (Nat.cast_pos.mpr (power_snd_pos (by decide) k)),
      mul_comm ((power 2 k).1 : ℚ)]
    exact_mod_cast Iff.rfl
  unfold log2Floor
  dsimp only
  split
  · rename_i less
    rw [compared] at less
    exact ⟨least, by rwa [Int.sub_add_cancel]⟩
  · rename_i notLess
    rw [compared, not_lt] at notLess
    exact ⟨notLess, greatest⟩

theorem two_zpow_lt_two_zpow {a b : Int} : (2 : ℚ) ^ a < 2 ^ b ↔ a < b :=
  zpow_lt_zpow_iff_right₀ (by norm_num)

theorem two_zpow_sub_one (e : Int) : (2 : ℚ) ^ e = 2 * 2 ^ (e - 1) := by
  rw [zpow_sub₀ (by norm_num)]
  ring

/-! ## Ranks -/

/-- The rank of a number is read off the run that it lies in, and what it rounds to there. -/
theorem nearestRank_eq {num den n : Nat} {e : Int} (below : 0 < den) (smallest : -1074 ≤ e)
    (fits : (num / den : ℚ) < 2 ^ (e + 53))
    (tight : (2 : ℚ) ^ (e + 52) ≤ num / den ∨ e = -1074)
    (rounds : RoundsTo (num / den / 2 ^ e) n) :
    (nearestRank num den : Int) = (e + 1074) * 2 ^ 52 + n := by
  unfold nearestRank
  split
  · rename_i zero
    rw [beq_iff_eq.mp zero, Nat.cast_zero, zero_div] at rounds tight
    rw [zero_div] at rounds
    have least := tight.resolve_left (two_zpow_pos _).not_ge
    rw [rounds.eq_zero, least]
    rfl
  · rename_i nonzero
    have positive : 0 < num := Nat.pos_of_ne_zero fun zero => nonzero (beq_iff_eq.mpr zero)
    obtain ⟨least, greatest⟩ := log2Floor_bounds positive below
    have upper : log2Floor num den < e + 53 :=
      two_zpow_lt_two_zpow.mp (least.trans_lt fits)
    have run : max (log2Floor num den - 52) (-1074) = e := by
      rcases tight with large | rfl
      · have lower : e + 52 < log2Floor num den + 1 :=
          two_zpow_lt_two_zpow.mp (large.trans_lt greatest)
        omega
      · omega
    dsimp only
    rw [run, roundDiv_eq (n := n)]
    · push_cast
      rw [Int.toNat_of_nonneg (by omega)]
      rfl
    · exact Nat.mul_pos below (power_fst_pos (by decide) e)
    · have scaled : ((num * (power 2 e).2 : Nat) : ℚ) / (den * (power 2 e).1 : Nat) =
          num / den / 2 ^ e := by
        rw [show (2 : ℚ) = ((2 : Nat) : ℚ) from rfl, ← power_div 2 (by decide)]
        push_cast
        field_simp
      rwa [scaled]

/-- A float in its run: all runs but the first two begin with a mantissa that is narrow below. -/
structure Binary.OfRank (rank : Nat) (x : Binary) : Prop where
  smallest : -1074 ≤ x.exponent
  fits : x.mantissa < 2 ^ 53
  narrow : x.narrowBelow = true → x.mantissa = 2 ^ 52 ∧ -1074 < x.exponent
  tight : x.narrowBelow = false → 2 ^ 52 < x.mantissa ∨ x.exponent = -1074
  rank : (rank : Int) = (x.exponent + 1074) * 2 ^ 52 + x.mantissa

theorem Binary.ofRank_spec (rank : Nat) : OfRank rank (ofRank rank) := by
  have parts := Nat.div_add_mod rank runLength
  have rest : rank % runLength < runLength := Nat.mod_lt _ (by decide)
  unfold ofRank
  dsimp only
  generalize rank / runLength = run at *
  generalize rank % runLength = place at *
  rw [show runLength = 2 ^ 52 from rfl] at *
  split
  · rename_i first
    rw [beq_iff_eq] at first
    exact ⟨le_rfl, by dsimp only; omega, nofun, fun _ => .inr rfl, by dsimp only; omega⟩
  · rename_i later
    rw [beq_iff_eq] at later
    refine ⟨?_, ?_, ?_, ?_, ?_⟩ <;>
      dsimp only [Bool.and_eq_true, Bool.and_eq_false_iff, beq_iff_eq, beq_eq_false_iff_ne] <;>
      grind

namespace Binary

variable {x : Binary} {q : ℚ} {rank : Nat}

theorem low_of_narrow (narrow : x.narrowBelow = true) (nonzero : x.mantissa ≠ 0) :
    x.low = (x.mantissa - 1 / 4) * 2 ^ x.exponent := by
  rw [low, if_pos narrow, Nat.cast_sub (by omega), zpow_sub₀ (by norm_num)]
  push_cast
  ring

theorem low_of_wide (wide : x.narrowBelow = false) (nonzero : x.mantissa ≠ 0) :
    x.low = (x.mantissa - 1 / 2) * 2 ^ x.exponent := by
  rw [low, if_neg (by simp [wide]), Nat.cast_sub (by omega), zpow_sub₀ (by norm_num)]
  push_cast
  ring

theorem high_eq (x : Binary) : x.high = (x.mantissa + 1 / 2) * 2 ^ x.exponent := by
  rw [high, zpow_sub₀ (by norm_num)]
  push_cast
  ring

theorem low_nonneg (x : Binary) : 0 ≤ x.low :=
  mul_nonneg (Nat.cast_nonneg _) (two_zpow_pos _).le

theorem Covers.le_high (covers : x.Covers q) : q ≤ x.high := by
  rcases covers.below with less | ⟨-, equal⟩
  · exact less.le
  · exact equal.le

theorem Covers.low_le (covers : x.Covers q) : x.low ≤ q := by
  rcases covers.above with less | ⟨-, equal⟩
  · exact less.le
  · exact equal.ge

theorem Covers.nonneg (covers : x.Covers q) : 0 ≤ q := x.low_nonneg.trans covers.low_le

/-- The interval of a float ends where the next run begins. -/
theorem Covers.lt_zpow (covers : x.Covers q) (fits : x.mantissa < 2 ^ 53) :
    q < 2 ^ (x.exponent + 53) := by
  have mantissa : (x.mantissa : ℚ) + 1 ≤ 2 ^ (53 : Nat) := by exact_mod_cast fits
  calc q ≤ (x.mantissa + 1 / 2) * 2 ^ x.exponent := x.high_eq ▸ covers.le_high
    _ < 2 ^ (53 : Nat) * 2 ^ x.exponent :=
        mul_lt_mul_of_pos_right (by linarith) (two_zpow_pos _)
    _ = 2 ^ (x.exponent + 53) := by
        rw [zpow_add₀ (by norm_num), mul_comm]
        rfl

/-- A number in the interval of a float, in units of the last place of the float. -/
theorem Covers.roundsTo (covers : x.Covers q) : RoundsTo (q / 2 ^ x.exponent) x.mantissa := by
  have positive := two_zpow_pos x.exponent
  refine ⟨?_, ?_⟩
  · rw [lt_div_iff₀ positive, div_eq_iff positive.ne']
    by_cases zero : x.mantissa = 0
    · refine .inl (lt_of_lt_of_le (mul_neg_of_neg_of_pos ?_ positive) covers.nonneg)
      rw [zero]
      norm_num
    · cases narrow : x.narrowBelow with
      | false => exact low_of_wide narrow zero ▸ covers.above
      | true =>
          have low := covers.low_le
          rw [low_of_narrow narrow zero] at low
          exact .inl (lt_of_lt_of_le (mul_lt_mul_of_pos_right (by linarith) positive) low)
  · rw [div_lt_iff₀ positive, div_eq_iff positive.ne', ← high_eq]
    exact covers.below

/-- Below a narrow float, its interval lies in the run before. -/
theorem Covers.roundsTo_before (covers : x.Covers q) (narrow : x.narrowBelow = true)
    (first : x.mantissa = 2 ^ 52) (before : q < 2 ^ (x.exponent + 52)) :
    RoundsTo (q / 2 ^ (x.exponent - 1)) (2 ^ 53) := by
  have positive := two_zpow_pos (x.exponent - 1)
  have low := covers.low_le
  rw [low_of_narrow narrow (by omega), first, two_zpow_sub_one x.exponent] at low
  refine ⟨?_, .inl ?_⟩
  · rw [lt_div_iff₀ positive, div_eq_iff positive.ne']
    have least : ((2 ^ 53 : Nat) - 1 / 2 : ℚ) * 2 ^ (x.exponent - 1) ≤ q :=
      le_trans (le_of_eq (by push_cast; ring)) low
    exact (lt_or_eq_of_le least).imp id fun equal => ⟨by decide, equal.symm⟩
  · rw [div_lt_iff₀ positive]
    refine lt_of_lt_of_le before ?_
    rw [zpow_add₀ (by norm_num), two_zpow_sub_one x.exponent]
    push_cast
    linarith

/-- Every number in the interval of a float rounds to that float. -/
theorem Covers.nearestRank_eq {num den : Nat} (ofRank : OfRank rank x) (below : 0 < den)
    (covers : x.Covers (num / den)) : nearestRank num den = rank := by
  have counted := ofRank.rank
  have inRun (tight : (2 : ℚ) ^ (x.exponent + 52) ≤ num / den ∨ x.exponent = -1074) :
      nearestRank num den = rank := by
    have found := Decimal.nearestRank_eq below ofRank.smallest (covers.lt_zpow ofRank.fits) tight
      covers.roundsTo
    omega
  cases narrow : x.narrowBelow with
  | false =>
      refine inRun ((ofRank.tight narrow).imp (fun large => ?_) id)
      have low := covers.low_le
      rw [low_of_wide narrow (by omega)] at low
      have mantissa : (2 ^ 52 : ℚ) + 1 ≤ x.mantissa := by exact_mod_cast large
      have positive := two_zpow_pos x.exponent
      refine le_trans ?_ low
      rw [zpow_add₀ (by norm_num), mul_comm]
      exact mul_le_mul_of_nonneg_right (by linarith) positive.le
  | true =>
      obtain ⟨first, later⟩ := ofRank.narrow narrow
      by_cases above : (2 : ℚ) ^ (x.exponent + 52) ≤ num / den
      · exact inRun (.inl above)
      · have before := not_le.mp above
        have positive := two_zpow_pos (x.exponent - 1)
        have large : (2 : ℚ) ^ (x.exponent - 1 + 52) ≤ num / den := by
          refine le_trans ?_ (low_of_narrow narrow (by omega) ▸ covers.low_le)
          rw [first, two_zpow_sub_one x.exponent, zpow_add₀ (by norm_num)]
          push_cast
          linarith
        have found := Decimal.nearestRank_eq below (by omega)
          (by rwa [show x.exponent - 1 + 53 = x.exponent + 52 by omega]) (.inl large)
          (covers.roundsTo_before narrow first before)
        omega

theorem OfRank.exponent_lt (ofRank : OfRank rank x) (finite : rank < infiniteRank) :
    x.exponent + 53 ≤ 1024 := by
  have counted := ofRank.rank
  rw [show infiniteRank = 2047 * 2 ^ 52 from rfl] at finite
  cases narrow : x.narrowBelow with
  | false => rcases ofRank.tight narrow with large | first <;> omega
  | true =>
      have := ofRank.narrow narrow
      omega

/-- The interval of a float that is not zero has no numbers near zero. -/
theorem Covers.zpow_le (covers : x.Covers q) (ofRank : OfRank rank x) (nonzero : rank ≠ 0) :
    (2 : ℚ) ^ (-(1075 : Nat) : Int) ≤ q := by
  have counted := ofRank.rank
  have smallest := ofRank.smallest
  have least : 1 ≤ x.mantissa := by
    cases narrow : x.narrowBelow with
    | false => rcases ofRank.tight narrow with large | first <;> omega
    | true =>
        have := ofRank.narrow narrow
        omega
  have low : x.low ≥ (x.mantissa - 1 / 2) * 2 ^ x.exponent := by
    cases narrow : x.narrowBelow with
    | false => exact (low_of_wide narrow (by omega)).ge
    | true =>
        rw [low_of_narrow narrow (by omega)]
        exact mul_le_mul_of_nonneg_right (by linarith) (two_zpow_pos _).le
  have mantissa : (1 : ℚ) ≤ x.mantissa := by exact_mod_cast least
  calc (2 : ℚ) ^ (-(1075 : Nat) : Int) ≤ 2 ^ (x.exponent - 1) :=
        zpow_le_zpow_right₀ (by norm_num) (by omega)
    _ = (1 - 1 / 2) * 2 ^ x.exponent := by
        rw [two_zpow_sub_one x.exponent]
        ring
    _ ≤ (x.mantissa - 1 / 2) * 2 ^ x.exponent :=
        mul_le_mul_of_nonneg_right (by linarith) (two_zpow_pos _).le
    _ ≤ q := low.trans covers.low_le

end Binary

/-! ## Decimals -/

theorem ten_pow_le_two_pow (p : Nat) : 10 ^ p ≤ 2 ^ (10 * (p / 3 + 1)) := by
  calc 10 ^ p ≤ 10 ^ (3 * (p / 3 + 1)) := Nat.pow_le_pow_right (by decide) (by omega)
    _ = (10 ^ 3) ^ (p / 3 + 1) := Nat.pow_mul ..
    _ ≤ (2 ^ 10) ^ (p / 3 + 1) := Nat.pow_le_pow_left (by decide) _
    _ = 2 ^ (10 * (p / 3 + 1)) := (Nat.pow_mul ..).symm

theorem two_pow_le_ten_pow (p : Nat) : 2 ^ (33 * (p / 10)) ≤ 10 ^ p := by
  calc 2 ^ (33 * (p / 10)) = (2 ^ 33) ^ (p / 10) := Nat.pow_mul ..
    _ ≤ (10 ^ 10) ^ (p / 10) := Nat.pow_le_pow_left (by decide) _
    _ = 10 ^ (10 * (p / 10)) := (Nat.pow_mul ..).symm
    _ ≤ 10 ^ p := Nat.pow_le_pow_right (by decide) (by omega)

section Lead

variable {d : Numeral} {p : Nat}

theorem Numeral.value_of_whole (whole : d.exponent = p) : d.value = ((d.digits * 10 ^ p : Nat) : ℚ) := by
  rw [value, whole]
  push_cast
  rfl

theorem Numeral.value_mul_of_places (places : d.exponent = -p) : d.value * 10 ^ p = d.digits := by
  rw [value, places, zpow_neg, zpow_natCast, inv_mul_cancel_right₀ (by positivity)]

/-- A decimal in the range of floats does not have too many digits before its point. -/
theorem lead_le {top : Nat} (range : top ≤ 1024) (nonzero : d.digits ≠ 0)
    (places : -1100 ≤ d.exponent) (small : d.value < 2 ^ (top : Int)) :
    d.exponent + (d.digits.log2 : Int) * 30103 / 100000 ≤ 400 := by
  have digits := Nat.log2_self_le nonzero
  by_cases whole : 0 ≤ d.exponent
  · obtain ⟨p, exponent⟩ := Int.eq_ofNat_of_zero_le whole
    have bits : 2 ^ (d.digits.log2 + 33 * (p / 10)) < 2 ^ top := by
      calc 2 ^ (d.digits.log2 + 33 * (p / 10)) = 2 ^ d.digits.log2 * 2 ^ (33 * (p / 10)) :=
            Nat.pow_add ..
        _ ≤ d.digits * 10 ^ p := Nat.mul_le_mul digits (two_pow_le_ten_pow p)
        _ < 2 ^ top := by exact_mod_cast Numeral.value_of_whole exponent ▸ small
    rw [Nat.pow_lt_pow_iff_right (by decide)] at bits
    omega
  · obtain ⟨p, exponent⟩ : ∃ p : Nat, d.exponent = -p := ⟨(-d.exponent).toNat, by omega⟩
    have bits : 2 ^ d.digits.log2 < 2 ^ (top + 10 * (p / 3 + 1)) := by
      have bound : (d.digits : ℚ) < (2 : ℚ) ^ (top : Int) * 10 ^ p := by
        rw [← Numeral.value_mul_of_places exponent]
        exact mul_lt_mul_of_pos_right small (by positivity)
      calc 2 ^ d.digits.log2 ≤ d.digits := digits
        _ < 2 ^ top * 10 ^ p := by exact_mod_cast bound
        _ ≤ 2 ^ top * 2 ^ (10 * (p / 3 + 1)) := Nat.mul_le_mul_left _ (ten_pow_le_two_pow p)
        _ = 2 ^ (top + 10 * (p / 3 + 1)) := (Nat.pow_add ..).symm
    rw [Nat.pow_lt_pow_iff_right (by decide)] at bits
    omega

/-- Nor does one that is not next to zero have too many zeros after its point. -/
theorem le_lead {bottom : Nat} (range : bottom ≤ 1075) (places : -1100 ≤ d.exponent)
    (large : (2 : ℚ) ^ (-bottom : Int) ≤ d.value) :
    -400 ≤ d.exponent + (d.digits.log2 : Int) * 30103 / 100000 := by
  by_cases whole : 0 ≤ d.exponent
  · omega
  · obtain ⟨p, exponent⟩ : ∃ p : Nat, d.exponent = -p := ⟨(-d.exponent).toNat, by omega⟩
    have bits : 2 ^ (33 * (p / 10)) < 2 ^ (d.digits.log2 + 1 + bottom) := by
      have bound : (10 : ℚ) ^ p ≤ d.digits * 2 ^ bottom := by
        rw [← Numeral.value_mul_of_places exponent]
        rw [zpow_neg, inv_le_iff_one_le_mul₀ (two_zpow_pos _), zpow_natCast] at large
        calc (10 : ℚ) ^ p = 1 * 10 ^ p := (one_mul _).symm
          _ ≤ d.value * 2 ^ bottom * 10 ^ p := mul_le_mul_of_nonneg_right large (by positivity)
          _ = d.value * 10 ^ p * 2 ^ bottom := mul_right_comm ..
      calc 2 ^ (33 * (p / 10)) ≤ 10 ^ p := two_pow_le_ten_pow p
        _ ≤ d.digits * 2 ^ bottom := by exact_mod_cast bound
        _ < 2 ^ (d.digits.log2 + 1) * 2 ^ bottom :=
            Nat.mul_lt_mul_of_pos_right Nat.lt_log2_self (Nat.pow_pos (by decide))
        _ = 2 ^ (d.digits.log2 + 1 + bottom) := (Nat.pow_add ..).symm
    rw [Nat.pow_lt_pow_iff_right (by decide)] at bits
    omega

end Lead

/-- A decimal that reads back as a float is read as that float. -/
theorem nearest_of_readsBack {rank : Nat} {d : Numeral} (negative : Bool) (finite : rank < infiniteRank)
    (readsBack : (Binary.ofRank rank).readsBack d = true) (places : -1100 ≤ d.exponent) :
    nearest negative d.digits d.exponent = .ofRank negative rank := by
  have covers := Binary.readsBack_iff.mp readsBack
  have ofRank := Binary.ofRank_spec rank
  have small : d.value < 2 ^ ((1024 : Nat) : Int) :=
    lt_of_lt_of_le (covers.lt_zpow ofRank.fits)
      (zpow_le_zpow_right₀ (by norm_num) (ofRank.exponent_lt finite))
  have fraction : ((d.digits * (power 10 d.exponent).1 : Nat) : ℚ) / (power 10 d.exponent).2 =
      d.value := by
    rw [Nat.cast_mul, mul_div_assoc, power_div 10 (by decide)]
    rfl
  have found : nearestRank (d.digits * (power 10 d.exponent).1) (power 10 d.exponent).2 = rank :=
    Binary.Covers.nearestRank_eq ofRank (power_snd_pos (by decide) _) (fraction ▸ covers)
  unfold nearest
  split
  · rename_i zero
    rw [beq_iff_eq.mp zero, Nat.zero_mul] at found
    rw [← found]
    rfl
  · rename_i nonzero
    dsimp only
    rw [if_neg (not_lt.mpr (lead_le le_rfl (fun zero => nonzero (beq_iff_eq.mpr zero)) places small))]
    split
    · rename_i tiny
      have zero : rank = 0 := by
        by_contra nonzero
        exact absurd tiny (not_lt.mpr (le_lead le_rfl places (covers.zpow_le ofRank nonzero)))
      rw [zero]
    · rw [Binary64.ofFraction, found]

end SampleLibrary.Decimal
