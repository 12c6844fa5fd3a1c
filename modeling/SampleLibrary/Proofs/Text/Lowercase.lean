import SampleLibrary.Text.Case
import SampleLibrary.Text.Split
import Mathlib.Data.List.Basic

/-!
# Lower case is final

What a letter becomes in lower case has no other lower case: no run of letters leads into a run. So
lower-casing a text twice is lower-casing it once. Blanks neither come nor go, which is why a trimmed text
is still trimmed when it is in lower case.
-/

namespace SampleLibrary.Text

/-! ## One letter -/

/-- Does no letter that the first run leads to stand in the second one? Either one range is above the
other, or both go in steps of two and never meet. -/
def CaseRun.avoids (r s : CaseRun) : Bool :=
  r.target + (r.last - r.first) < s.first || s.last < r.target
    || ((r.stride == 2 || r.first == r.last) && s.stride == 2 && r.target % 2 != s.first % 2)

/-- Are the letters that the run leads to characters, none of them a space or the letter that has a lower
case of two characters? -/
def CaseRun.isProper (r : CaseRun) : Bool :=
  0x20 < r.target && (r.target + (r.last - r.first) < 0x130 || 0x130 < r.target)
    && (r.target + (r.last - r.first) < 0xD800
      || (0xDFFF < r.target && r.target + (r.last - r.first) < 0x110000))

theorem lowerRuns_avoid : ∀ r ∈ lowerRuns, ∀ s ∈ lowerRuns, r.avoids s = true := by
  have checked : (lowerRuns.all fun r => lowerRuns.all fun s => r.avoids s) = true := by
    decide +kernel
  intro r isRun s alsoRun
  exact List.all_eq_true.mp (List.all_eq_true.mp checked r isRun) s alsoRun

theorem lowerRuns_proper : ∀ r ∈ lowerRuns, r.isProper = true :=
  List.all_eq_true.mp (by decide +kernel)

/-- No run leads to anything that comes before the small letters. -/
theorem lowerRuns_high : ∀ r ∈ lowerRuns, 0x61 ≤ r.target := by
  have checked : (lowerRuns.all fun r => decide (0x61 ≤ r.target)) = true := by decide +kernel
  exact fun r isRun => of_decide_eq_true (List.all_eq_true.mp checked r isRun)

theorem CaseRun.map?_eq_some {r : CaseRun} {n target : Nat} (mapped : r.map? n = some target) :
    r.first ≤ n ∧ n ≤ r.last ∧ (n - r.first) % r.stride = 0 ∧ target = r.target + (n - r.first) := by
  unfold map? at mapped
  split at mapped
  · rename_i inRun
    simp only [Bool.and_eq_true, decide_eq_true_eq, beq_iff_eq] at inRun
    cases mapped
    exact ⟨inRun.1.1, inRun.1.2, inRun.2, rfl⟩
  · cases mapped

theorem CaseRun.map?_of_avoids {r s : CaseRun} {n target : Nat} (apart : r.avoids s = true)
    (mapped : r.map? n = some target) : s.map? target = none := by
  rcases map?_eq_some mapped with ⟨low, high, onStep, rfl⟩
  cases again : s.map? (r.target + (n - r.first)) with
  | none => rfl
  | some other =>
      rcases map?_eq_some again with ⟨low', high', onStep', -⟩
      simp only [avoids, Bool.or_eq_true, Bool.and_eq_true, decide_eq_true_eq, beq_iff_eq,
        bne_iff_ne] at apart
      rcases apart with (below | above) | ⟨⟨steps, steps'⟩, parity⟩
      · omega
      · omega
      · rw [steps'] at onStep'
        rcases steps with steps | single
        · rw [steps] at onStep
          omega
        · omega

/-- The character is what it is in lower case, wherever it stands. -/
def IsLowered (c : Char) : Prop := c.toNat ≠ 0x130 ∧ ∀ r ∈ lowerRuns, r.map? c.toNat = none

instance (c : Char) : Decidable (IsLowered c) :=
  inferInstanceAs (Decidable (_ ∧ ∀ r ∈ lowerRuns, r.map? c.toNat = none))

/-- The characters that no run leads to: the two that one letter becomes, and the small sigmas. -/
theorem isLowered_of_special {c : Char}
    (special : c ∈ [Char.ofNat 0x69, Char.ofNat 0x307, Char.ofNat 0x3C2, Char.ofNat 0x3C3]) :
    IsLowered c ∧ 0x61 ≤ c.toNat := by
  have checked : ([Char.ofNat 0x69, Char.ofNat 0x307, Char.ofNat 0x3C2, Char.ofNat 0x3C3].all
      fun c => decide (IsLowered c ∧ 0x61 ≤ c.toNat)) = true := by decide +kernel
  exact of_decide_eq_true (List.all_eq_true.mp checked c special)

theorem isLowered_of_findSome? {c : Char} (notDotted : c.toNat ≠ 0x130)
    (unmapped : lowerRuns.findSome? (·.map? c.toNat) = none) : IsLowered c :=
  ⟨notDotted, fun r isRun => List.findSome?_eq_none_iff.mp unmapped r isRun⟩

theorem IsLowered.not_sigma {c : Char} (lowered : IsLowered c) : c.toNat ≠ 0x3A3 := by
  intro sigma
  have unmapped := lowered.2
  rw [sigma] at unmapped
  exact absurd (List.findSome?_eq_none_iff.mpr unmapped) (by decide +kernel)

theorem IsLowered.lowerChar {c : Char} (lowered : IsLowered c) : lowerChar c = [c] := by
  rcases lowered with ⟨notDotted, unmapped⟩
  have nothing : lowerRuns.findSome? (·.map? c.toNat) = none :=
    List.findSome?_eq_none_iff.mpr unmapped
  simp [Text.lowerChar, notDotted, nothing]

theorem toNat_ofNat_of_isProper {r : CaseRun} {n target : Nat} (proper : r.isProper = true)
    (mapped : r.map? n = some target) :
    (Char.ofNat target).toNat = target ∧ target ≠ 0x130 := by
  rcases CaseRun.map?_eq_some mapped with ⟨low, high, -, rfl⟩
  simp only [CaseRun.isProper, Bool.and_eq_true, Bool.or_eq_true, decide_eq_true_eq] at proper
  rcases proper with ⟨⟨printable, notDotted⟩, isCharacter⟩
  have valid : (r.target + (n - r.first)).isValidChar := by
    unfold Nat.isValidChar
    omega
  refine ⟨?_, by omega⟩
  rw [Char.ofNat, dif_pos valid]
  rfl

/-- What a letter becomes: it stays, or a run tells, or it is the one with a lower case of two
characters. Blanks, slashes and the like become nothing else, and nothing else becomes one. -/
theorem mem_lowerChar {c d : Char} (membership : d ∈ lowerChar c) :
    IsLowered d ∧ (d.toNat < 0x61 → c = d) := by
  unfold lowerChar at membership
  split at membership
  · have special := isLowered_of_special (c := d) (by
      simp only [List.mem_cons] at membership ⊢
      tauto)
    exact ⟨special.1, fun low => absurd special.2 (Nat.not_le.mpr low)⟩
  · rename_i notDotted
    split at membership
    · rename_i target found
      rw [List.mem_singleton] at membership
      subst membership
      rcases List.exists_of_findSome?_eq_some found with ⟨r, isRun, mapped⟩
      rcases toNat_ofNat_of_isProper (lowerRuns_proper r isRun) mapped with ⟨same, notDotted'⟩
      refine ⟨⟨by rw [same]; exact notDotted', fun s alsoRun => ?_⟩, fun low => ?_⟩
      · rw [same]
        exact CaseRun.map?_of_avoids (lowerRuns_avoid r isRun s alsoRun) mapped
      · rcases CaseRun.map?_eq_some mapped with ⟨-, -, -, reached⟩
        have high := lowerRuns_high r isRun
        rw [same, reached] at low
        omega
    · rename_i unmapped
      rw [List.mem_singleton] at membership
      subst membership
      exact ⟨isLowered_of_findSome? (by simpa using notDotted) unmapped, fun _ => rfl⟩

/-! ## Texts -/

/-- The characters that stand for one letter of a text. -/
def lowerAt (before : List Char) (c : Char) (rest : List Char) : List Char :=
  if c.toNat == 0x3A3 then
    if startsCased before && !startsCased rest then [Char.ofNat 0x3C2] else [Char.ofNat 0x3C3]
  else lowerChar c

theorem lowerFrom_cons (before : List Char) (c : Char) (rest : List Char) :
    lowerFrom before (c :: rest) = lowerAt before c rest ++ lowerFrom (c :: before) rest := rfl

theorem mem_lowerAt {before rest : List Char} {c d : Char} (membership : d ∈ lowerAt before c rest) :
    IsLowered d ∧ (d.toNat < 0x61 → c = d) := by
  unfold lowerAt at membership
  split at membership
  · have special := isLowered_of_special (c := d) (by
      split at membership <;> simp only [List.mem_cons] at membership ⊢ <;> tauto)
    exact ⟨special.1, fun low => absurd special.2 (Nat.not_le.mpr low)⟩
  · exact mem_lowerChar membership

theorem isLowered_of_mem_lowerFrom {before cs : List Char} {d : Char}
    (membership : d ∈ lowerFrom before cs) : IsLowered d := by
  induction cs generalizing before with
  | nil => exact absurd membership List.not_mem_nil
  | cons c rest inductionHypothesis =>
      rw [lowerFrom_cons] at membership
      rcases List.mem_append.mp membership with inFirst | inRest
      · exact (mem_lowerAt inFirst).1
      · exact inductionHypothesis inRest

/-- A text in lower case has no blanks, slashes and the like but those that it had before. -/
theorem mem_of_mem_lowerFrom {before cs : List Char} {d : Char}
    (membership : d ∈ lowerFrom before cs) (low : d.toNat < 0x61) : d ∈ cs := by
  induction cs generalizing before with
  | nil => exact absurd membership List.not_mem_nil
  | cons c rest inductionHypothesis =>
      rw [lowerFrom_cons] at membership
      rcases List.mem_append.mp membership with inFirst | inRest
      · exact (mem_lowerAt inFirst).2 low ▸ List.mem_cons_self
      · exact List.mem_cons_of_mem _ (inductionHypothesis inRest)

theorem lowerFrom_of_isLowered {before cs : List Char} (lowered : ∀ c ∈ cs, IsLowered c) :
    lowerFrom before cs = cs := by
  induction cs generalizing before with
  | nil => rfl
  | cons c rest inductionHypothesis =>
      have first := lowered c List.mem_cons_self
      rw [lowerFrom_cons, inductionHypothesis fun d inRest => lowered d (List.mem_cons_of_mem _ inRest),
        lowerAt, if_neg (by simpa using first.not_sigma), first.lowerChar]
      rfl

/-- Lower case is in lower case. -/
theorem lowercase_lowercase (s : String) : lowercase (lowercase s) = lowercase s := by
  unfold lowercase
  rw [String.toList_ofList, lowerFrom_of_isLowered fun c => isLowered_of_mem_lowerFrom]

theorem lowerAt_ne_nil (before : List Char) (c : Char) (rest : List Char) :
    lowerAt before c rest ≠ [] := by
  unfold lowerAt lowerChar
  split
  · split <;> simp
  · split
    · simp
    · split <;> simp

/-- A text in lower case ends in a space only if it did so before. -/
theorem getLast?_lowerFrom {before cs : List Char} (space : (lowerFrom before cs).getLast? = some ' ') :
    cs.getLast? = some ' ' := by
  induction cs generalizing before with
  | nil => cases space
  | cons c rest inductionHypothesis =>
      rw [lowerFrom_cons, List.getLast?_append] at space
      cases rest with
      | nil =>
          have last : (lowerAt before c []).getLast? = some ' ' := by simpa [lowerFrom] using space
          rw [(mem_lowerAt (List.mem_of_getLast? last)).2 (by decide)]
          rfl
      | cons d rest =>
          rw [List.getLast?_cons_cons]
          have some? : (lowerFrom (c :: before) (d :: rest)).getLast?.isSome = true := by
            rw [lowerFrom_cons]
            simp [lowerAt_ne_nil]
          rcases Option.isSome_iff_exists.mp some? with ⟨last, isLast⟩
          rw [isLast, Option.some_or] at space
          exact inductionHypothesis (isLast.trans space)

/-! ## Trimming -/

theorem trimLeft_of_head? {cs : List Char} (sharp : ∀ c, cs.head? = some c → isBlank c = false) :
    trimLeft cs = cs := by
  cases cs with
  | nil => rfl
  | cons c rest => simp [trimLeft, sharp c rfl]

theorem isBlank_of_head?_trimLeft {cs : List Char} {c : Char}
    (first : (trimLeft cs).head? = some c) : isBlank c = false := by
  have sharp := List.head?_dropWhile_not isBlank cs
  unfold trimLeft at first
  rw [first] at sharp
  simpa using sharp

/-- A text is trimmed if neither its first nor its last character is blank. -/
theorem trim_of_sharp {cs : List Char} (front : ∀ c, cs.head? = some c → isBlank c = false)
    (back : ∀ c, cs.getLast? = some c → isBlank c = false) : trim cs = cs := by
  have last : ∀ c, cs.reverse.head? = some c → isBlank c = false := by
    intro c first
    rw [List.head?_reverse] at first
    exact back c first
  rw [trim, trimLeft_of_head? front, trimLeft_of_head? last, List.reverse_reverse]

theorem isBlank_of_getLast?_trim {cs : List Char} {c : Char} (last : (trim cs).getLast? = some c) :
    isBlank c = false := by
  rw [trim, List.getLast?_reverse] at last
  exact isBlank_of_head?_trimLeft last

theorem mem_of_has {ranges : Ranges} {n : Nat} (inRanges : ranges.has n = true) :
    ∃ range ∈ ranges, range.1 ≤ n ∧ n ≤ range.2 := by
  induction ranges with
  | nil => cases inRanges
  | cons range rest inductionHypothesis =>
      unfold Ranges.has at inRanges
      split at inRanges
      · cases inRanges
      · split at inRanges
        · exact ⟨range, List.mem_cons_self, by omega, by omega⟩
        · rcases inductionHypothesis inRanges with ⟨other, membership, bounds⟩
          exact ⟨other, List.mem_cons_of_mem _ membership, bounds⟩

/-- No letter and no digit is blank. -/
theorem not_isBlank_of_isAlphanumeric {c : Char} (alphanumeric : isAlphanumeric c = true) :
    isBlank c = false := by
  have checked : (blankRanges.all fun range => (List.range' range.1 (range.2 + 1 - range.1)).all fun n =>
      !alphanumericRanges.has n) = true := by decide +kernel
  rw [← Bool.not_eq_true]
  intro blank
  rcases mem_of_has blank with ⟨range, membership, low, high⟩
  have apart := List.all_eq_true.mp (List.all_eq_true.mp checked range membership) c.toNat
    (List.mem_range'_1.mpr ⟨low, by omega⟩)
  rw [isAlphanumeric] at alphanumeric
  rw [alphanumeric] at apart
  cases apart

end SampleLibrary.Text
