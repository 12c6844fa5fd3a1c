import Mathlib.Data.List.Nodup
import SampleLibrary.Pattern.Matching

/-!
# Preferred ways

A match takes the way through an expression that comes first. So of a sequence the first way counts on which
the rest can go on (`Node.head?_seq`), and ways that come to a position later are of no account. A repetition
of single characters leads to every position up to the first character that does not fit, the farthest one
first or the nearest one (`Node.outcomes_loop_char`).
-/

namespace SampleLibrary.Pattern

/-! ## Sets of characters -/

theorem CharItem.has_one (c d : Char) (negated : Bool) :
    (CharItem.mk [(c, c)] negated).has d = ((d == c) != negated) := by
  have between : (decide (c ≤ d) && decide (d ≤ c)) = (d == c) := by
    rw [Bool.eq_iff_iff]
    simp only [Bool.and_eq_true, decide_eq_true_eq, beq_iff_eq]
    exact ⟨fun ⟨above, below⟩ => Char.le_antisymm below above,
      fun same => same ▸ ⟨Char.le_refl _, Char.le_refl _⟩⟩
  simp [has, between]

theorem CharSet.has_single (c d : Char) : (single c).has d = (d == c) := by
  simp [has, single, CharItem.has_one]

/-! ## First ways -/

theorem mem_of_mem_firstWays {w : Way} {ws : List Way} {seen : List Nat} (kept : w ∈ firstWays seen ws) :
    w ∈ ws := by
  induction ws generalizing seen with
  | nil => exact kept
  | cons v ws inductionHypothesis =>
      unfold firstWays at kept
      split at kept
      · exact List.mem_cons_of_mem _ (inductionHypothesis kept)
      · rcases List.mem_cons.mp kept with rfl | later
        · exact List.mem_cons_self
        · exact List.mem_cons_of_mem _ (inductionHypothesis later)

/-- Ways to different positions are all kept. -/
theorem firstWays_of_distinct {ws : List Way} {seen : List Nat} (unseen : ∀ w ∈ ws, w.1.index ∉ seen)
    (distinct : (ws.map fun w => w.1.index).Nodup) : firstWays seen ws = ws := by
  induction ws generalizing seen with
  | nil => rfl
  | cons w ws inductionHypothesis =>
      rw [List.map_cons, List.nodup_cons] at distinct
      unfold firstWays
      rw [if_neg (by simpa using unseen w List.mem_cons_self), inductionHypothesis _ distinct.2]
      intro v later again
      rcases List.mem_cons.mp again with same | inSeen
      · exact distinct.1 (List.mem_map.mpr ⟨v, later, same⟩)
      · exact unseen v (List.mem_cons_of_mem _ later) inSeen

theorem head?_firstWays (ws : List Way) : (firstWays [] ws).head? = ws.head? := by
  cases ws <;> rfl

/-- The preferred way is the first one from whose end there is a way on. -/
theorem head?_andThen (ws : List Way) (f : Place → Groups → List Way) :
    (andThen ws f).head? = ws.findSome? fun w => (f w.1 w.2).head? := by
  rw [andThen, head?_firstWays, List.head?_flatMap]

theorem findSome?_of_head? {α β : Type} {as : List α} {a : α} {f : α → Option β} {b : β}
    (first : as.head? = some a) (found : f a = some b) : as.findSome? f = some b := by
  cases as with
  | nil => cases first
  | cons a' as =>
      cases first
      rw [List.findSome?_cons, found]

namespace Node

variable {p : Place} {g : Groups} {before after : List Char}

theorem head?_seq (a b : Node) (p : Place) (g : Groups) :
    ((seq a b).outcomes p g).head? =
      (a.outcomes p g).findSome? fun w => (b.outcomes w.1 w.2).head? := by
  rw [outcomes, head?_andThen]

/-- What comes behind a group sees what the group took. -/
theorem head?_group_seq (index : Nat) (name : Option String) (body b : Node) (p : Place) (g : Groups) :
    ((seq (group index name body) b).outcomes p g).head? =
      (body.outcomes p g).findSome? fun w =>
        (b.outcomes w.1 ((index, p.index, w.1.index) :: w.2)).head? := by
  rw [head?_seq, outcomes, List.findSome?_map]
  rfl

/-- What is optional is taken if it can be. -/
theorem head?_optional (body : Node) (p : Place) (g : Groups) :
    ((loop 0 (some 1) true body).outcomes p g).head? = (body.outcomes p g ++ [(p, g)]).head? := by
  rw [outcomes, head?_andThen]
  simp [rounds, upTo, head?_firstWays]

theorem mem_optional {body : Node} {w : Way} (way : w ∈ (loop 0 (some 1) true body).outcomes p g) :
    w ∈ body.outcomes p g ∨ w = (p, g) := by
  rw [outcomes, andThen] at way
  have way := mem_of_mem_firstWays way
  simp only [rounds, upTo, List.flatMap_cons, List.flatMap_nil, List.append_nil, if_true] at way
  have way := mem_of_mem_firstWays way
  simpa using way

/-! ## Repeated characters -/

/-- Where repeated characters can end, from a position on. -/
def stops (greedy : Bool) (set : CharSet) (g : Groups) : (before after : List Char) → List Way
  | before, [] => [(⟨before, []⟩, g)]
  | before, c :: cs =>
    let here : Way := (⟨before, c :: cs⟩, g)
    if set.has c then
      let more := stops greedy set g (c :: before) cs
      if greedy then more ++ [here] else here :: more
    else [here]

section Stops

variable {greedy : Bool} {set : CharSet}

theorem mem_stops_cons {c : Char} {cs : List Char} {w : Way}
    (way : w ∈ stops greedy set g before (c :: cs)) :
    set.has c = true ∧ w ∈ stops greedy set g (c :: before) cs ∨ w = (⟨before, c :: cs⟩, g) := by
  unfold stops at way
  split at way
  · rename_i fits
    cases greedy <;> simpa [fits, or_comm] using way
  · exact .inr (List.mem_singleton.mp way)

theorem le_index_of_mem_stops {w : Way} (way : w ∈ stops greedy set g before after) :
    before.length ≤ w.1.index := by
  induction after generalizing before with
  | nil =>
      rw [stops, List.mem_singleton] at way
      rw [way]
      exact Nat.le_refl _
  | cons c cs inductionHypothesis =>
      rcases mem_stops_cons way with ⟨-, later⟩ | rfl
      · exact Nat.le_of_succ_le (inductionHypothesis later)
      · exact Nat.le_refl _

theorem nodup_stops : ((stops greedy set g before after).map fun w => w.1.index).Nodup := by
  induction after generalizing before with
  | nil => exact List.nodup_singleton _
  | cons c cs inductionHypothesis =>
      unfold stops
      split
      · have fresh : before.length ∉
            (stops greedy set g (c :: before) cs).map fun w => w.1.index := by
          intro membership
          rcases List.mem_map.mp membership with ⟨w, way, same⟩
          have later := le_index_of_mem_stops way
          rw [same, List.length_cons] at later
          omega
        cases greedy with
        | false => exact List.nodup_cons.mpr ⟨fresh, inductionHypothesis⟩
        | true =>
            dsimp only
            rw [if_pos rfl, List.map_append, List.nodup_append]
            refine ⟨inductionHypothesis, List.nodup_singleton _, ?_⟩
            intro index membership other here same
            rw [List.map_singleton, List.mem_singleton] at here
            rw [same, here] at membership
            exact fresh membership
      · exact List.nodup_singleton _

@[simp]
theorem outcomes_char_nil : (char set).outcomes ⟨before, []⟩ g = [] := rfl

@[simp]
theorem outcomes_char_cons {c : Char} {cs : List Char} : (char set).outcomes ⟨before, c :: cs⟩ g =
    if set.has c then [(⟨c :: before, cs⟩, g)] else [] := rfl

/-- A repetition that comes to the end of the text has met characters that fit only. -/
theorem fits_of_mem_stops {w : Way} (way : w ∈ stops greedy set g before after) (atEnd : w.1.after = []) :
    ∀ c ∈ after, set.has c = true := by
  induction after generalizing before with
  | nil => exact fun c membership => absurd membership List.not_mem_nil
  | cons d cs inductionHypothesis =>
      rcases mem_stops_cons way with ⟨fits, later⟩ | rfl
      · intro c membership
        rcases List.mem_cons.mp membership with rfl | inRest
        · exact fits
        · exact inductionHypothesis later c inRest
      · cases atEnd

/-- No round of single characters comes to a position where another one has ended. -/
theorem furtherRounds_char {origin fuel : Nat} {ended : List Nat} (enough : after.length ≤ fuel)
    (behind : ∀ index ∈ ended, index < before.length) (past : origin < before.length) :
    (furtherRounds greedy (char set).outcomes origin fuel ended (⟨before, after⟩, g)).1 =
      stops greedy set g before after := by
  induction after generalizing before fuel ended with
  | nil =>
      have new : before.length ∉ ended := fun there => Nat.lt_irrefl _ (behind _ there)
      cases fuel with
      | zero => simp [furtherRounds, Place.index, new, stops]
      | succ fuel => cases greedy <;> simp [furtherRounds, Place.index, new, stops]
  | cons c cs inductionHypothesis =>
      have new : before.length ∉ ended := fun there => Nat.lt_irrefl _ (behind _ there)
      have away : before.length ≠ origin := (Nat.ne_of_lt past).symm
      cases fuel with
      | zero => exact absurd enough (Nat.not_succ_le_zero _)
      | succ fuel =>
          have further : (furtherRounds greedy (char set).outcomes origin fuel (before.length :: ended)
              (⟨c :: before, cs⟩, g)).1 = stops greedy set g (c :: before) cs := by
            refine inductionHypothesis (Nat.le_of_succ_le_succ enough) ?_ (Nat.lt_succ_of_lt past)
            intro index membership
            rcases List.mem_cons.mp membership with rfl | earlier
            · exact Nat.lt_succ_self _
            · exact Nat.lt_succ_of_lt (behind index earlier)
          by_cases fits : set.has c = true
          · cases greedy <;> simp [furtherRounds, Place.index, new, away, stops, fits, further]
          · cases greedy <;> simp [furtherRounds, Place.index, new, away, stops, fits]

theorem oneOrMore_char : oneOrMore greedy (char set).outcomes ⟨before, after⟩ g =
    match after with
    | [] => []
    | c :: cs => if set.has c then stops greedy set g (c :: before) cs else [] := by
  cases after with
  | nil => rfl
  | cons c cs =>
      have further : (furtherRounds greedy (char set).outcomes before.length ((c :: cs).length + 1) []
          (⟨c :: before, cs⟩, g)).1 = stops greedy set g (c :: before) cs :=
        furtherRounds_char (by simp; omega) (by simp) (Nat.lt_succ_self _)
      by_cases fits : set.has c = true
      · simpa [oneOrMore, fits, Place.index] using further
      · simp [oneOrMore, fits]

/-- A repetition of single characters ends wherever it can, the farthest position first if it is greedy and
the nearest one if it is not. -/
theorem outcomes_loop_char :
    (loop 0 none greedy (char set)).outcomes ⟨before, after⟩ g = stops greedy set g before after := by
  have listed : (loop 0 none greedy (char set)).outcomes ⟨before, after⟩ g =
      firstWays [] (stops greedy set g before after) := by
    rw [outcomes, anyNumber, oneOrMore_char]
    cases after with
    | nil => cases greedy <;> rfl
    | cons c cs =>
        by_cases fits : set.has c = true
        · simp [stops, fits]
        · cases greedy <;> simp [stops, fits]
  rw [listed, firstWays_of_distinct (fun _ _ => List.not_mem_nil) nodup_stops]

/-- A greedy repetition ends at the end of the text if all characters fit. -/
theorem head?_stops_true (all : ∀ c ∈ after, set.has c = true) :
    (stops true set g before after).head? = some (⟨after.reverse ++ before, []⟩, g) := by
  induction after generalizing before with
  | nil => rfl
  | cons c cs inductionHypothesis =>
      rw [stops, if_pos (all c List.mem_cons_self)]
      dsimp only
      rw [if_pos rfl, List.head?_append,
        inductionHypothesis fun d later => all d (List.mem_cons_of_mem _ later)]
      simp

/-- A repetition that is not greedy ends where it begins, if it can go on from there. -/
theorem head?_stops_false :
    (stops false set g before after).head? = some (⟨before, after⟩, g) := by
  cases after with
  | nil => rfl
  | cons c cs =>
      unfold stops
      split <;> rfl

end Stops

/-! ## Up to the last character of a kind -/

section Single

variable {c : Char} {set : CharSet}

/-- There is no way on to a character that does not come. -/
theorem findSome?_single_of_not_mem {greedy : Bool} (absent : c ∉ after) :
    ((stops greedy set g before after).findSome? fun w => ((char (.single c)).outcomes w.1 w.2).head?) =
      none := by
  induction after generalizing before with
  | nil => rfl
  | cons d cs inductionHypothesis =>
      rw [List.mem_cons, not_or] at absent
      have other : (CharSet.single c).has d = false := by
        rw [CharSet.has_single]
        exact beq_false_of_ne (Ne.symm absent.1)
      unfold stops
      cases greedy <;> split <;> simp [other, inductionHypothesis absent.2]

/-- A greedy repetition before a character goes on to where the character stands last. -/
theorem head?_loop_single {front rest : List Char} (fits : ∀ d ∈ front ++ [c], set.has d = true)
    (absent : c ∉ rest) :
    ((seq (loop 0 none true (char set)) (char (.single c))).outcomes ⟨before, front ++ c :: rest⟩ g).head? =
      some (⟨c :: (front.reverse ++ before), rest⟩, g) := by
  rw [head?_seq, outcomes_loop_char]
  induction front generalizing before with
  | nil =>
      have later : ((stops true set g (c :: before) rest).findSome? fun w =>
          ((char (.single c)).outcomes w.1 w.2).head?) = none := findSome?_single_of_not_mem absent
      rw [List.nil_append, stops, if_pos (fits c (by simp))]
      dsimp only
      rw [if_pos rfl, List.findSome?_append, later]
      simp [CharSet.has_single]
  | cons d front inductionHypothesis =>
      rw [List.cons_append, stops, if_pos (fits d List.mem_cons_self)]
      dsimp only
      rw [if_pos rfl, List.findSome?_append,
        inductionHypothesis fun e membership => fits e (List.mem_cons_of_mem _ membership)]
      simp

theorem outcomes_loop_single_of_not_mem {greedy : Bool} (absent : c ∉ after) :
    (seq (loop 0 none greedy (char set)) (char (.single c))).outcomes ⟨before, after⟩ g = [] := by
  rw [← List.head?_eq_none_iff, head?_seq, outcomes_loop_char]
  exact findSome?_single_of_not_mem absent

end Single

end Node

/-! ## Groups -/

/-- The whole match is the text up to where the preferred way ends, and a group has the text that it took
part with last. -/
theorem matchStart?_of_head? {pattern : Pattern} {text : String} {stop : Place} {groups : Groups}
    (first : (pattern.node.outcomes ⟨[], text.toList⟩ []).head? = some (stop, groups)) :
    ∃ texts, pattern.matchStart? text = some texts ∧
      texts[0]? = some (String.ofList (text.toList.take stop.index)) ∧
      ∀ index start finish, 0 < index → index < pattern.groupCount →
        groups.lookup index = some (start, finish) →
        texts[index]? = some (String.ofList ((text.toList.drop start).take (finish - start))) := by
  rcases List.head?_eq_some_iff.mp first with ⟨others, ways⟩
  refine ⟨_, by rw [matchStart?, ways], ?_, ?_⟩
  · simp [groupCount]
  · intro index start finish positive inRange found
    simp [inRange, found, Nat.ne_of_gt positive]

end SampleLibrary.Pattern
