import SampleLibrary.Query.Completion
import Mathlib.Data.List.Basic
import Mathlib.Data.List.Nodup
import Mathlib.Data.List.Range

/-!
# Runs in a report

A report tells for each occurrence of a phrase of `n` words which terms fall on which tokens. Here its
entries stand in order, token by token (`entriesFrom`), and only it matters at which tokens the phrase
occurs. Entries that follow each other are the terms of the phrase, one each, in two cases
(`isRun_iff`): from a token where the phrase occurs without another occurrence that shares a token with it,
or at a single token on which all terms fall.
-/

namespace SampleLibrary.Query

/-- The occurrences that start at `p` and `q` share no token. -/
def Apart (n p q : Nat) : Prop := p + n ≤ q ∨ q + n ≤ p

section Runs

variable {n : Nat} {occurs : Nat → Bool} {mark : Nat → Nat → Occurrence} {p : Nat}

/-- The phrase occurs at a token, and no other occurrence shares a token with this one. -/
def Alone (n : Nat) (occurs : Nat → Bool) (p : Nat) : Prop :=
  ∀ q, occurs q = true → q ≠ p → Apart n p q

/-- All terms of a phrase of several words fall on one token. -/
def Piled (n : Nat) (occurs : Nat → Bool) (p : Nat) : Prop :=
  2 ≤ n ∧ ∀ k < n, k ≤ p ∧ occurs (p - k) = true

/-- The terms that fall on a token: those with as many terms before them as tokens back to an
occurrence. -/
def termsAt (n : Nat) (occurs : Nat → Bool) (p : Nat) : List Nat :=
  (List.range n).filter fun k => decide (k ≤ p) && occurs (p - k)

/-- The entries for `count` tokens from some token on, in order. -/
def entriesFrom (n : Nat) (occurs : Nat → Bool) (mark : Nat → Nat → Occurrence) (p : Nat) :
    Nat → List Occurrence
  | 0 => []
  | count + 1 => (termsAt n occurs p).map (mark p) ++ entriesFrom n occurs mark (p + 1) count

theorem mem_termsAt {k : Nat} :
    k ∈ termsAt n occurs p ↔ k < n ∧ k ≤ p ∧ occurs (p - k) = true := by
  simp [termsAt]

theorem termsAt_ascending : (termsAt n occurs p).Pairwise (· < ·) :=
  List.pairwise_lt_range.filter _

theorem mem_entriesFrom {count : Nat} {o : Occurrence} :
    o ∈ entriesFrom n occurs mark p count ↔
      ∃ q, p ≤ q ∧ q < p + count ∧ ∃ k ∈ termsAt n occurs q, mark q k = o := by
  induction count generalizing p with
  | zero =>
      simp only [entriesFrom, List.not_mem_nil, Nat.add_zero, false_iff]
      rintro ⟨q, low, high, -⟩
      omega
  | succ count inductionHypothesis =>
      rw [entriesFrom, List.mem_append, List.mem_map, inductionHypothesis]
      constructor
      · rintro (⟨k, term, same⟩ | ⟨q, low, high, found⟩)
        · exact ⟨p, Nat.le_refl p, by omega, k, term, same⟩
        · exact ⟨q, by omega, by omega, found⟩
      · rintro ⟨q, low, high, found⟩
        rcases Nat.eq_or_lt_of_le low with rfl | later
        · exact .inl found
        · exact .inr ⟨q, later, by omega, found⟩

/-- Only one term falls on a token if it is the only one that can. -/
theorem termsAt_eq_singleton {k : Nat} (term : k ∈ termsAt n occurs p)
    (only : ∀ k' ∈ termsAt n occurs p, k' = k) : termsAt n occurs p = [k] := by
  have distinct : (termsAt n occurs p).Nodup := List.nodup_range.filter _
  rw [← List.perm_singleton, List.perm_ext_iff_of_nodup distinct (by simp)]
  intro k'
  rw [List.mem_singleton]
  exact ⟨only k', fun same => same ▸ term⟩

/-- The lowest term on a token comes first. -/
theorem exists_first_term {k : Nat} (term : k ∈ termsAt n occurs p) :
    ∃ first others, termsAt n occurs p = first :: others ∧ first ≤ k ∧ ∀ k' ∈ others, first < k' := by
  have ascending : (termsAt n occurs p).Pairwise (· < ·) := termsAt_ascending
  cases terms : termsAt n occurs p with
  | nil =>
      rw [terms] at term
      cases term
  | cons first others =>
      rw [terms] at term ascending
      have above := (List.pairwise_cons.mp ascending).1
      refine ⟨first, others, rfl, ?_, above⟩
      rcases List.mem_cons.mp term with rfl | later
      · exact Nat.le_refl _
      · exact Nat.le_of_lt (above k later)

/-- No other term falls on a token of an occurrence that shares none with those before it. -/
theorem termsAt_of_apart {term : Nat} (here : occurs p = true) (bound : term < n)
    (apart : ∀ q, occurs q = true → q ≤ p + term → q ≠ p → Apart n p q) :
    termsAt n occurs (p + term) = [term] := by
  refine termsAt_eq_singleton (mem_termsAt.mpr ⟨bound, by omega, by rw [Nat.add_sub_cancel]; exact here⟩)
    fun k isTerm => ?_
  rcases mem_termsAt.mp isTerm with ⟨below, low, there⟩
  by_contra other
  rcases apart _ there (by omega) (by omega) with behind | before <;> omega

/-! ## From one token on -/

theorem inTurn_append (term : Nat) (as bs : List Occurrence) :
    Completion.inTurn term (as ++ bs) =
      (Completion.inTurn term as && Completion.inTurn (term + as.length) bs) := by
  induction as generalizing term with
  | nil => simp [Completion.inTurn]
  | cons o as inductionHypothesis =>
      rw [List.cons_append, Completion.inTurn, inductionHypothesis, Completion.inTurn, Bool.and_assoc,
        List.length_cons, Nat.add_right_comm, Nat.add_assoc]

theorem inTurn_map (term count : Nat) {f : Nat → Occurrence} (terms : ∀ k, (f k).term = k) :
    Completion.inTurn term ((List.range' term count).map f) = true := by
  induction count generalizing term with
  | zero => rfl
  | succ count inductionHypothesis =>
      rw [List.range'_succ, List.map_cons, Completion.inTurn, terms, inductionHypothesis]
      simp

/-- Do the first entries make a whole run of terms? -/
def isRun (n : Nat) (entries : List Occurrence) : Bool :=
  (entries.take n).length == n && Completion.inTurn 0 (entries.take n)

/-- One term falls on each token of an occurrence that shares none with other ones. -/
theorem take_entriesFrom_of_alone (alone : Alone n occurs p) (here : occurs p = true)
    {first count more : Nat} (whole : first + count = n) (enough : count ≤ more) :
    (entriesFrom n occurs mark (p + first) more).take count =
      (List.range' first count).map fun k => mark (p + k) k := by
  induction count generalizing first more with
  | zero => simp
  | succ count inductionHypothesis =>
      cases more with
      | zero => omega
      | succ more =>
          rw [entriesFrom, termsAt_of_apart here (by omega) fun q there _ => alone q there,
            List.map_singleton, List.singleton_append, List.take_succ_cons, List.range'_succ,
            List.map_cons, Nat.add_assoc, inductionHypothesis (by omega) (by omega)]

/-- All terms fall on the token. -/
theorem take_entriesFrom_of_piled (piled : Piled n occurs p) {more : Nat} (enough : 0 < more) :
    (entriesFrom n occurs mark p more).take n = (List.range' 0 n).map (mark p) := by
  have all : termsAt n occurs p = List.range n := by
    refine List.filter_eq_self.mpr fun k inRange => ?_
    rcases piled.2 k (List.mem_range.mp inRange) with ⟨low, there⟩
    simp [low, there]
  rcases Nat.exists_eq_succ_of_ne_zero (Nat.ne_of_gt enough) with ⟨more, rfl⟩
  rw [entriesFrom, all, List.take_append_of_le_length (by simp), List.take_of_length_le (by simp),
    List.range_eq_range']

/-- Entries that go on with a term have it as the lowest one on their first token. -/
theorem lowest_of_inTurn (terms : ∀ q k, (mark q k).term = k) {lowest : Nat} {others : List Nat}
    (found : termsAt n occurs p = lowest :: others) {term count more : Nat}
    (turn : Completion.inTurn term
      ((entriesFrom n occurs mark p (more + 1)).take (count + 1)) = true) : lowest = term := by
  rw [entriesFrom, found, List.map_cons, List.cons_append, List.take_succ_cons, Completion.inTurn,
    terms, Bool.and_eq_true, beq_iff_eq] at turn
  exact turn.1

/-- If the terms go on one by one, no other occurrence starts before the end of this one. -/
theorem alone_of_inTurn (here : occurs p = true) {first count more : Nat} (positive : 0 < first)
    (whole : first + count = n) (enough : count ≤ more)
    (before : ∀ q, occurs q = true → q < p + first → q ≠ p → Apart n p q)
    (turn : Completion.inTurn first ((entriesFrom n occurs mark (p + first) more).take count) = true)
    (terms : ∀ q k, (mark q k).term = k) : Alone n occurs p := by
  induction count generalizing first more with
  | zero =>
      intro q there other
      by_cases early : q < p + first
      · exact before q there early other
      · exact .inl (by omega)
  | succ count inductionHypothesis =>
      cases more with
      | zero => omega
      | succ more =>
          have term : first ∈ termsAt n occurs (p + first) :=
            mem_termsAt.mpr ⟨by omega, by omega, by rw [Nat.add_sub_cancel]; exact here⟩
          rcases exists_first_term term with ⟨lowest, others, found, -, -⟩
          have isFirst : lowest = first := lowest_of_inTurn terms found turn
          have notHere : occurs (p + first) ≠ true := by
            intro there
            have zero : 0 ∈ termsAt n occurs (p + first) :=
              mem_termsAt.mpr ⟨by omega, by omega, there⟩
            rcases exists_first_term zero with ⟨lowest', others', found', low, -⟩
            rw [found] at found'
            cases found'
            omega
          have before' : ∀ q, occurs q = true → q < p + (first + 1) → q ≠ p → Apart n p q := by
            intro q there early other
            by_cases same : q = p + first
            · exact absurd (same ▸ there) notHere
            · exact before q there (by omega) other
          have only : termsAt n occurs (p + first) = [first] :=
            termsAt_of_apart here (by omega) fun q there upTo => before' q there (by omega)
          rw [entriesFrom, only, List.map_singleton, List.singleton_append, List.take_succ_cons,
            Completion.inTurn, Bool.and_eq_true] at turn
          exact inductionHypothesis (by omega) (by omega) (by omega) before' turn.2

/-- A token with as many terms as the phrase has words has all of them. -/
theorem occurs_of_full (full : n ≤ (termsAt n occurs p).length) :
    ∀ k < n, k ≤ p ∧ occurs (p - k) = true := by
  have all : termsAt n occurs p = List.range n :=
    List.filter_sublist.eq_of_length_le (by rw [List.length_range]; exact full)
  exact fun k bound => (mem_termsAt.mp (all ▸ List.mem_range.mpr bound)).2

/-- A run that goes on behind the token on which it starts has only its first term there: the lowest term
on the next token is 0 or 1. -/
theorem termsAt_of_short (here : occurs p = true) (terms : ∀ q k, (mark q k).term = k)
    (short : (termsAt n occurs p).length < n) {more : Nat} (enough : n ≤ more)
    (turn : Completion.inTurn 0 ((entriesFrom n occurs mark p more).take n) = true) :
    termsAt n occurs p = [0] := by
  have zero : 0 ∈ termsAt n occurs p := mem_termsAt.mpr ⟨by omega, Nat.zero_le p, here⟩
  rcases exists_first_term zero with ⟨lowest, others, found, low, -⟩
  obtain rfl : lowest = 0 := Nat.le_zero.mp low
  rw [found, List.length_cons] at short
  have next : 1 ∈ termsAt n occurs (p + 1) :=
    mem_termsAt.mpr ⟨by omega, by omega, by rw [Nat.add_sub_cancel]; exact here⟩
  rcases exists_first_term next with ⟨lowest', others', found', low', -⟩
  obtain ⟨more, rfl⟩ : ∃ m, more = m + 2 := ⟨more - 2, by omega⟩
  rw [entriesFrom, List.take_append, inTurn_append, Bool.and_eq_true, Nat.zero_add, List.length_take,
    List.length_map, found, List.length_cons, Nat.min_eq_right (by omega)] at turn
  obtain ⟨left, rest⟩ : ∃ left, n - (others.length + 1) = left + 1 :=
    ⟨n - (others.length + 1) - 1, by omega⟩
  rw [rest] at turn
  have continued : lowest' = others.length + 1 := lowest_of_inTurn terms found' turn.2
  rw [found, List.length_eq_zero_iff.mp (show others.length = 0 by omega)]

/-- Where the phrase occurs, the entries start with a run in two cases only. -/
theorem isRun_iff (here : occurs p = true) (positive : 0 < n) {more : Nat} (enough : n ≤ more)
    (terms : ∀ q k, (mark q k).term = k) :
    isRun n (entriesFrom n occurs mark p more) = true ↔ Alone n occurs p ∨ Piled n occurs p := by
  constructor
  · intro isRun
    simp only [Query.isRun, Bool.and_eq_true, beq_iff_eq] at isRun
    by_cases full : n ≤ (termsAt n occurs p).length
    · by_cases single : n = 1
      · refine .inl fun q _ other => ?_
        unfold Apart
        omega
      · exact .inr ⟨by omega, occurs_of_full full⟩
    · have only : termsAt n occurs p = [0] :=
        termsAt_of_short here terms (Nat.lt_of_not_le full) enough isRun.2
      obtain ⟨more, rfl⟩ : ∃ m, more = m + 1 := ⟨more - 1, by omega⟩
      obtain ⟨rest, rfl⟩ : ∃ m, n = m + 1 := ⟨n - 1, by omega⟩
      have turn := isRun.2
      rw [entriesFrom, only, List.map_singleton, List.singleton_append, List.take_succ_cons,
        Completion.inTurn, Bool.and_eq_true] at turn
      refine .inl (alone_of_inTurn here Nat.one_pos (by omega) (by omega) ?_ turn.2 terms)
      intro q there early other
      by_contra near
      have term : p - q ∈ termsAt (rest + 1) occurs p := by
        refine mem_termsAt.mpr ⟨?_, by omega, by rw [Nat.sub_sub_self (by omega)]; exact there⟩
        by_contra far
        exact near (.inr (by omega))
      rw [only, List.mem_singleton] at term
      omega
  · have runs {f : Nat → Occurrence} (same : ∀ k, (f k).term = k) (taken :
        (entriesFrom n occurs mark p more).take n = (List.range' 0 n).map f) :
        isRun n (entriesFrom n occurs mark p more) = true := by
      rw [isRun, taken, inTurn_map 0 n same]
      simp
    rintro (alone | piled)
    · exact runs (fun k => terms _ k) (take_entriesFrom_of_alone alone here (Nat.zero_add n) enough)
    · exact runs (terms p) (take_entriesFrom_of_piled piled (by omega))

/-! ## From every token on -/

theorem tails_append {α : Type} (as bs : List α) :
    Completion.tails (as ++ bs) = (Completion.tails as).map (· ++ bs) ++ Completion.tails bs := by
  induction as with
  | nil => rfl
  | cons a as inductionHypothesis => simp [Completion.tails, inductionHypothesis]

/-- What is found from the entries on, for entries that can only be found something from if they start with
the first term: something can be found at each token where the phrase occurs. -/
theorem filterMap_tails {β : Type} {f : List Occurrence → Option β} (positive : 0 < n)
    (terms : ∀ q k, (mark q k).term = k) (silent : ∀ o os, o.term ≠ 0 → f (o :: os) = none)
    (p count : Nat) :
    (Completion.tails (entriesFrom n occurs mark p count)).filterMap f =
      (List.range' p count).filterMap fun q =>
        if occurs q then f (entriesFrom n occurs mark q (p + count - q)) else none := by
  have nothing (ks : List Nat) (q : Nat) (rest : List Occurrence) (later : ∀ k ∈ ks, k ≠ 0) :
      ((Completion.tails (ks.map (mark q))).map (· ++ rest)).filterMap f = [] := by
    induction ks with
    | nil => rfl
    | cons k ks inductionHypothesis =>
        have no : f (mark q k :: (ks.map (mark q) ++ rest)) = none :=
          silent _ _ (by rw [terms]; exact later k List.mem_cons_self)
        simp [Completion.tails, no,
          inductionHypothesis fun k' membership => later k' (List.mem_cons_of_mem _ membership)]
  induction count generalizing p with
  | zero => rfl
  | succ count inductionHypothesis =>
      rw [entriesFrom, tails_append, List.filterMap_append, inductionHypothesis, List.range'_succ,
        List.filterMap_cons, show p + 1 + count = p + (count + 1) by omega]
      by_cases here : occurs p = true
      · have zero : 0 ∈ termsAt n occurs p := mem_termsAt.mpr ⟨positive, Nat.zero_le p, here⟩
        rcases exists_first_term zero with ⟨lowest, others, found, low, above⟩
        obtain rfl : lowest = 0 := Nat.le_zero.mp low
        have rest := nothing others p (entriesFrom n occurs mark (p + 1) count)
          fun k membership => Nat.ne_of_gt (above k membership)
        rw [if_pos here, Nat.add_sub_cancel_left, entriesFrom, found, List.map_cons, Completion.tails,
          List.map_cons, List.filterMap_cons, rest]
        cases f (mark p 0 :: others.map (mark p) ++ entriesFrom n occurs mark (p + 1) count) <;> rfl
      · have later : ∀ k ∈ termsAt n occurs p, k ≠ 0 := by
          rintro k term rfl
          exact here (mem_termsAt.mp term).2.2
        rw [if_neg here, nothing _ p _ later]
        rfl

end Runs

end SampleLibrary.Query
