import SampleLibrary.FullText
import SampleLibrary.Proofs.Splitting

/-!
# The tokens of a text and of its parts

A text is gaps and words in turn (`Reads`). It can be cut at a word: the tokens of the part are the tokens
between, as long as the part ends where a word ends. So the bytes from the start of one token to the end of
another one are a text that starts with the words of these tokens (`exists_span`).
-/

namespace SampleLibrary.FullText

open Text (byteLength byteLength_append asciiLower)

/-- What a token says of the text up to its end: its word, folded, and the bytes of it. -/
structure Spot where
  folded : List Char
  start : Nat
  size : Nat

def Spot.stop (s : Spot) : Nat := s.start + s.size

def Token.spot (t : Token) : Spot := ⟨t.folded, t.start, t.size⟩

/-- No word goes on behind this place. -/
def Boundary (rest : List Char) : Prop := ∀ c, rest.head? = some c → isWordChar c = false

def Gap (cs : List Char) : Prop := ∀ c ∈ cs, isWordChar c = false

/-- A text that starts at byte `pos` is gaps and words in turn, and these are the words. -/
inductive Reads : Nat → List Char → List Spot → Prop where
  | done {pos : Nat} {gap : List Char} : Gap gap → Reads pos gap []
  | word {pos : Nat} {gap word rest : List Char} {spots : List Spot} :
      Gap gap → word ≠ [] → (∀ c ∈ word, isWordChar c = true) → Boundary rest →
      Reads (pos + byteLength gap + byteLength word) rest spots →
      Reads pos (gap ++ (word ++ rest))
        (⟨word.map asciiLower, pos + byteLength gap, byteLength word⟩ :: spots)

/-- A letter of the index is unlike every other character. -/
theorem ne_of_isWordChar {c other : Char} (letter : isWordChar c = true)
    (outside : isWordChar other = false) : c ≠ other := by
  rintro rfl
  cases letter.symm.trans outside

theorem gap_nil : Gap [] := fun _ membership => absurd membership List.not_mem_nil

theorem boundary_nil : Boundary [] := fun _ head => absurd head (by simp)

theorem Boundary.append {cs ds : List Char} (first : Boundary cs) (second : Boundary ds) :
    Boundary (cs ++ ds) := by
  cases cs with
  | nil => exact second
  | cons c cs => exact fun d head => first d head

theorem Boundary.of_prefix {cs ds : List Char} (whole : Boundary (cs ++ ds)) : Boundary cs := by
  cases cs with
  | nil => exact boundary_nil
  | cons c cs => exact fun d head => whole d head

/-- A text is cut in one way only into a part of one kind and one that starts with another kind. -/
theorem cut_unique {p : Char → Bool} {front rest front' rest' : List Char}
    (inside : ∀ c ∈ front, p c = true) (outside : ∀ c, rest.head? = some c → p c = false)
    (inside' : ∀ c ∈ front', p c = true) (outside' : ∀ c, rest'.head? = some c → p c = false)
    (same : front ++ rest = front' ++ rest') : front = front' ∧ rest = rest' := by
  induction front generalizing front' with
  | nil =>
      cases front' with
      | nil => exact ⟨rfl, same⟩
      | cons c front' =>
          rw [List.nil_append] at same
          have no := outside c (by rw [same]; rfl)
          rw [inside' c List.mem_cons_self] at no
          cases no
  | cons c front inductionHypothesis =>
      cases front' with
      | nil =>
          rw [List.nil_append] at same
          have no := outside' c (by rw [← same]; rfl)
          rw [inside c List.mem_cons_self] at no
          cases no
      | cons d front' =>
          rcases List.cons_eq_cons.mp same with ⟨rfl, others⟩
          rcases inductionHypothesis (fun c later => inside c (List.mem_cons_of_mem _ later))
            (fun c later => inside' c (List.mem_cons_of_mem _ later)) others with ⟨rfl, rfl⟩
          exact ⟨rfl, rfl⟩

namespace Reads

variable {pos : Nat} {cs rest gap : List Char} {spots more : List Spot}

theorem behind_gap (isGap : Gap gap) (reads : Reads (pos + byteLength gap) cs spots) :
    Reads pos (gap ++ cs) spots := by
  have both {gap' : List Char} (isGap' : Gap gap') : Gap (gap ++ gap') := fun c membership =>
    (List.mem_append.mp membership).elim (isGap c) (isGap' c)
  cases reads with
  | done isGap' => exact .done (both isGap')
  | word isGap' nonempty letters boundary later =>
      rw [Nat.add_assoc pos, ← byteLength_append] at later ⊢
      rw [← List.append_assoc]
      exact .word (both isGap') nonempty letters boundary later

/-- A text reads as one list of words only. -/
theorem unique (reads : Reads pos cs spots) (reads' : Reads pos cs more) : spots = more := by
  have notGap {gap word rest : List Char} (nonempty : word ≠ [])
      (letters : ∀ c ∈ word, isWordChar c = true) : ¬Gap (gap ++ (word ++ rest)) := by
    intro isGap
    rcases List.exists_mem_of_ne_nil word nonempty with ⟨c, membership⟩
    have no := isGap c (by simp [membership])
    rw [letters c membership] at no
    cases no
  induction reads generalizing more with
  | @done pos gap isGap =>
      generalize same : gap = cs' at reads'
      cases reads' with
      | done => rfl
      | word isGap' nonempty letters => exact absurd (same ▸ isGap) (notGap nonempty letters)
  | @word pos gap word rest spots isGap nonempty letters boundary _ inductionHypothesis =>
      generalize same : gap ++ (word ++ rest) = cs' at reads'
      cases reads' with
      | done isGap' => exact absurd (same ▸ isGap') (notGap nonempty letters)
      | @word _ gap' word' rest' spots' isGap' nonempty' letters' boundary' later =>
          have starts {word rest : List Char} (nonempty : word ≠ [])
              (letters : ∀ c ∈ word, isWordChar c = true) (c : Char)
              (head : (word ++ rest).head? = some c) : (!isWordChar c) = false := by
            cases word with
            | nil => exact absurd rfl nonempty
            | cons d word =>
                cases head
                simp [letters c List.mem_cons_self]
          rcases cut_unique (p := (!isWordChar ·)) (by simpa [Gap] using isGap) (starts nonempty letters)
            (by simpa [Gap] using isGap') (starts nonempty' letters') same with ⟨rfl, others⟩
          rcases cut_unique letters boundary letters' boundary' others with ⟨rfl, rfl⟩
          rw [inductionHypothesis later]

/-- The words of a text in front of a place where no word goes on, and the words behind it. -/
theorem append (reads : Reads pos cs spots) (boundary : Boundary rest)
    (later : Reads (pos + byteLength cs) rest more) : Reads pos (cs ++ rest) (spots ++ more) := by
  induction reads with
  | done isGap => exact later.behind_gap isGap
  | @word pos gap word rest' spots isGap nonempty letters boundary' _ inductionHypothesis =>
      rw [byteLength_append, byteLength_append, ← Nat.add_assoc, ← Nat.add_assoc] at later
      rw [List.append_assoc, List.append_assoc]
      exact .word isGap nonempty letters (boundary'.append boundary) (inductionHypothesis later)

/-- The words stay the same wherever the text starts. -/
theorem moved (reads : Reads pos cs spots) (pos' : Nat) :
    ∃ spots', Reads pos' cs spots' ∧ spots'.map (·.folded) = spots.map (·.folded) := by
  induction reads generalizing pos' with
  | done isGap => exact ⟨[], .done isGap, rfl⟩
  | word isGap nonempty letters boundary _ inductionHypothesis =>
      rcases inductionHypothesis _ with ⟨spots', later, same⟩
      exact ⟨_, .word isGap nonempty letters boundary later, by simp [same]⟩

/-- A text can be cut where a word ends. -/
theorem cut_stop (reads : Reads pos cs spots) {i : Nat} {s : Spot} (there : spots[i]? = some s) :
    ∃ front behind, cs = front ++ behind ∧ Boundary behind ∧ s.stop = pos + byteLength front ∧
      Reads pos front (spots.take (i + 1)) := by
  induction reads generalizing i with
  | done isGap => cases there
  | @word pos gap word rest spots isGap nonempty letters boundary _ inductionHypothesis =>
      cases i with
      | zero =>
          cases there
          refine ⟨gap ++ word, rest, by simp, boundary, ?_, ?_⟩
          · rw [byteLength_append, Spot.stop, Nat.add_assoc]
          · have reads : Reads pos (gap ++ (word ++ [])) _ :=
              .word isGap nonempty letters boundary_nil (.done gap_nil)
            simpa using reads
      | succ i =>
          rcases inductionHypothesis there with ⟨front, behind, rfl, boundary', stop, reads'⟩
          refine ⟨gap ++ (word ++ front), behind, by simp, boundary', ?_, ?_⟩
          · rw [stop, byteLength_append, byteLength_append]
            omega
          · exact .word isGap nonempty letters boundary.of_prefix reads'

/-- A text can be cut where a word starts. -/
theorem cut_start (reads : Reads pos cs spots) {i : Nat} {s : Spot} (there : spots[i]? = some s) :
    ∃ front behind, cs = front ++ behind ∧ s.start = pos + byteLength front ∧
      Reads s.start behind (spots.drop i) := by
  induction reads generalizing i with
  | done isGap => cases there
  | @word pos gap word rest spots isGap nonempty letters boundary later inductionHypothesis =>
      cases i with
      | zero =>
          cases there
          refine ⟨gap, word ++ rest, rfl, rfl, ?_⟩
          exact .word gap_nil nonempty letters boundary later
      | succ i =>
          rcases inductionHypothesis there with ⟨front, behind, rfl, start, reads'⟩
          refine ⟨gap ++ (word ++ front), behind, by simp, ?_, reads'⟩
          rw [start, byteLength_append, byteLength_append]
          omega

/-- Every word stands in the text. -/
theorem exists_word (reads : Reads pos cs spots) {s : Spot} (membership : s ∈ spots) :
    ∃ front word behind, cs = front ++ (word ++ behind) ∧ word ≠ [] ∧
      (∀ c ∈ word, isWordChar c = true) ∧ s.start = pos + byteLength front ∧
      s.size = byteLength word := by
  induction reads with
  | done isGap => exact absurd membership List.not_mem_nil
  | @word pos gap word rest spots isGap nonempty letters boundary _ inductionHypothesis =>
      rcases List.mem_cons.mp membership with rfl | later
      · exact ⟨gap, word, rest, rfl, nonempty, letters, rfl, rfl⟩
      · rcases inductionHypothesis later with ⟨front, word', behind, rfl, nonempty', letters', start, size⟩
        refine ⟨gap ++ (word ++ front), word', behind, by simp, nonempty', letters', ?_, size⟩
        rw [start, byteLength_append, byteLength_append]
        omega

/-- Every token starts behind the one before it. -/
theorem ascending (reads : Reads pos cs spots) :
    (∀ s ∈ spots, pos ≤ s.start ∧ s.stop ≤ pos + byteLength cs) ∧
      spots.Pairwise fun s s' => s.start < s'.start := by
  induction reads with
  | done isGap => exact ⟨fun s membership => absurd membership List.not_mem_nil, .nil⟩
  | @word pos gap word rest spots isGap nonempty letters boundary _ inductionHypothesis =>
      rcases inductionHypothesis with ⟨inside, pairwise⟩
      have positive : 0 < byteLength word := by
        cases word with
        | nil => exact absurd rfl nonempty
        | cons c word =>
            have size := c.utf8Size_pos
            rw [byteLength]
            omega
      rw [byteLength_append, byteLength_append]
      refine ⟨fun s membership => ?_, List.pairwise_cons.mpr ⟨fun s later => ?_, pairwise⟩⟩
      · rcases List.mem_cons.mp membership with rfl | later
        · rw [Spot.stop]
          dsimp only
          omega
        · have bounds := inside s later
          omega
      · have bounds := (inside s later).1
        dsimp only
        omega

end Reads

/-! ## The tokens -/

/-- The tokens are what the text reads as: the word that is being read goes on, and then come others. -/
theorem reads_tokensFrom (before : Option Char) (word : List Char) (pos : Nat) (cs : List Char)
    (inside : byteLength word ≤ pos) :
    (word = [] → Reads pos cs ((tokensFrom before word pos cs).map Token.spot)) ∧
      (word ≠ [] → ∃ more rest spots, cs = more ++ rest ∧ (∀ c ∈ more, isWordChar c = true) ∧
        Boundary rest ∧ Reads (pos + byteLength more) rest spots ∧
        (tokensFrom before word pos cs).map Token.spot =
          ⟨(word.reverse ++ more).map asciiLower, pos - byteLength word,
            byteLength word + byteLength more⟩ :: spots) := by
  induction cs generalizing before word pos with
  | nil =>
      constructor
      · rintro rfl
        exact .done gap_nil
      · intro nonempty
        refine ⟨[], [], [], rfl, fun c membership => absurd membership List.not_mem_nil, boundary_nil,
          .done gap_nil, ?_⟩
        simp [tokensFrom, tokensFrom.token, nonempty, Token.spot, byteLength]
  | cons c cs inductionHypothesis =>
      by_cases isWord : isWordChar c = true
      · have open' : byteLength (c :: word) ≤ pos + c.utf8Size := by
          rw [byteLength]
          omega
        rcases (inductionHypothesis before (c :: word) _ open').2 (by simp) with
          ⟨more, rest, spots, rfl, letters, boundary, later, found⟩
        have letters' : ∀ d ∈ c :: more, isWordChar d = true := fun d membership =>
          (List.mem_cons.mp membership).elim (fun same => same ▸ isWord) (letters d)
        have later' : Reads (pos + byteLength (c :: more)) rest spots := by
          rw [byteLength, ← Nat.add_assoc]
          exact later
        rw [tokensFrom, if_pos isWord, found]
        constructor
        · rintro rfl
          have reads := Reads.word gap_nil (by simp) letters' boundary later'
          simpa [byteLength] using reads
        · intro nonempty
          refine ⟨c :: more, rest, spots, rfl, letters', boundary, later', ?_⟩
          congr 2
          · simp
          · rw [byteLength]
            omega
          · simp only [byteLength]
            omega
      · rcases inductionHypothesis (some c) [] (pos + c.utf8Size) (by simp [byteLength]) with ⟨empty, -⟩
        have reads : Reads pos (c :: cs)
            ((tokensFrom (some c) [] (pos + c.utf8Size) cs).map Token.spot) := by
          have isGap : Gap [c] := by simpa [Gap] using isWord
          exact (empty rfl).behind_gap isGap
        rw [tokensFrom, if_neg isWord]
        constructor
        · rintro rfl
          exact reads
        · intro nonempty
          refine ⟨[], c :: cs, _, rfl, fun d membership => absurd membership List.not_mem_nil, ?_,
            reads, ?_⟩
          · intro d head
            cases head
            simpa using isWord
          · simp [tokensFrom.token, nonempty, Token.spot, byteLength]

theorem reads_tokens (cs : List Char) : Reads 0 cs ((tokens cs).map Token.spot) :=
  (reads_tokensFrom none [] 0 cs (Nat.le_refl 0)).1 rfl

theorem exists_word_of_mem_tokens {cs : List Char} {t : Token} (membership : t ∈ tokens cs) :
    ∃ front word behind, cs = front ++ (word ++ behind) ∧ word ≠ [] ∧
      (∀ c ∈ word, isWordChar c = true) ∧ t.start = byteLength front ∧ t.size = byteLength word := by
  rcases (reads_tokens cs).exists_word (List.mem_map_of_mem membership) with
    ⟨front, word, behind, whole, nonempty, letters, start, size⟩
  exact ⟨front, word, behind, whole, nonempty, letters, start.trans (Nat.zero_add _), size⟩

/-! ## Parts of a text -/

/-- The words of a part that starts at one token and ends at another one are those of the tokens between,
also if more of the text follows. -/
theorem exists_span (cs : List Char) {p q : Nat} {first last : Token} (order : p ≤ q)
    (isFirst : (tokens cs)[p]? = some first) (isLast : (tokens cs)[q]? = some last) :
    ∃ front middle behind, cs = front ++ (middle ++ behind) ∧ byteLength front = first.start ∧
      byteLength (front ++ middle) = last.start + last.size ∧ Boundary behind ∧
      ∀ more, Boundary more →
        (((tokens cs).map (·.folded)).take (q + 1)).drop p <+: (tokens (middle ++ more)).map (·.folded) := by
  have spotAt {i : Nat} {t : Token} (there : (tokens cs)[i]? = some t) :
      ((tokens cs).map Token.spot)[i]? = some t.spot := by
    rw [List.getElem?_map, there]
    rfl
  rcases (reads_tokens cs).cut_stop (spotAt isLast) with ⟨upTo, behind, rfl, boundary, stop, reads⟩
  have kept : (((tokens (upTo ++ behind)).map Token.spot).take (q + 1))[p]? = some first.spot := by
    rw [List.getElem?_take_of_lt (Nat.lt_succ_of_le order)]
    exact spotAt isFirst
  rcases reads.cut_start kept with ⟨front, middle, rfl, start, reads'⟩
  refine ⟨front, middle, behind, by simp, ?_, ?_, boundary, fun more boundary' => ?_⟩
  · exact (start.trans (Nat.zero_add _)).symm
  · exact (stop.trans (Nat.zero_add _)).symm
  · rcases reads'.moved 0 with ⟨spots, moved, same⟩
    rcases (reads_tokens more).moved (0 + byteLength middle) with ⟨others, later, -⟩
    have all := (reads_tokens (middle ++ more)).unique (moved.append boundary' later)
    have folded : (tokens (middle ++ more)).map (·.folded) =
        spots.map (·.folded) ++ others.map (·.folded) := by
      rw [← List.map_append, ← all, List.map_map]
      rfl
    rw [folded, same]
    refine ⟨others.map (·.folded), ?_⟩
    simp [List.map_drop, List.map_take, Function.comp_def, Token.spot]

end SampleLibrary.FullText
