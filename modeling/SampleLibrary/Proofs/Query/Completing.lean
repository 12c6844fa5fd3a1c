import SampleLibrary.Proofs.FullText.Tokens
import SampleLibrary.Proofs.Query.Runs
import Mathlib.Data.List.Perm.Basic

/-!
# What a completion suggests

For each occurrence of the typed words in a document there is a span, the text from its first token to its
last one with the next word if it is asked for (`Completion.Spanned`). Spans are put together again from a
report that says which terms fall on which tokens. They are suggested if no two occurrences share a token
(`Completion.suggestions_exact`). If some do, as `a a` does in `a a a`, their terms stand between each
other: the spans are lost, and a token on which all terms fall is taken for a span.
-/

namespace SampleLibrary.Query

open FullText (Token Boundary)

/-! ## Entries in order -/

namespace Occurrence

/-- By place first, then by term. -/
def order : Occurrence → Occurrence → Ordering :=
  compareLex (compareOn offset) (compareLex (compareOn term)
    (compareLex (compareOn column) (compareOn size)))

instance : Std.TransCmp order := by
  unfold order
  infer_instance

instance : Std.LawfulEqCmp order where
  eq_of_compare {a b} same := by
    simp only [order, compareLex, compareOn, Ordering.then_eq_eq, Nat.compare_eq_eq] at same
    cases a
    cases b
    simp_all

theorem le_eq (a b : Occurrence) : le a b = (order a b).isLE := by
  unfold le order
  generalize compareLex _ _ a b = o
  cases o <;> rfl

theorem le_of_offset_lt {a b : Occurrence} (before : a.offset < b.offset) : le a b = true := by
  simp [le, compareLex, compareOn, Nat.compare_eq_lt.mpr before]

theorem le_of_term_lt {a b : Occurrence} (place : a.offset = b.offset) (before : a.term < b.term) :
    le a b = true := by
  simp [le, compareLex, compareOn, place, Nat.compare_eq_lt.mpr before]

/-- Entries in any order are sorted into the one list that is in order. -/
theorem mergeSort_eq {entries inOrder : List Occurrence} (same : entries.Perm inOrder)
    (ascending : inOrder.Pairwise fun a b => le a b = true) : entries.mergeSort le = inOrder := by
  have total (a b : Occurrence) : (le a b || le b a) = true := by
    have swapped : order b a = (order a b).swap := Std.OrientedCmp.eq_swap
    rw [le_eq, le_eq, swapped]
    cases order a b <;> rfl
  have trans (a b c : Occurrence) (first : le a b = true) (second : le b c = true) :
      le a c = true := by
    rw [le_eq] at first second ⊢
    exact Std.TransCmp.isLE_trans first second
  have antisymm (a b : Occurrence) (_ : a ∈ entries.mergeSort le) (_ : b ∈ inOrder)
      (first : le a b = true) (second : le b a = true) : a = b := by
    rw [le_eq] at first second
    exact Std.LawfulEqCmp.compare_eq_iff_eq.mp (Std.OrientedCmp.isLE_antisymm first second)
  exact List.Perm.eq_of_pairwise antisymm (List.pairwise_mergeSort trans total entries) ascending
    ((List.mergeSort_perm entries le).trans same)

end Occurrence

namespace Completion

variable {c : Completion} {content : List Char} {ts : List Token} {p : Nat}

/-! ## Occurrences -/

/-- Does a folded word fit the `k`-th typed word? The last one may go on, unless the next word is asked
for. -/
def fits (c : Completion) (k : Nat) (word : List Char) : Bool :=
  match c.words[k]? with
  | none => false
  | some typed =>
    let folded := typed.toList.map Text.asciiLower
    if k + 1 == c.words.length && !c.nextWord then folded.isPrefixOf word else folded == word

/-- Are the words from the `p`-th one on the typed words? -/
def occursAt (c : Completion) (words : List (List Char)) (p : Nat) : Bool :=
  (List.range c.words.length).all fun k => words[p + k]?.any (c.fits k)

/-- The tokens at which the typed words occur. -/
def places (c : Completion) (ts : List Token) : List Nat :=
  (List.range ts.length).filter (c.occursAt (ts.map (·.folded)))

/-- What is reported of the tokens: one entry for each term of each occurrence. -/
def entries (c : Completion) (ts : List Token) : List Occurrence :=
  (c.places ts).flatMap fun p => (List.range c.words.length).filterMap fun k =>
    ts[p + k]?.map fun t => ⟨t.start, k, 0, t.size⟩

/-- The text from one token on to the end of the last one of `count` tokens, with the next word if it is
asked for. -/
def span? (c : Completion) (content : List Char) (ts : List Token) (p count : Nat) :
    Option (List Char) := do
  let first ← ts[p]?
  let last ← ts[p + count - 1]?
  Text.slice? content first.start (c.stretch content (last.start + last.size))

/-- What is added from the text behind a span if the next word is asked for: the word, with the blanks in
front of it, unless there is none or it is a delimiter. -/
def nextPart (c : Completion) (behind : List Char) : List Char :=
  let blank := behind.takeWhile Text.isBlank
  let word := (behind.dropWhile Text.isBlank).takeWhile (!Text.isBlank ·)
  if !c.nextWord || word.isEmpty || word == FullText.delimiter.toList then [] else blank ++ word

/-- The text is the one from the start of the `p`-th token to the end of the last one for the typed words,
with the next word if it is asked for. -/
def Spanned (c : Completion) (content : List Char) (ts : List Token) (p : Nat) (span : List Char) :
    Prop :=
  ∃ first last front middle behind, ts[p]? = some first ∧ ts[p + c.words.length - 1]? = some last ∧
    content = front ++ (middle ++ behind) ∧ Text.byteLength front = first.start ∧
    Text.byteLength (front ++ middle) = last.start + last.size ∧ span = middle ++ c.nextPart behind

/-- A span with a delimiter in it is not suggested. -/
def shown (span : List Char) : Option String :=
  if Text.hasPiece FullText.delimiter.toList span then none else some (String.ofList span)

/-- Does no other occurrence share a token with the one that starts at `p`? -/
def isAlone (c : Completion) (ts : List Token) (p : Nat) : Bool :=
  (c.places ts).all fun q => q == p || (p + c.words.length ≤ q || q + c.words.length ≤ p)

/-- Do all terms of several typed words fall on the `p`-th token? -/
def isPiled (c : Completion) (ts : List Token) (p : Nat) : Bool :=
  2 ≤ c.words.length && (List.range c.words.length).all fun k =>
    k ≤ p && c.occursAt (ts.map (·.folded)) (p - k)

theorem occursAt_iff {words : List (List Char)} :
    c.occursAt words p = true ↔
      ∀ k < c.words.length, ∃ word, words[p + k]? = some word ∧ c.fits k word = true := by
  simp only [occursAt, List.all_eq_true, List.mem_range, Option.any_eq_true]

/-- All tokens of an occurrence are there. -/
theorem exists_token (here : c.occursAt (ts.map (·.folded)) p = true) {k : Nat}
    (bound : k < c.words.length) : ∃ t, ts[p + k]? = some t := by
  rcases occursAt_iff.mp here k bound with ⟨word, there, -⟩
  rw [List.getElem?_map, Option.map_eq_some_iff] at there
  rcases there with ⟨t, there, -⟩
  exact ⟨t, there⟩

theorem le_length_of_occursAt (positive : 0 < c.words.length)
    (here : c.occursAt (ts.map (·.folded)) p = true) : p + c.words.length ≤ ts.length := by
  rcases exists_token here (k := c.words.length - 1) (by omega) with ⟨t, there⟩
  have bound := (List.getElem?_eq_some_iff.mp there).1
  omega

theorem mem_places (positive : 0 < c.words.length) :
    p ∈ c.places ts ↔ c.occursAt (ts.map (·.folded)) p = true := by
  rw [places, List.mem_filter, List.mem_range, and_iff_right_iff_imp]
  intro here
  have bound := le_length_of_occursAt positive here
  omega

theorem isAlone_iff (positive : 0 < c.words.length) :
    c.isAlone ts p = true ↔ Alone c.words.length (c.occursAt (ts.map (·.folded))) p := by
  simp only [isAlone, List.all_eq_true, mem_places positive, Bool.or_eq_true, beq_iff_eq,
    decide_eq_true_eq, Alone, Apart, or_iff_not_imp_left]

theorem isPiled_iff :
    c.isPiled ts p = true ↔ Piled c.words.length (c.occursAt (ts.map (·.folded))) p := by
  simp only [isPiled, Bool.and_eq_true, decide_eq_true_eq, List.all_eq_true, List.mem_range, Piled]

/-- The entry of a token for a term. -/
def mark (ts : List Token) (p k : Nat) : Occurrence :=
  match ts[p]? with
  | some t => ⟨t.start, k, 0, t.size⟩
  | none => ⟨0, k, 0, 0⟩

theorem mark_term (ts : List Token) (p k : Nat) : (mark ts p k).term = k := by
  unfold mark
  split <;> rfl

theorem mark_of_getElem? {t : Token} (there : ts[p]? = some t) (k : Nat) :
    mark ts p k = ⟨t.start, k, 0, t.size⟩ := by
  simp [mark, there]

theorem mark_offset (ts : List Token) (p k k' : Nat) :
    (mark ts p k).offset = (mark ts p k').offset := by
  unfold mark
  split <;> rfl

/-! ## The report in order -/

/-- Tokens stand where they are in the text. -/
def Ascending (ts : List Token) : Prop := ts.Pairwise fun t t' => t.start < t'.start

theorem mark_offset_lt (ascending : Ascending ts) {q k k' : Nat} (before : p < q)
    (bound : q < ts.length) : (mark ts p k).offset < (mark ts q k').offset := by
  rw [mark_of_getElem? (List.getElem?_eq_getElem (Nat.lt_trans before bound)),
    mark_of_getElem? (List.getElem?_eq_getElem bound)]
  exact List.pairwise_iff_getElem.mp ascending p q _ bound before

section Report

variable {n : Nat} {occurs : Nat → Bool}

/-- A token with a term is there. -/
theorem lt_length_of_mem_termsAt (whole : ∀ q, occurs q = true → q + n ≤ ts.length) {k : Nat}
    (term : k ∈ termsAt n occurs p) : p < ts.length := by
  rcases mem_termsAt.mp term with ⟨bound, low, there⟩
  have room := whole _ there
  omega

theorem entriesFrom_ascending (ascending : Ascending ts)
    (whole : ∀ q, occurs q = true → q + n ≤ ts.length) (p count : Nat) :
    (entriesFrom n occurs (mark ts) p count).Pairwise fun a b =>
      a.offset < b.offset ∨ a.offset = b.offset ∧ a.term < b.term := by
  induction count generalizing p with
  | zero => exact .nil
  | succ count inductionHypothesis =>
      rw [entriesFrom, List.pairwise_append]
      refine ⟨?_, inductionHypothesis _, ?_⟩
      · refine List.pairwise_map.mpr (termsAt_ascending.imp fun {k k'} less => .inr ?_)
        rw [mark_term, mark_term]
        exact ⟨mark_offset ts p k k', less⟩
      · intro a here b later
        rcases List.mem_map.mp here with ⟨k, -, rfl⟩
        rcases mem_entriesFrom.mp later with ⟨q, low, -, k', term, rfl⟩
        exact .inl (mark_offset_lt ascending low (lt_length_of_mem_termsAt whole term))

end Report

theorem entries_eq (c : Completion) (ts : List Token) :
    c.entries ts =
      (c.places ts).flatMap fun p => (List.range c.words.length).map fun k => mark ts (p + k) k := by
  refine List.flatMap_congr fun p isPlace => ?_
  rw [← List.filterMap_eq_map]
  refine List.filterMap_congr fun k inRange => ?_
  rcases exists_token (List.mem_filter.mp isPlace).2 (List.mem_range.mp inRange) with ⟨t, there⟩
  simp [there, mark_of_getElem? there]

/-- The entries of a report, in order. -/
def inOrder (c : Completion) (ts : List Token) : List Occurrence :=
  entriesFrom c.words.length (c.occursAt (ts.map (·.folded))) (mark ts) 0 ts.length

theorem nodup_entries (ascending : Ascending ts) (c : Completion) : (c.entries ts).Nodup := by
  have differ {p q k : Nat} (less : p < q) (bound : q + k < ts.length) :
      mark ts (p + k) k ≠ mark ts (q + k) k := by
    intro same
    have offsets : (mark ts (p + k) k).offset < (mark ts (q + k) k).offset :=
      mark_offset_lt ascending (Nat.add_lt_add_right less k) bound
    rw [same] at offsets
    exact Nat.lt_irrefl _ offsets
  have present {p k : Nat} (isPlace : p ∈ c.places ts) (inRange : k ∈ List.range c.words.length) :
      p + k < ts.length := by
    rcases exists_token (List.mem_filter.mp isPlace).2 (List.mem_range.mp inRange) with ⟨t, there⟩
    exact (List.getElem?_eq_some_iff.mp there).1
  rw [entries_eq, List.nodup_flatMap]
  constructor
  · intro p _
    refine (List.nodup_range).map fun k k' same => ?_
    have terms := congrArg Occurrence.term same
    rwa [mark_term, mark_term] at terms
  · have distinct : (c.places ts).Nodup := List.nodup_range.filter _
    refine distinct.pairwise_of_forall_ne fun p isPlace q isPlace' other o here there => ?_
    rcases List.mem_map.mp here with ⟨k, inRange, rfl⟩
    rcases List.mem_map.mp there with ⟨k', inRange', same⟩
    have terms := congrArg Occurrence.term same
    rw [mark_term, mark_term] at terms
    subst terms
    rcases Nat.lt_or_gt_of_ne other with less | greater
    · exact differ less (present isPlace' inRange') same.symm
    · exact differ greater (present isPlace inRange) same

theorem entries_perm (positive : 0 < c.words.length) (ascending : Ascending ts) :
    (c.entries ts).Perm (c.inOrder ts) := by
  have whole : ∀ q, c.occursAt (ts.map (·.folded)) q = true → q + c.words.length ≤ ts.length :=
    fun q here => le_length_of_occursAt positive here
  have distinct : (c.inOrder ts).Nodup := by
    refine (entriesFrom_ascending ascending whole 0 ts.length).imp fun {a b} before same => ?_
    subst same
    omega
  refine (List.perm_ext_iff_of_nodup (nodup_entries ascending c) distinct).mpr fun o => ?_
  rw [entries_eq, inOrder, mem_entriesFrom, List.mem_flatMap]
  constructor
  · rintro ⟨p, isPlace, member⟩
    rcases List.mem_map.mp member with ⟨k, inRange, rfl⟩
    have here := (mem_places positive).mp isPlace
    have room := whole p here
    rw [List.mem_range] at inRange
    refine ⟨p + k, by omega, by omega, k, mem_termsAt.mpr ⟨inRange, by omega, ?_⟩, rfl⟩
    rw [Nat.add_sub_cancel]
    exact here
  · rintro ⟨q, -, -, k, term, rfl⟩
    rcases mem_termsAt.mp term with ⟨bound, low, here⟩
    refine ⟨q - k, (mem_places positive).mpr here, List.mem_map.mpr ⟨k, List.mem_range.mpr bound, ?_⟩⟩
    rw [Nat.sub_add_cancel low]

/-- Whatever order a report is in, its entries are read in order. -/
theorem mergeSort_of_perm (positive : 0 < c.words.length) (ascending : Ascending ts)
    {read : List Occurrence} (reported : read.Perm (c.entries ts)) :
    read.mergeSort Occurrence.le = c.inOrder ts := by
  refine Occurrence.mergeSort_eq (reported.trans (entries_perm positive ascending)) ?_
  refine (entriesFrom_ascending ascending (fun q here => le_length_of_occursAt positive here) 0
    ts.length).imp fun {a b} before => ?_
  rcases before with lower | ⟨same, lower⟩
  · exact Occurrence.le_of_offset_lt lower
  · exact Occurrence.le_of_term_lt same lower

/-! ## Suggestions -/

theorem suggestion?_of_not_isRun {os : List Occurrence} (no : isRun c.words.length os = false) :
    c.suggestion? content os = none := by
  unfold suggestion?
  cases first : (os.take c.words.length).head? with
  | none => simp [first]
  | some a =>
      cases last : (os.take c.words.length).getLast? with
      | none => simp [first, last]
      | some b =>
          unfold isRun at no
          simp only [first, last, no, bind, Option.bind_some, Bool.false_eq_true, if_false]

/-- A run stands for the text from its first token to its last one. -/
theorem suggestion?_of_take {os : List Occurrence} {f : Nat → Occurrence}
    (positive : 0 < c.words.length) (terms : ∀ k, (f k).term = k)
    (taken : os.take c.words.length = (List.range' 0 c.words.length).map f) :
    c.suggestion? content os =
      (Text.slice? content (f 0).offset (c.stretch content (((f (c.words.length - 1)).offset +
        (f (c.words.length - 1)).size) % UInt64.size))).bind shown := by
  have run : isRun c.words.length os = true := by
    rw [isRun, taken, inTurn_map 0 _ terms]
    simp
  have first : (os.take c.words.length).head? = some (f 0) := by
    rw [taken, List.head?_map, List.head?_range', if_neg (Nat.ne_of_gt positive)]
    rfl
  have last : (os.take c.words.length).getLast? = some (f (c.words.length - 1)) := by
    rw [taken, List.getLast?_map, List.getLast?_range', if_neg (Nat.ne_of_gt positive)]
    simp
  unfold isRun at run
  unfold suggestion? shown
  simp only [first, last, run, bind, Option.bind_some, if_true]

theorem suggestion?_of_ne_zero (positive : 0 < c.words.length) {o : Occurrence}
    {os : List Occurrence} (other : o.term ≠ 0) : c.suggestion? content (o :: os) = none := by
  apply suggestion?_of_not_isRun
  rcases Nat.exists_eq_succ_of_ne_zero (Nat.ne_of_gt positive) with ⟨n, length⟩
  rw [isRun, length, List.take_succ_cons, inTurn]
  simp [other]

/-- What is suggested for the occurrence at a token: its span, if no other occurrence shares a token with
it. Where all terms fall on the token, the token is taken for the span. -/
def suggested? (c : Completion) (content : List Char) (ts : List Token) (p : Nat) : Option String :=
  if c.isAlone ts p then (c.span? content ts p c.words.length).bind shown
  else if c.isPiled ts p then (c.span? content ts p 1).bind shown
  else none

theorem span?_eq {q count : Nat} {first last : Token} (isFirst : ts[p]? = some first)
    (isLast : ts[q]? = some last) (same : p + count - 1 = q) (bound : last.start + last.size < UInt64.size) :
    c.span? content ts p count =
      Text.slice? content first.start (c.stretch content ((last.start + last.size) % UInt64.size)) := by
  rw [Nat.mod_eq_of_lt bound]
  simp [span?, isFirst, same, isLast]

theorem suggestion?_entriesFrom (positive : 0 < c.words.length)
    (bounded : ∀ t ∈ ts, t.start + t.size < UInt64.size)
    (here : c.occursAt (ts.map (·.folded)) p = true) {count : Nat} (enough : c.words.length ≤ count) :
    c.suggestion? content
        (entriesFrom c.words.length (c.occursAt (ts.map (·.folded))) (mark ts) p count) =
      c.suggested? content ts p := by
  rcases exists_token here positive with ⟨first, isFirst⟩
  rw [Nat.add_zero] at isFirst
  rcases exists_token here (k := c.words.length - 1) (by omega) with ⟨last, isLast⟩
  unfold suggested?
  by_cases alone : c.isAlone ts p = true
  · have taken : (entriesFrom c.words.length (c.occursAt (ts.map (·.folded))) (mark ts) p count).take
        c.words.length = (List.range' 0 c.words.length).map fun k => mark ts (p + k) k :=
      take_entriesFrom_of_alone ((isAlone_iff positive).mp alone) here (Nat.zero_add _) enough
    rw [if_pos alone, suggestion?_of_take positive (fun k => mark_term ts _ k) taken, Nat.add_zero,
      mark_of_getElem? isFirst, mark_of_getElem? isLast,
      span?_eq isFirst isLast (by omega) (bounded last (List.mem_of_getElem? isLast))]
  · rw [if_neg alone]
    by_cases piled : c.isPiled ts p = true
    · have taken : (entriesFrom c.words.length (c.occursAt (ts.map (·.folded))) (mark ts) p count).take
          c.words.length = (List.range' 0 c.words.length).map (mark ts p) :=
        take_entriesFrom_of_piled (isPiled_iff.mp piled) (by omega)
      rw [if_pos piled, suggestion?_of_take positive (mark_term ts p) taken,
        mark_of_getElem? isFirst, mark_of_getElem? isFirst,
        span?_eq isFirst isFirst (by omega) (bounded first (List.mem_of_getElem? isFirst))]
    · rw [if_neg piled]
      apply suggestion?_of_not_isRun
      rw [← Bool.not_eq_true, isRun_iff here positive enough (mark_term ts)]
      rw [isAlone_iff positive] at alone
      rw [isPiled_iff] at piled
      exact fun run => run.elim alone piled

/-- The suggestions from a document, whatever occurs in it. -/
theorem suggestions_eq (positive : 0 < c.words.length) (ascending : Ascending ts)
    (bounded : ∀ t ∈ ts, t.start + t.size < UInt64.size) {report content : String}
    (reported : (Occurrence.read report).Perm (c.entries ts)) :
    c.suggestions report content = (c.places ts).filterMap (c.suggested? content.toList ts) := by
  have sorted := mergeSort_of_perm positive ascending reported
  rw [suggestions, sorted, inOrder, filterMap_tails positive (mark_term ts)
    (fun o os other => suggestion?_of_ne_zero positive other), places, List.filterMap_filter,
    List.range_eq_range']
  refine List.filterMap_congr fun p _ => ?_
  by_cases here : c.occursAt (ts.map (·.folded)) p = true
  · have room := le_length_of_occursAt positive here
    rw [if_pos here, if_pos here, suggestion?_entriesFrom positive bounded here (by omega)]
  · rw [if_neg here, if_neg here]

/-! ## Documents -/

theorem ascending_tokens (cs : List Char) : Ascending (FullText.tokens cs) := by
  have ascending := (FullText.reads_tokens cs).ascending.2
  rw [List.pairwise_map] at ascending
  exact ascending

theorem stop_le_of_mem_tokens {cs : List Char} {t : Token} (membership : t ∈ FullText.tokens cs) :
    t.start + t.size ≤ Text.byteLength cs := by
  have inside := ((FullText.reads_tokens cs).ascending.1 t.spot (List.mem_map_of_mem membership)).2
  rwa [Nat.zero_add] at inside

/-- A completion is made of the last word of a text. The word is not ended by a blank, it asks for no tag
or comparison, and it has words to look for. -/
theorem ofText?_eq_some {text : String} (completes : ofText? text = some c) :
    ∃ last, (scan text).words.getLast? = some last ∧
      ((scan text).fault = some .unterminatedQuote ∨ endsBlank text = false) ∧
      isFinished last.value = false ∧ FullText.words last.value ≠ [] ∧
      c = {
        base := parse (textBefore text last.start), text, start := last.start, typed := last.value
        words := FullText.words last.value
        quoted := (scan text).fault == some .unterminatedQuote
        nextWord := (scan text).fault == some .unterminatedQuote && endsBlank last.value } := by
  unfold ofText? at completes
  dsimp only at completes
  split at completes
  · cases completes
  · rename_i open'
    split at completes
    · cases completes
    · rename_i last isLast
      split at completes
      · cases completes
      · rename_i goesOn
        cases completes
        rw [Bool.not_eq_true, Bool.or_eq_false_iff] at open' goesOn
        refine ⟨last, isLast, ?_, goesOn.1, by simpa using goesOn.2, rfl⟩
        by_cases quoted : (scan text).fault = some .unterminatedQuote
        · exact .inl quoted
        · exact .inr (by simpa [quoted] using open'.2)

theorem words_of_ofText? {text : String} (completes : ofText? text = some c) :
    0 < c.words.length := by
  rcases ofText?_eq_some completes with ⟨last, -, -, -, words, rfl⟩
  exact List.length_pos_iff.mpr words

theorem nextPart_prefix (c : Completion) (behind : List Char) : c.nextPart behind <+: behind := by
  unfold nextPart
  dsimp only
  split
  · exact List.nil_prefix
  · refine ⟨(behind.dropWhile Text.isBlank).dropWhile (!Text.isBlank ·), ?_⟩
    rw [List.append_assoc, List.takeWhile_append_dropWhile, List.takeWhile_append_dropWhile]

theorem stretch_append (c : Completion) (front behind : List Char) :
    c.stretch (front ++ behind) (Text.byteLength front) =
      Text.byteLength front + Text.byteLength (c.nextPart behind) := by
  unfold stretch nextPart
  rw [Text.dropBytes?_append]
  by_cases next : c.nextWord = true
  · rw [if_neg (by simpa using next)]
    dsimp only
    split
    · rename_i nothing
      rw [if_pos (by simpa [next] using nothing)]
      rfl
    · rename_i something
      rw [if_neg (by simpa [next] using something), Text.byteLength_append, Nat.add_assoc]
  · rw [Bool.not_eq_true] at next
    simp [next, Text.byteLength]

/-- What the typed words span in a document is there, and it starts with them. -/
theorem exists_span_of_occursAt (positive : 0 < c.words.length) {content : String}
    (here : c.occursAt ((FullText.indexed content).map (·.folded)) p = true) :
    ∃ span, c.span? content.toList (FullText.indexed content) p c.words.length = some span ∧
      c.Spanned content.toList (FullText.indexed content) p span ∧
      c.occursAt ((FullText.tokens span).map (·.folded)) 0 = true := by
  have lastPlace : p + c.words.length - 1 = p + (c.words.length - 1) := by omega
  rcases exists_token here positive with ⟨first, isFirst⟩
  rw [Nat.add_zero] at isFirst
  rcases exists_token here (k := c.words.length - 1) (by omega) with ⟨last, isLast⟩
  rcases FullText.exists_span _ (Nat.le_add_right p (c.words.length - 1)) isFirst isLast with
    ⟨front, middle, behind, read, start, stop, boundary, starts⟩
  -- the index reads up to a NUL, which is no part of a word
  have whole : content.toList =
      front ++ (middle ++ (behind ++ content.toList.dropWhile (· != '\x00'))) := by
    rw [← List.append_assoc middle, ← List.append_assoc, ← read, List.takeWhile_append_dropWhile]
  have cut : Boundary (content.toList.dropWhile (· != '\x00')) := by
    intro c head
    have isNul := List.head?_dropWhile_not (· != '\x00') content.toList
    rw [head] at isNul
    have same : c = '\x00' := by simpa using isNul
    rw [same]
    decide
  generalize content.toList.dropWhile (· != '\x00') = unread at whole cut
  rcases c.nextPart_prefix (behind ++ unread) with ⟨rest, parts⟩
  refine ⟨middle ++ c.nextPart (behind ++ unread), ?_, ?_, ?_⟩
  · have stretched := c.stretch_append (front ++ middle) (behind ++ unread)
    rw [List.append_assoc, ← whole] at stretched
    have same : content.toList = front ++ (middle ++ c.nextPart (behind ++ unread) ++ rest) := by
      rw [List.append_assoc, parts]
      exact whole
    rw [span?, isFirst, lastPlace, isLast]
    dsimp only [bind, Option.bind_some]
    rw [← stop, ← start, stretched, same, Text.byteLength_append, Nat.add_assoc, ← Text.byteLength_append]
    exact Text.slice?_append front _ rest
  · exact ⟨first, last, front, middle, behind ++ unread, isFirst, lastPlace ▸ isLast, whole, start, stop,
      rfl⟩
  · have boundary' : Boundary (c.nextPart (behind ++ unread)) := by
      have both := boundary.append cut
      rw [← parts] at both
      exact both.of_prefix
    rcases starts _ boundary' with ⟨others, words⟩
    refine occursAt_iff.mpr fun k bound => ?_
    rcases occursAt_iff.mp here k bound with ⟨word, there, fits⟩
    refine ⟨word, ?_, fits⟩
    have inside : ((((FullText.indexed content).map (·.folded)).take (p + (c.words.length - 1) + 1)).drop
        p)[k]? = some word := by
      rw [List.getElem?_drop, List.getElem?_take_of_lt (by omega), there]
    unfold FullText.indexed at inside
    rw [← words, Nat.zero_add, List.getElem?_append_left (List.getElem?_eq_some_iff.mp inside).1]
    exact inside

/-- What comes of a report that has one entry for each typed word of each occurrence. For every occurrence
there is a span that starts with the typed words. It is suggested, unless a delimiter stands in it, if no
other occurrence shares a token with it. So if no two occurrences share a token, the suggestions are exactly
the spans, and each of them starts with the typed words. -/
theorem suggestions_exact {text report content : String} (completes : ofText? text = some c)
    (indexed : FullText.indexed content = ts) (bounded : Text.byteLength content.toList < UInt64.size)
    (reported : (Occurrence.read report).Perm (c.entries ts)) :
    c.suggestions report content = (c.places ts).filterMap (c.suggested? content.toList ts) ∧
      (∀ p ∈ c.places ts, ∃ span, c.span? content.toList ts p c.words.length = some span ∧
        c.Spanned content.toList ts p span ∧
        c.occursAt ((FullText.tokens span).map (·.folded)) 0 = true) ∧
      ((∀ p ∈ c.places ts, c.isAlone ts p = true) →
        c.suggestions report content = (c.places ts).filterMap (fun p =>
            (c.span? content.toList ts p c.words.length).bind shown) ∧
          ∀ s ∈ c.suggestions report content,
            c.occursAt ((FullText.tokens s.toList).map (·.folded)) 0 = true) := by
  subst indexed
  have positive := words_of_ofText? completes
  have bounds : ∀ t ∈ FullText.indexed content, t.start + t.size < UInt64.size := by
    intro t membership
    have inside := stop_le_of_mem_tokens membership
    have shorter : Text.byteLength (content.toList.takeWhile (· != '\x00')) ≤
        Text.byteLength content.toList := by
      conv => rhs; rw [← List.takeWhile_append_dropWhile (p := (· != '\x00')) (l := content.toList)]
      rw [Text.byteLength_append]
      exact Nat.le_add_right _ _
    omega
  have all : c.suggestions report content = (c.places (FullText.indexed content)).filterMap
      (c.suggested? content.toList (FullText.indexed content)) :=
    suggestions_eq positive (ascending_tokens _) bounds reported
  have spans (p : Nat) (isPlace : p ∈ c.places (FullText.indexed content)) :=
    exists_span_of_occursAt positive ((mem_places positive).mp isPlace)
  refine ⟨all, spans, fun apart => ?_⟩
  have exactly : c.suggestions report content = (c.places (FullText.indexed content)).filterMap (fun p =>
      (c.span? content.toList (FullText.indexed content) p c.words.length).bind shown) := by
    rw [all]
    refine List.filterMap_congr fun p isPlace => ?_
    rw [suggested?, if_pos (apart p isPlace)]
  refine ⟨exactly, fun s suggested => ?_⟩
  rw [exactly] at suggested
  rcases List.mem_filterMap.mp suggested with ⟨p, isPlace, isShown⟩
  rcases spans p isPlace with ⟨span, there, -, starts⟩
  rw [there, Option.bind_some, shown] at isShown
  split at isShown
  · cases isShown
  · cases isShown
    rw [String.toList_ofList]
    exact starts

def deepText : String := "?house \"deep ho"

def deepContent : String := "deep house ~~~ so deep ~~~ hole ~~~ Deep Hole ~~~"

/-- Three occurrences, the last one first. -/
def deepReport : String := "0 0 36 4 0 1 41 4 0 0 0 4 0 1 5 5 0 0 18 4 0 1 27 4"

theorem deep_reported :
    ((ofText? deepText).any fun c =>
      (Occurrence.read deepReport).isPerm (c.entries (FullText.indexed deepContent))
        && (c.places (FullText.indexed deepContent)).all (c.isAlone (FullText.indexed deepContent))
        && ((c.places (FullText.indexed deepContent)).filterMap fun p =>
          (c.span? deepContent.toList (FullText.indexed deepContent) p c.words.length).bind shown) ==
            ["deep house", "Deep Hole"]) = true := by
  decide +kernel

/-- Two of three occurrences are suggested, as there is a delimiter in the other one. -/
theorem deep_suggestions_exact :
    ∃ c ts, ofText? deepText = some c ∧ FullText.indexed deepContent = ts ∧
      Text.byteLength deepContent.toList < UInt64.size ∧
      (Occurrence.read deepReport).Perm (c.entries ts) ∧
      (∀ p ∈ c.places ts, c.isAlone ts p = true) ∧
      c.suggestions deepReport deepContent = ["deep house", "Deep Hole"] ∧
      (∀ p ∈ c.places ts, ∃ span, c.span? deepContent.toList ts p c.words.length = some span ∧
        c.Spanned deepContent.toList ts p span ∧
        c.occursAt ((FullText.tokens span).map (·.folded)) 0 = true) ∧
      ∀ s ∈ c.suggestions deepReport deepContent,
        c.occursAt ((FullText.tokens s.toList).map (·.folded)) 0 = true := by
  rcases (Option.any_eq_true _ _).mp deep_reported with ⟨c, completes, facts⟩
  simp only [Bool.and_eq_true, beq_iff_eq, List.all_eq_true] at facts
  rcases facts with ⟨⟨reported, alone⟩, spans⟩
  have bounded : Text.byteLength deepContent.toList < UInt64.size := by decide
  have perm := List.isPerm_iff.mp reported
  rcases suggestions_exact completes rfl bounded perm with ⟨-, there, apart⟩
  rcases apart alone with ⟨exactly, starts⟩
  exact ⟨c, _, completes, rfl, bounded, perm, alone, exactly.trans spans, there, starts⟩

/-- The letter twice; both occurrences share the second token. -/
theorem echo_reported :
    ((ofText? "\"a a").any fun c =>
      let ts := FullText.indexed "a a a ~~~"
      (Occurrence.read "0 0 0 1 0 1 2 1 0 0 2 1 0 1 4 1").isPerm (c.entries ts)
        && (c.places ts).filterMap (c.suggested? "a a a ~~~".toList ts) == ["a"]
        && ((c.places ts).filterMap fun p =>
          (c.span? "a a a ~~~".toList ts p c.words.length).bind shown) == ["a a", "a a"]) = true := by
  decide +kernel

/-- Neither of the two spans is suggested, but the token that they share. -/
theorem echo_missed :
    ∃ c ts, ofText? "\"a a" = some c ∧ FullText.indexed "a a a ~~~" = ts ∧
      Text.byteLength "a a a ~~~".toList < UInt64.size ∧
      (Occurrence.read "0 0 0 1 0 1 2 1 0 0 2 1 0 1 4 1").Perm (c.entries ts) ∧
      ((c.places ts).filterMap fun p =>
        (c.span? "a a a ~~~".toList ts p c.words.length).bind shown) = ["a a", "a a"] ∧
      c.suggestions "0 0 0 1 0 1 2 1 0 0 2 1 0 1 4 1" "a a a ~~~" = ["a"] ∧
      c.occursAt ((FullText.tokens "a".toList).map (·.folded)) 0 = false := by
  rcases (Option.any_eq_true _ _).mp echo_reported with ⟨c, completes, facts⟩
  simp only [Bool.and_eq_true, beq_iff_eq] at facts
  rcases facts with ⟨⟨reported, suggested⟩, spans⟩
  have bounded : Text.byteLength "a a a ~~~".toList < UInt64.size := by decide
  have perm := List.isPerm_iff.mp reported
  have found : c.suggestions "0 0 0 1 0 1 2 1 0 0 2 1 0 1 4 1" "a a a ~~~" = ["a"] :=
    (suggestions_eq (words_of_ofText? completes) (ascending_tokens _) (by decide) perm).trans
      suggested
  have short : ((ofText? "\"a a").all fun c =>
      !c.occursAt ((FullText.tokens "a".toList).map (·.folded)) 0) = true := by decide +kernel
  rw [completes] at short
  exact ⟨c, _, completes, rfl, bounded, perm, spans, found, by simpa using short⟩

end Completion

end SampleLibrary.Query
