import SampleLibrary.Proofs.FullText.Tokens
import SampleLibrary.Proofs.Query.Meaning
import SampleLibrary.Proofs.Query.Placeholders

/-!
# The terms of a search expression

The texts that a query looks for become one search expression, in a language that has operators, phrases
and wildcards. What an expression says is told here without looking at how it came about: it is cut into
quoted runs and runs without spaces (`ReadsAs`), in one way only. An expression that is made for texts is
cut into one term for each of them, and a term says no more than its text (`StandsFor`): what is not quoted
is a word, and what is quoted cannot end the quote. So no text reaches the terms beside it, whatever
quotes, stars or names of operators it is made of (`one_term_for_each_text`).
-/

namespace SampleLibrary.Query

/-! ## Reading an expression -/

/-- A term of an expression: a run without spaces, or what is between two double quotes. -/
inductive SearchTerm where
  | word (run : List Char)
  | quoted (content : List Char)
  deriving Repr, DecidableEq

/-- The expression is cut into these terms. A quote at the start of a term opens a quoted run, which ends
at the next quote; every other term goes on up to the next space. -/
inductive ReadsAs : List Char → List SearchTerm → Prop where
  | done : ReadsAs [] []
  | space {rest : List Char} {terms : List SearchTerm} :
      ReadsAs rest terms → ReadsAs (' ' :: rest) terms
  | quoted {content rest : List Char} {terms : List SearchTerm} :
      '"' ∉ content → ReadsAs rest terms →
      ReadsAs ('"' :: (content ++ '"' :: rest)) (.quoted content :: terms)
  | word {run rest : List Char} {terms : List SearchTerm} :
      run ≠ [] → run.head? ≠ some '"' → ' ' ∉ run → (∀ c, rest.head? = some c → c = ' ') →
      ReadsAs rest terms → ReadsAs (run ++ rest) (.word run :: terms)

/-- A text is cut in one way only where a character comes for the first time. -/
theorem cut_at_unique {stop : Char} {front rest front' rest' : List Char} (free : stop ∉ front)
    (ends : ∀ c, rest.head? = some c → c = stop) (free' : stop ∉ front')
    (ends' : ∀ c, rest'.head? = some c → c = stop) (same : front ++ rest = front' ++ rest') :
    front = front' ∧ rest = rest' := by
  have inside {front : List Char} (free : stop ∉ front) (c : Char) (membership : c ∈ front) :
      (c != stop) = true := by
    rw [bne_iff_ne]
    rintro rfl
    exact free membership
  have outside {rest : List Char} (ends : ∀ c, rest.head? = some c → c = stop) (c : Char)
      (head : rest.head? = some c) : (c != stop) = false := by
    simp [ends c head]
  exact FullText.cut_unique (inside free) (outside ends) (inside free') (outside ends') same

namespace ReadsAs

variable {cs rest run content : List Char} {terms more : List SearchTerm}

/-! What an expression starts with says how it is read. -/

theorem of_nil (reads : ReadsAs [] terms) : terms = [] := by
  generalize same : [] = cs at reads
  cases reads with
  | done => rfl
  | space later => cases same
  | quoted closed later => cases same
  | word nonempty unquoted unbroken ends later =>
      exact absurd (List.append_eq_nil_iff.mp same.symm).1 nonempty

theorem of_space (reads : ReadsAs (' ' :: rest) terms) : ReadsAs rest terms := by
  generalize same : ' ' :: rest = cs at reads
  cases reads with
  | done => cases same
  | space later =>
      cases same
      exact later
  | quoted closed later => cases (List.cons_eq_cons.mp same).1
  | @word run rest' terms nonempty unquoted unbroken ends later =>
      cases run with
      | nil => exact absurd rfl nonempty
      | cons c run =>
          obtain ⟨rfl, -⟩ := List.cons_eq_cons.mp same
          exact absurd List.mem_cons_self unbroken

theorem of_quote (closed : '"' ∉ content) (reads : ReadsAs ('"' :: (content ++ '"' :: rest)) terms) :
    ∃ later, terms = .quoted content :: later ∧ ReadsAs rest later := by
  generalize same : '"' :: (content ++ '"' :: rest) = cs at reads
  cases reads with
  | done => cases same
  | space later => cases (List.cons_eq_cons.mp same).1
  | @quoted content' rest' terms closed' later =>
      obtain ⟨rfl, others⟩ := cut_at_unique closed (by simp) closed' (by simp) (List.cons_eq_cons.mp same).2
      cases others
      exact ⟨terms, rfl, later⟩
  | @word run rest' terms nonempty unquoted unbroken ends later =>
      cases run with
      | nil => exact absurd rfl nonempty
      | cons c run =>
          obtain ⟨rfl, -⟩ := List.cons_eq_cons.mp same
          exact absurd rfl unquoted

theorem of_word (nonempty : run ≠ []) (unquoted : run.head? ≠ some '"') (unbroken : ' ' ∉ run)
    (ends : ∀ c, rest.head? = some c → c = ' ') (reads : ReadsAs (run ++ rest) terms) :
    ∃ later, terms = .word run :: later ∧ ReadsAs rest later := by
  obtain ⟨first, others, rfl⟩ := List.exists_cons_of_ne_nil nonempty
  generalize same : first :: others ++ rest = cs at reads
  cases reads with
  | done => cases same
  | space later =>
      obtain ⟨rfl, -⟩ := List.cons_eq_cons.mp same
      exact absurd List.mem_cons_self unbroken
  | quoted closed later =>
      obtain ⟨rfl, -⟩ := List.cons_eq_cons.mp same
      exact absurd rfl unquoted
  | @word run' rest' terms nonempty' unquoted' unbroken' ends' later =>
      obtain ⟨rfl, rfl⟩ := cut_at_unique unbroken ends unbroken' ends' same
      exact ⟨terms, rfl, later⟩

/-- An expression is read in one way only. -/
theorem unique (reads : ReadsAs cs terms) (reads' : ReadsAs cs more) : terms = more := by
  induction reads generalizing more with
  | done => exact reads'.of_nil.symm
  | space later inductionHypothesis => exact inductionHypothesis reads'.of_space
  | quoted closed later inductionHypothesis =>
      obtain ⟨others, rfl, later'⟩ := reads'.of_quote closed
      rw [inductionHypothesis later']
  | word nonempty unquoted unbroken ends later inductionHypothesis =>
      obtain ⟨others, rfl, later'⟩ := reads'.of_word nonempty unquoted unbroken ends
      rw [inductionHypothesis later']

end ReadsAs

/-! ## The term for a text -/

/-- The text can be a term as it is: a word, with or without a star at its end, and no operator. -/
structure IsPlain (text : String) : Prop where
  stem : ∃ body, body ≠ [] ∧ (∀ c ∈ body, Text.isWord c = true) ∧
    (text.toList = body ∨ text.toList = body ++ ['*'])
  notOperator : text ≠ "AND" ∧ text ≠ "OR" ∧ text ≠ "NOT" ∧ text ≠ "NEAR"

/-- The term asks for the text and for nothing else. -/
def StandsFor (text : String) : SearchTerm → Prop
  | .word run => IsPlain text ∧ run = text.toList
  | .quoted content => ¬IsPlain text ∧ '"' ∉ content ∧ content = text.toList.filter (· != '"')

theorem isOperatorWord_eq_false {text : String} :
    isOperatorWord text = false ↔ text ≠ "AND" ∧ text ≠ "OR" ∧ text ≠ "NOT" ∧ text ≠ "NEAR" := by
  simp [isOperatorWord, and_assoc]

/-- A letter, a digit or an underscore is no sign of the language of expressions. -/
theorem ne_of_isWord {c : Char} (letter : Text.isWord c = true) : c ≠ ' ' ∧ c ≠ '"' ∧ c ≠ '*' := by
  refine ⟨?_, ?_, ?_⟩ <;>
  · rintro rfl
    revert letter
    decide +kernel

/-- A text stays as it is exactly if it is plain. -/
theorem searchTerm_eq (text : String) :
    (IsPlain text ∧ searchTerm text = text) ∨
      (¬IsPlain text ∧
        searchTerm text = String.ofList ('"' :: text.toList.filter (· != '"') ++ ['"'])) := by
  by_cases plain : IsPlain text
  · refine .inl ⟨plain, ?_⟩
    obtain ⟨body, nonempty, letters, whole⟩ := plain.stem
    have unstarred : body.getLast? ≠ some '*' := fun last =>
      (ne_of_isWord (letters '*' (List.mem_of_getLast? last))).2.2 rfl
    have stem : (if text.toList.getLast? == some '*' then text.toList.dropLast else text.toList) = body := by
      rcases whole with whole | whole
      · rw [whole, if_neg (by simpa using unstarred)]
      · rw [whole, if_pos (by simp), List.dropLast_concat]
    have isWord : body.all Text.isWord = true := List.all_eq_true.mpr letters
    unfold searchTerm
    dsimp only
    rw [stem, isWord, isOperatorWord_eq_false.mpr plain.notOperator, if_pos (by simpa using nonempty)]
  · refine .inr ⟨plain, ?_⟩
    unfold searchTerm
    dsimp only
    rw [if_neg]
    intro asIs
    simp only [Bool.and_eq_true, Bool.not_eq_true', List.isEmpty_eq_false_iff, List.all_eq_true,
      isOperatorWord_eq_false] at asIs
    obtain ⟨⟨nonempty, letters⟩, notOperator⟩ := asIs
    refine plain ⟨⟨_, nonempty, letters, ?_⟩, notOperator⟩
    split
    · next star =>
        rw [beq_iff_eq] at star
        exact .inr (List.dropLast_append_getLast? '*' star).symm
    · exact .inl rfl

/-- A term is read up to its end, as what stands for its text. -/
theorem exists_term (text : String) : ∃ term, StandsFor text term ∧
    ∀ rest terms, (∀ c, rest.head? = some c → c = ' ') → ReadsAs rest terms →
      ReadsAs ((searchTerm text).toList ++ rest) (term :: terms) := by
  rcases searchTerm_eq text with ⟨plain, asIs⟩ | ⟨notPlain, quoted⟩
  · refine ⟨.word text.toList, ⟨plain, rfl⟩, fun rest terms ends later => ?_⟩
    obtain ⟨body, nonempty, letters, whole⟩ := plain.stem
    obtain ⟨first, others, rfl⟩ := List.exists_cons_of_ne_nil nonempty
    have letter := ne_of_isWord (letters first List.mem_cons_self)
    have unbroken : ' ' ∉ first :: others := fun space => (ne_of_isWord (letters ' ' space)).1 rfl
    rw [asIs]
    refine .word ?_ ?_ ?_ ends later
    · rcases whole with whole | whole <;> simp [whole]
    · rcases whole with whole | whole <;> simpa [whole] using letter.2.1
    · rcases whole with whole | whole
      · rwa [whole]
      · rw [whole, List.mem_append, not_or]
        exact ⟨unbroken, by decide⟩
  · have closed : '"' ∉ text.toList.filter (· != '"') := by simp
    refine ⟨.quoted (text.toList.filter (· != '"')), ⟨notPlain, closed, rfl⟩,
      fun rest terms _ later => ?_⟩
    rw [quoted]
    simpa using ReadsAs.quoted closed later

/-- Joined terms are read one by one. -/
theorem exists_terms (texts : List String) :
    ∃ terms, List.Forall₂ StandsFor texts terms ∧
      ReadsAs (Text.join " " (texts.map searchTerm)).toList terms := by
  induction texts with
  | nil => exact ⟨[], .nil, .done⟩
  | cons text texts inductionHypothesis =>
      obtain ⟨terms, standFor, reads⟩ := inductionHypothesis
      obtain ⟨term, stands, goesOn⟩ := exists_term text
      refine ⟨term :: terms, .cons stands standFor, ?_⟩
      cases texts with
      | nil =>
          cases standFor
          simpa [Text.join] using goesOn [] [] (by simp) .done
      | cons next texts =>
          have joined : (Text.join " " ((text :: next :: texts).map searchTerm)).toList
              = (searchTerm text).toList ++ ' ' :: (Text.join " " ((next :: texts).map searchTerm)).toList := by
            simp [Text.join]
          rw [joined]
          exact goesOn _ _ (by simp) (.space reads)

/-! ## What is bound to MATCH -/

def Clause.matched (c : Clause) : List Value := (c.uses.filter (·.role == .matching)).map Use.value

/-- The values that are bound to the placeholders behind a MATCH. -/
def Statement.matched (s : Statement) : List Value := (s.uses.filter (·.role == .matching)).map Use.value

theorem Statement.matched_eq (s : Statement) : s.matched = s.clauses.flatMap Clause.matched := by
  rw [matched, uses, List.filter_flatMap, List.map_flatMap]
  rfl

theorem matched_fixedTest (t : FixedTest) :
    (t.bindings.filter fun binding => binding.1 == .matching) = [] := by rfl

theorem matched_customTest (t : CustomTest) :
    (t.bindings.filter fun binding => binding.1 == .matching) = [] := by
  unfold CustomTest.bindings
  cases t.value <;> rfl

theorem matched_tags (tags : List String) :
    ((tagBindings tags).filter fun binding => binding.1 == .matching) = [] := by
  rw [List.filter_eq_nil_iff]
  intro binding membership
  obtain ⟨place, inside, rfl⟩ := List.mem_mapIdx.mp membership
  simp

theorem Clause.matched_eq (c : Clause) :
    c.matched = (c.bindings.filter fun binding => binding.1 == .matching).map Prod.snd := by
  rw [matched, uses, List.filter_map, List.map_map]
  rfl

theorem matched_compareClause (number : Nat) (key : String) (op : Comparison) (value : String) :
    (compareClause number key op value).1.matched = [] := by
  rw [Clause.matched_eq]
  unfold compareClause
  cases Target.ofKey key with
  | fixed f => rfl
  | custom key => simp [Clause.bindings, matched_customTest]
  | either f key => simp [Clause.bindings, matched_customTest, matched_fixedTest]

theorem matched_compareClauses (number : Nat) (conditions : List Condition) :
    (compareClauses number conditions).flatMap Clause.matched = [] := by
  induction conditions generalizing number with
  | nil => rfl
  | cons condition conditions inductionHypothesis =>
      cases condition with
      | compare key op value =>
          rw [compareClauses, List.flatMap_cons, matched_compareClause, inductionHypothesis]
          rfl
      | tagged tag => exact inductionHypothesis number
      | untagged tag => exact inductionHypothesis number
      | text text => exact inductionHypothesis number

theorem matched_groupClauses {conditions : List Condition} {g : Group} (notText : g ≠ .text) :
    (groupClauses conditions g).flatMap Clause.matched = [] := by
  unfold groupClauses
  cases g with
  | text => exact absurd rfl notText
  | tagged =>
      dsimp only
      split
      · rfl
      · simp [Clause.matched_eq, Clause.bindings, matched_tags]
  | untagged =>
      dsimp only
      split
      · rfl
      · simp [Clause.matched_eq, Clause.bindings, matched_tags]

theorem nodup_foldl_add {seen new : List Group} (nodup : seen.Nodup) :
    (new.foldl (fun seen g => if seen.contains g then seen else seen ++ [g]) seen).Nodup := by
  induction new generalizing seen with
  | nil => exact nodup
  | cons g new inductionHypothesis =>
      rw [List.foldl_cons]
      refine inductionHypothesis ?_
      split
      · exact nodup
      · next fresh =>
          rw [List.contains_iff_mem] at fresh
          exact List.nodup_append.mpr ⟨nodup, List.nodup_singleton g, by grind⟩

theorem nodup_groups (conditions : List Condition) : (groups conditions).Nodup :=
  nodup_foldl_add List.nodup_nil

/-- All texts of a query are looked for by one expression. -/
theorem matched_statement {conditions : List Condition} (options : Options)
    (asksText : texts conditions ≠ []) :
    (statement conditions options).matched = [.text (expression conditions)] := by
  obtain ⟨text, isText⟩ := List.exists_mem_of_ne_nil _ asksText
  have there : Group.text ∈ groups conditions := mem_groups.mpr ⟨text, mem_texts.mp isText⟩
  obtain ⟨earlier, later, grouped⟩ := List.append_of_mem there
  have nodup := nodup_groups conditions
  have silent {gs : List Group} (others : Group.text ∉ gs) :
      (gs.flatMap (groupClauses conditions)).flatMap Clause.matched = [] := by
    rw [List.flatMap_assoc, List.flatMap_eq_nil_iff]
    intro g membership
    refine matched_groupClauses ?_
    rintro rfl
    exact others membership
  rw [grouped, List.nodup_middle, List.nodup_cons, List.mem_append, not_or] at nodup
  have scope : options.scope.clauses.flatMap Clause.matched = [] := by
    cases options.scope <;> rfl
  have clauses_eq : (statement conditions options).clauses = options.scope.clauses
      ++ compareClauses 0 conditions ++ (groups conditions).flatMap (groupClauses conditions) := by rfl
  rw [Statement.matched_eq, clauses_eq, List.flatMap_append, List.flatMap_append, scope,
    matched_compareClauses, grouped, List.flatMap_append, List.flatMap_cons, List.flatMap_append,
    List.flatMap_append, silent nodup.1.1, silent nodup.1.2, groupClauses_text]
  rfl

example : (statement [.text "kick*", .text "a\" OR \"b", .text "NOT"] {}).matched
    = [.text "kick* \"a OR b\" \"NOT\""] := by decide +kernel

/-- **Texts stay in their own terms.** One value is bound to MATCH for all the texts of a query. It is read
in one way only, as one term for each text, in order; and each term says no more than its text. -/
theorem one_term_for_each_text (conditions : List Condition) (options : Options)
    (asksText : texts conditions ≠ []) :
    ∃ matched terms, (statement conditions options).matched = [.text matched] ∧
      (∀ others, ReadsAs matched.toList others ↔ others = terms) ∧
      List.Forall₂ StandsFor (texts conditions) terms := by
  obtain ⟨terms, standFor, reads⟩ := exists_terms (texts conditions)
  refine ⟨expression conditions, terms, matched_statement options asksText, fun others => ?_, standFor⟩
  constructor
  · exact fun reads' => reads'.unique reads
  · rintro rfl
    exact reads

/-- Texts that try to reach beyond their own terms. -/
theorem hostile_texts :
    let conditions : List Condition :=
      [.text "kick*", .text "a\" OR \"b", .text "NOT", .text "name:x", .untagged "/a", .text "***"]
    texts conditions ≠ [] ∧
      ∃ matched terms, (statement conditions {}).matched = [.text matched] ∧
        (∀ others, ReadsAs matched.toList others ↔ others = terms) ∧
        List.Forall₂ StandsFor (texts conditions) terms :=
  ⟨by decide, one_term_for_each_text _ _ (by decide)⟩

end SampleLibrary.Query
