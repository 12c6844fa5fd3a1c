import Mathlib.Data.List.Induction
import SampleLibrary.Proofs.Query.Quoting

/-!
# The grammar of words

What the words of a query are can be told without reading it from left to right: a word is put together
from parts, each of which stands for some characters (`Part`), and words are kept apart by separators
(`WordsOf`). A text is of this kind, or it ends in a backslash that escapes nothing, or it ends inside a
quote (`told`). Reading it finds out which of the three it is, and it finds the words in the first case
(`split_iff`).
-/

namespace SampleLibrary.Query

/-! ## The grammar -/

/-- Between double quotes, `written` stands for `value`. A backslash escapes a quote or a backslash; before
any other character, both stand for themselves. -/
inductive Quoted : (written value : List Char) → Prop where
  | nil : Quoted [] []
  | plain {c : Char} {written value : List Char} :
      c ≠ '"' → c ≠ '\\' → Quoted written value → Quoted (c :: written) (c :: value)
  | escaped {c : Char} {written value : List Char} :
      c = '"' ∨ c = '\\' → Quoted written value → Quoted ('\\' :: c :: written) (c :: value)
  | lone {c : Char} {written value : List Char} :
      c ≠ '"' → c ≠ '\\' → Quoted written value → Quoted ('\\' :: c :: written) ('\\' :: c :: value)

/-- A part of a word: a character that means nothing special, an escaped one, or what is between two
quotes. -/
inductive Part : (written value : List Char) → Prop where
  | bare {c : Char} : isSeparator c = false → isQuoting c = false → Part [c] [c]
  | escaped (c : Char) : Part ['\\', c] [c]
  | single {inside : List Char} : '\'' ∉ inside → Part ('\'' :: (inside ++ ['\''])) inside
  | double {inside value : List Char} : Quoted inside value → Part ('"' :: (inside ++ ['"'])) value

/-- A word has one part or more. -/
inductive WordFor : (written value : List Char) → Prop where
  | last {written value : List Char} : Part written value → WordFor written value
  | more {written value written' value' : List Char} :
      Part written value → WordFor written' value' → WordFor (written ++ written') (value ++ value')

/-- A text of separators and words, and what its words stand for. A word is as long as it can be: a separator
follows, or the text ends. -/
inductive WordsOf : (text : List Char) → (values : List (List Char)) → Prop where
  | nil : WordsOf [] []
  | separator {c : Char} {text : List Char} {values : List (List Char)} :
      isSeparator c = true → WordsOf text values → WordsOf (c :: text) values
  | last {written value : List Char} : WordFor written value → WordsOf written [value]
  | word {written value text : List Char} {c : Char} {values : List (List Char)} :
      WordFor written value → isSeparator c = true → WordsOf text values →
      WordsOf (written ++ c :: text) (value :: values)

/-- The text ends in a backslash outside of quotes that escapes nothing. -/
def EndsInEscape (text : List Char) : Prop :=
  ∃ front values, WordsOf front values ∧ text = front ++ ['\\']

/-- Nothing closes a double quote before the end of the text: every quote is escaped, and the last backslash
may have nothing behind it. -/
def Unclosed (inside : List Char) : Prop :=
  ∃ front value, Quoted front value ∧ (inside = front ∨ inside = front ++ ['\\'])

/-- The text ends inside a quote. -/
def EndsInQuote (text : List Char) : Prop :=
  ∃ front values inside, WordsOf front values ∧
    (('\'' ∉ inside ∧ text = front ++ '\'' :: inside) ∨
      (Unclosed inside ∧ text = front ++ '"' :: inside))

/-! ## Reading what the grammar makes -/

/-- Between double quotes, a character that is nothing special is taken up. -/
theorem scanFrom_double_plain {c : Char} (notQuote : c ≠ '"') (notBackslash : c ≠ '\\') (w : OpenWord)
    (pos : Nat) (rest : List Char) :
    scanFrom (.double w) pos (c :: rest) = scanFrom (.double (w.push c)) (pos + c.utf8Size) rest := by
  rw [scanFrom.eq_def]
  simp [notQuote, notBackslash]

theorem Quoted.scanFrom {written value : List Char} (quoted : Quoted written value) (w : OpenWord)
    (pos : Nat) (rest : List Char) :
    scanFrom (.double w) pos (written ++ rest) =
      scanFrom (.double (w.extend value)) (pos + Text.byteLength written) rest := by
  induction quoted generalizing w pos with
  | nil => rfl
  | plain notQuote notBackslash _ inductionHypothesis =>
      rw [List.cons_append, scanFrom_double_plain notQuote notBackslash, inductionHypothesis,
        OpenWord.extend_cons, Text.byteLength, Nat.add_assoc]
  | escaped isEscaped _ inductionHypothesis =>
      rw [List.cons_append, List.cons_append, Query.scanFrom.eq_def]
      simp only [show ('\\' == '"') = false from rfl, Bool.false_eq_true, if_false, BEq.rfl, if_true,
        Bool.or_eq_true, beq_iff_eq, if_pos isEscaped]
      rw [inductionHypothesis, OpenWord.extend_cons, Text.byteLength, Text.byteLength, Nat.add_assoc,
        Nat.add_assoc]
  | lone notQuote notBackslash _ inductionHypothesis =>
      rw [List.cons_append, List.cons_append, Query.scanFrom.eq_def]
      simp only [show ('\\' == '"') = false from rfl, Bool.false_eq_true, if_false, BEq.rfl, if_true,
        Bool.or_eq_true, beq_iff_eq, notQuote, notBackslash, or_self]
      rw [scanFrom_double_plain notQuote notBackslash, inductionHypothesis, OpenWord.extend_cons,
        OpenWord.extend_cons, Text.byteLength, Text.byteLength, Nat.add_assoc, Nat.add_assoc]

theorem scanFrom_single {inside : List Char} (open' : '\'' ∉ inside) (w : OpenWord) (pos : Nat)
    (rest : List Char) :
    scanFrom (.single w) pos (inside ++ rest) =
      scanFrom (.single (w.extend inside)) (pos + Text.byteLength inside) rest := by
  induction inside generalizing w pos with
  | nil => rfl
  | cons c inside inductionHypothesis =>
      rw [List.mem_cons, not_or] at open'
      have notQuote : c ≠ '\'' := Ne.symm open'.1
      rw [List.cons_append, Query.scanFrom.eq_def]
      simp only [beq_iff_eq, notQuote, if_false]
      rw [inductionHypothesis open'.2, OpenWord.extend_cons, Text.byteLength, Nat.add_assoc]

/-- A part of a word stands for what the grammar says. -/
theorem Part.spells {written value : List Char} (part : Part written value) : Spells written value := by
  cases part with
  | @bare c notSeparator notQuoting =>
      apply Spells.plain
      intro d membership
      cases List.mem_singleton.mp membership
      exact ⟨notSeparator, notQuoting⟩
  | escaped c =>
      intro w pos rest
      rw [List.cons_append, List.cons_append, Query.scanFrom.eq_def]
      simp [isSeparator, OpenWord.extend, OpenWord.push, Text.byteLength, Nat.add_assoc]
  | @single inside open' =>
      intro w pos rest
      rw [List.cons_append, List.append_assoc, Query.scanFrom.eq_def]
      simp only [show isSeparator '\'' = false from rfl, Bool.false_eq_true, if_false, BEq.rfl, if_true,
        Option.getD_some]
      rw [scanFrom_single open', List.cons_append, Query.scanFrom.eq_def]
      simp [Text.byteLength, Text.byteLength_append, Nat.add_assoc]
  | @double inside value quoted =>
      intro w pos rest
      rw [List.cons_append, List.append_assoc, Query.scanFrom.eq_def]
      simp only [show isSeparator '"' = false from rfl, show ('"' == '\'') = false from rfl,
        Bool.false_eq_true, if_false, BEq.rfl, if_true, Option.getD_some]
      rw [quoted.scanFrom, List.cons_append, Query.scanFrom.eq_def]
      simp [Text.byteLength, Text.byteLength_append, Nat.add_assoc]

/-- A word stands for what the grammar says, and it does not start with a separator. -/
theorem WordFor.writesWord {written value : List Char} (word : WordFor written value) :
    WritesWord written value := by
  have starts : ∀ {written value : List Char}, Part written value →
      ∃ c, written.head? = some c ∧ isSeparator c = false := by
    intro written value part
    cases part with
    | bare notSeparator _ => exact ⟨_, rfl, notSeparator⟩
    | escaped | single | double => exact ⟨_, rfl, rfl⟩
  induction word with
  | last part => exact ⟨part.spells, starts part⟩
  | more part _ inductionHypothesis =>
      exact WritesWord.append ⟨part.spells, starts part⟩ inductionHypothesis.spells

/-- The scan of what comes behind some words. -/
def Scan.after (done : List Word) (s : Scan) : Scan := { s with words := done ++ s.words }

/-- Behind a text of words, some words are done, and one may still go on. -/
theorem WordsOf.scanFrom {text : List Char} {values : List (List Char)} (words : WordsOf text values)
    (pos : Nat) :
    ∃ done w pos', (done ++ (w.map OpenWord.toWord).toList).map (·.value.toList) = values ∧
      ∀ rest, scanFrom (.bare none) pos (text ++ rest) = (scanFrom (.bare w) pos' rest).after done := by
  induction words generalizing pos with
  | nil => exact ⟨[], none, pos, rfl, fun rest => rfl⟩
  | @separator c text values separator _ inductionHypothesis =>
      rcases inductionHypothesis (pos + c.utf8Size) with ⟨done, w, pos', read, scanned⟩
      refine ⟨done, w, pos', read, fun rest => ?_⟩
      rw [List.cons_append, Query.scanFrom]
      simp only [separator, if_true, scanned]
      rfl
  | @last written value word =>
      refine ⟨[], some ⟨pos, value.reverse⟩, pos + Text.byteLength written, ?_, fun rest => ?_⟩
      · simp [OpenWord.toWord]
      · exact word.writesWord.scanFrom pos rest
  | @word written value text c values word separator _ inductionHypothesis =>
      rcases inductionHypothesis (pos + Text.byteLength written + c.utf8Size) with
        ⟨done, w, pos', read, scanned⟩
      refine ⟨(OpenWord.mk pos value.reverse).toWord :: done, w, pos', ?_, fun rest => ?_⟩
      · rw [List.cons_append, List.map_cons, read]
        simp [OpenWord.toWord]
      · rw [List.append_assoc, word.writesWord.scanFrom, List.cons_append, Query.scanFrom]
        simp only [separator, if_true, scanned]
        rfl

/-- A text of words is cut into what they stand for. -/
theorem WordsOf.split {text : String} {values : List (List Char)} (words : WordsOf text.toList values) :
    ∃ ws, split text = .ok ws ∧ ws.map String.toList = values := by
  rcases words.scanFrom 0 with ⟨done, w, pos', read, scanned⟩
  have whole : scan text = ⟨done ++ (w.map OpenWord.toWord).toList, none⟩ := by
    have atEnd := scanned []
    rw [List.append_nil] at atEnd
    rw [scan, atEnd]
    simp [Query.scanFrom, Scan.after, Scan.cons]
  refine ⟨(done ++ (w.map OpenWord.toWord).toList).map (·.value), ?_, ?_⟩
  · rw [Query.split, whole]
  · rw [List.map_map]
    exact read

/-- A text is not cut if reading it ends too early behind some words. -/
theorem split_of_fault {text : String} {front rest : List Char} {values : List (List Char)}
    {fault : Fault} (words : WordsOf front values) (whole : text.toList = front ++ rest)
    (tooEarly : ∀ w pos, (scanFrom (.bare w) pos rest).fault = some fault) :
    split text = .error fault := by
  rcases words.scanFrom 0 with ⟨done, w, pos', _, scanned⟩
  have found : (scan text).fault = some fault := by
    rw [scan, whole, scanned]
    exact tooEarly w pos'
  cases outcome : scan text with
  | mk words fault? =>
      rw [outcome] at found
      cases found
      rw [split, outcome]

theorem EndsInEscape.split {text : String} (ends : EndsInEscape text.toList) :
    split text = .error .trailingEscape := by
  rcases ends with ⟨front, values, words, whole⟩
  exact split_of_fault words whole fun w pos => rfl

/-- Reading does not come out of a quote that nothing closes. -/
theorem Unclosed.fault {inside : List Char} (unclosed : Unclosed inside) (w : OpenWord) (pos : Nat) :
    (scanFrom (.double w) pos inside).fault = some .unterminatedQuote := by
  rcases unclosed with ⟨front, value, quoted, whole | whole⟩
  · have atEnd := quoted.scanFrom w pos []
    rw [List.append_nil] at atEnd
    rw [whole, atEnd]
    rfl
  · rw [whole, quoted.scanFrom]
    rfl

theorem EndsInQuote.split {text : String} (ends : EndsInQuote text.toList) :
    split text = .error .unterminatedQuote := by
  rcases ends with ⟨front, values, inside, words, ⟨open', whole⟩ | ⟨unclosed, whole⟩⟩
  · refine split_of_fault words whole fun w pos => ?_
    have atEnd := scanFrom_single open' (w.getD ⟨pos, []⟩) (pos + '\''.utf8Size) []
    rw [List.append_nil] at atEnd
    rw [Query.scanFrom]
    simp only [show isSeparator '\'' = false from rfl, Bool.false_eq_true, if_false, BEq.rfl, if_true, atEnd]
    rfl
  · refine split_of_fault words whole fun w pos => ?_
    rw [Query.scanFrom]
    simp only [show isSeparator '"' = false from rfl, show ('"' == '\'') = false from rfl,
      Bool.false_eq_true, if_false, BEq.rfl, if_true]
    exact unclosed.fault _ _

/-! ## Every text -/

/-- What the grammar can say of a text: it is made of words, or it ends too early in one of two ways. -/
def Told (text : List Char) : Prop :=
  (∃ values, WordsOf text values) ∨ EndsInEscape text ∨ EndsInQuote text

/-- What goes before every text of words goes before every text. -/
theorem Told.after (front : List Char) {text : List Char}
    (goes : ∀ {text values}, WordsOf text values → ∃ values', WordsOf (front ++ text) values')
    (told : Told text) : Told (front ++ text) := by
  rcases told with ⟨values, words⟩ | ⟨before, values, words, rfl⟩ |
    ⟨before, values, inside, words, kind⟩
  · exact .inl (goes words)
  · rcases goes words with ⟨values', words'⟩
    exact .inr (.inl ⟨front ++ before, values', words', by simp⟩)
  · rcases goes words with ⟨values', words'⟩
    refine .inr (.inr ⟨front ++ before, values', inside, words', ?_⟩)
    rcases kind with ⟨open', rfl⟩ | ⟨unclosed, rfl⟩
    · exact .inl ⟨open', by simp⟩
    · exact .inr ⟨unclosed, by simp⟩

/-- Put before a text, a part of a word is a word of its own, or it makes the first word longer. -/
theorem WordsOf.afterPart {written value text : List Char} {values : List (List Char)}
    (part : Part written value) (words : WordsOf text values) :
    ∃ values', WordsOf (written ++ text) values' := by
  cases words with
  | nil => exact ⟨_, by simpa using .last (.last part)⟩
  | separator separator others => exact ⟨_, .word (.last part) separator others⟩
  | last word => exact ⟨_, .last (.more part word)⟩
  | word word separator others =>
      rw [← List.append_assoc]
      exact ⟨_, .word (.more part word) separator others⟩

/-- A double quote is closed somewhere, or nothing closes it. -/
theorem closed_or_unclosed (cs : List Char) :
    (∃ written value rest, Quoted written value ∧ cs = written ++ '"' :: rest) ∨ Unclosed cs := by
  induction cs using List.twoStepInduction with
  | nil => exact .inr ⟨[], [], .nil, .inl rfl⟩
  | singleton c =>
      by_cases isQuote : c = '"'
      · exact .inl ⟨[], [], [], .nil, by rw [isQuote]; rfl⟩
      · by_cases isBackslash : c = '\\'
        · exact .inr ⟨[], [], .nil, .inr (by rw [isBackslash]; rfl)⟩
        · exact .inr ⟨[c], [c], .plain isQuote isBackslash .nil, .inl rfl⟩
  | cons_cons c d cs behindTwo behindOne =>
      by_cases isQuote : c = '"'
      · exact .inl ⟨[], [], d :: cs, .nil, by rw [isQuote]; rfl⟩
      by_cases isBackslash : c = '\\'
      · have goes : ∀ {written value}, Quoted written value →
            ∃ value', Quoted ('\\' :: d :: written) value' := by
          intro written value quoted
          by_cases isEscaped : d = '"' ∨ d = '\\'
          · exact ⟨_, .escaped isEscaped quoted⟩
          · rw [not_or] at isEscaped
            exact ⟨_, .lone isEscaped.1 isEscaped.2 quoted⟩
        rw [isBackslash]
        rcases behindTwo with ⟨written, value, rest, quoted, rfl⟩ | ⟨front, value, quoted, rfl | rfl⟩
        all_goals rcases goes quoted with ⟨value', quoted'⟩
        · exact .inl ⟨_, value', rest, quoted', rfl⟩
        · exact .inr ⟨_, value', quoted', .inl rfl⟩
        · exact .inr ⟨_, value', quoted', .inr rfl⟩
      · rcases behindOne d with
          ⟨written, value, rest, quoted, whole⟩ | ⟨front, value, quoted, whole | whole⟩
        all_goals rw [whole]
        · exact .inl ⟨c :: written, c :: value, rest, .plain isQuote isBackslash quoted, rfl⟩
        · exact .inr ⟨c :: front, c :: value, .plain isQuote isBackslash quoted, .inl rfl⟩
        · exact .inr ⟨c :: front, c :: value, .plain isQuote isBackslash quoted, .inr rfl⟩

/-- Every text is of one of the three kinds. -/
theorem told (text : List Char) : Told text := by
  induction size : text.length using Nat.strongRecOn generalizing text with
  | ind n inductionHypothesis =>
      have shorter : ∀ rest : List Char, rest.length < n → Told rest :=
        fun rest less => inductionHypothesis rest.length less rest rfl
      -- A part at the start of the text is left to `WordsOf.afterPart`, the rest to the induction.
      have afterPart : ∀ {written value : List Char}, Part written value → ∀ rest : List Char,
          text = written ++ rest → rest.length < n → Told text := by
        intro written value part rest whole less
        rw [whole]
        exact .after written (fun words => words.afterPart part) (shorter rest less)
      cases text with
      | nil => exact .inl ⟨[], .nil⟩
      | cons c cs =>
          rw [List.length_cons] at size
          by_cases separator : isSeparator c = true
          · exact .after [c] (fun words => ⟨_, .separator separator words⟩) (shorter cs (by omega))
          by_cases bare : isQuoting c = false
          · exact afterPart (.bare (by simpa using separator) bare) cs rfl (by omega)
          · rw [Bool.not_eq_false, isQuoting] at bare
            simp only [Bool.or_eq_true, beq_iff_eq] at bare
            rcases bare with (rfl | rfl) | rfl
            · rcases closed_or_unclosed cs with ⟨inside, value, rest, quoted, rfl⟩ | unclosed
              · exact afterPart (.double quoted) rest (by simp) (by simp at size; omega)
              · exact .inr (.inr ⟨[], [], cs, .nil, .inr ⟨unclosed, rfl⟩⟩)
            · by_cases closed : '\'' ∈ cs
              · rcases List.eq_append_cons_of_mem closed with ⟨inside, rest, rfl, open'⟩
                exact afterPart (.single open') rest (by simp) (by simp at size; omega)
              · exact .inr (.inr ⟨[], [], cs, .nil, .inl ⟨closed, rfl⟩⟩)
            · cases cs with
              | nil => exact .inr (.inl ⟨[], [], .nil, rfl⟩)
              | cons e rest => exact afterPart (.escaped e) rest rfl (by simp at size; omega)

/-- A text is cut into words exactly if it is made of words, and then into these. Otherwise it ends too early,
and the fault says in which way. -/
theorem split_iff (text : String) :
    (∀ words, split text = .ok words ↔ WordsOf text.toList (words.map String.toList)) ∧
    (split text = .error .trailingEscape ↔ EndsInEscape text.toList) ∧
    (split text = .error .unterminatedQuote ↔ EndsInQuote text.toList) := by
  refine ⟨fun words => ⟨fun cut => ?_, fun made => ?_⟩, ⟨fun failed => ?_, EndsInEscape.split⟩,
    ⟨fun failed => ?_, EndsInQuote.split⟩⟩
  · rcases told text.toList with ⟨values, made⟩ | ends | ends
    · rcases made.split with ⟨ws, cut', values_eq⟩
      cases cut.symm.trans cut'
      rwa [values_eq]
    · cases cut.symm.trans ends.split
    · cases cut.symm.trans ends.split
  · rcases made.split with ⟨ws, cut, values_eq⟩
    rw [cut, List.map_injective_iff.mpr (fun _ _ => String.toList_inj.mp) values_eq]
  · rcases told text.toList with ⟨values, made⟩ | ends | ends
    · rcases made.split with ⟨ws, cut, _⟩
      cases failed.symm.trans cut
    · exact ends
    · cases failed.symm.trans ends.split
  · rcases told text.toList with ⟨values, made⟩ | ends | ends
    · rcases made.split with ⟨ws, cut, _⟩
      cases failed.symm.trans cut
    · cases failed.symm.trans ends.split
    · exact ends

end SampleLibrary.Query
