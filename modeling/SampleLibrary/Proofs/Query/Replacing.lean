import SampleLibrary.Proofs.Query.Completing
import SampleLibrary.Proofs.Query.Grammar

/-!
# The last word is replaced

Behind a separator, reading a text can be taken up again: the words before it are done, whatever comes
behind it (`Finishes`). Every text without a separator at its end is cut at such a place into the words that
are done and one word that goes on up to the end, even if it ends inside a quote (`finishes_or_isLast`). A
completion puts another word in the place of that one, and no other word changes (`replaces_last_word`).
-/

namespace SampleLibrary.Query

variable {front rest text written value : List Char} {values : List (List Char)} {c : Char}

/-! ## Places where no word goes on -/

/-- The text is read as words that are done at its end. -/
def Finishes (front : List Char) (values : List (List Char)) : Prop :=
  ∀ pos, ∃ done : List Word, done.map (·.value.toList) = values ∧
    ∀ rest, scanFrom (.bare none) pos (front ++ rest) =
      (scanFrom (.bare none) (pos + Text.byteLength front) rest).after done

theorem Finishes.nil : Finishes [] [] := fun _ => ⟨[], rfl, fun _ => rfl⟩

theorem Finishes.separator (separator : isSeparator c = true) (finishes : Finishes text values) :
    Finishes (c :: text) values := by
  intro pos
  rcases finishes (pos + c.utf8Size) with ⟨done, read, scanned⟩
  refine ⟨done, read, fun rest => ?_⟩
  rw [List.cons_append, scanFrom, Text.byteLength, ← Nat.add_assoc]
  simp only [separator, if_true, scanned]
  rfl

theorem Finishes.word (word : WordFor written value) (separator : isSeparator c = true)
    (finishes : Finishes text values) : Finishes (written ++ c :: text) (value :: values) := by
  intro pos
  rcases finishes (pos + Text.byteLength written + c.utf8Size) with ⟨done, read, scanned⟩
  refine ⟨(OpenWord.mk pos value.reverse).toWord :: done, ?_, fun rest => ?_⟩
  · rw [List.map_cons, read]
    simp [OpenWord.toWord]
  · rw [List.append_assoc, word.writesWord.scanFrom, List.cons_append, scanFrom, Text.byteLength_append,
      Text.byteLength, ← Nat.add_assoc, ← Nat.add_assoc]
    simp only [separator, if_true, scanned]
    rfl

/-- A text that nothing follows is cut into the words that are done. -/
theorem Finishes.scan {text : String} (finishes : Finishes text.toList values) :
    ∃ done, scan text = ⟨done, none⟩ ∧ done.map (·.value.toList) = values := by
  rcases finishes 0 with ⟨done, read, scanned⟩
  have atEnd := scanned []
  rw [List.append_nil] at atEnd
  exact ⟨done, by rw [Query.scan, atEnd]; simp [scanFrom, Scan.cons, Scan.after], read⟩

/-! ## The last word -/

/-- The text makes a word go on up to its end, or it is such a word if none is open. -/
def GoesOn (rest : List Char) : Prop :=
  ∀ (w : Option OpenWord) (pos : Nat), ∃ value fault,
    scanFrom (.bare w) pos rest = ⟨[⟨value, (w.getD ⟨pos, []⟩).start⟩], fault⟩

theorem goesOn_escape : GoesOn ['\\'] := fun _ _ => ⟨_, _, rfl⟩

theorem goesOn_single {inside : List Char} (open' : '\'' ∉ inside) : GoesOn ('\'' :: inside) := by
  intro w pos
  have atEnd := scanFrom_single open' (w.getD ⟨pos, []⟩) (pos + '\''.utf8Size) []
  rw [List.append_nil] at atEnd
  rw [scanFrom]
  simp only [show isSeparator '\'' = false from rfl, Bool.false_eq_true, if_false, BEq.rfl, if_true, atEnd]
  exact ⟨_, _, rfl⟩

theorem goesOn_double {inside : List Char} (unclosed : Unclosed inside) : GoesOn ('"' :: inside) := by
  intro w pos
  rw [scanFrom]
  simp only [show isSeparator '"' = false from rfl, show ('"' == '\'') = false from rfl, Bool.false_eq_true,
    if_false, BEq.rfl, if_true]
  rcases unclosed with ⟨front, value, quoted, rfl | rfl⟩
  · have atEnd := quoted.scanFrom (w.getD ⟨pos, []⟩) (pos + '"'.utf8Size) []
    rw [List.append_nil] at atEnd
    rw [atEnd]
    exact ⟨_, _, rfl⟩
  · rw [quoted.scanFrom]
    exact ⟨_, _, rfl⟩

/-- A word goes on with what comes behind it. -/
theorem GoesOn.behind (word : WordFor written value) (goesOn : GoesOn rest) (pos : Nat) :
    ∃ value fault, scanFrom (.bare none) pos (written ++ rest) = ⟨[⟨value, pos⟩], fault⟩ := by
  rw [word.writesWord.scanFrom]
  exact goesOn _ _

/-- The text is one word up to its end. -/
def IsLast (rest : List Char) : Prop :=
  ∀ pos, ∃ value fault, scanFrom (.bare none) pos rest = ⟨[⟨value, pos⟩], fault⟩

theorem WordFor.isLast (word : WordFor written value) : IsLast written := by
  intro pos
  have atEnd := word.writesWord.scanFrom pos []
  rw [List.append_nil] at atEnd
  exact ⟨_, _, atEnd⟩

/-- The words of a text are done, and nothing or a separator ends it, or the last one goes on up to its
end. -/
theorem WordsOf.finishes (words : WordsOf text values) :
    (Finishes text values ∧ ∀ c, text.getLast? = some c → isSeparator c = true) ∨
      ∃ front written before value, text = front ++ written ∧ Finishes front before ∧
        WordFor written value := by
  have separates (front : List Char) {c : Char} {text : List Char} (separator : isSeparator c = true)
      (atEnd : ∀ c, text.getLast? = some c → isSeparator c = true) :
      ∀ d, (front ++ c :: text).getLast? = some d → isSeparator d = true := by
    intro d last
    cases text with
    | nil =>
        rw [List.getLast?_concat] at last
        cases last
        exact separator
    | cons e text =>
        rw [List.getLast?_append_of_ne_nil _ (by simp), List.getLast?_cons_cons] at last
        exact atEnd d last
  induction words with
  | nil => exact .inl ⟨.nil, fun c last => absurd last (by simp)⟩
  | separator separator _ inductionHypothesis =>
      rcases inductionHypothesis with ⟨finishes, atEnd⟩ | ⟨front, written, before, value, rfl, finishes, word⟩
      · exact .inl ⟨finishes.separator separator, separates [] separator atEnd⟩
      · exact .inr ⟨_ :: front, written, before, value, rfl, finishes.separator separator, word⟩
  | last word => exact .inr ⟨[], _, [], _, rfl, .nil, word⟩
  | word word separator _ inductionHypothesis =>
      rcases inductionHypothesis with
        ⟨finishes, atEnd⟩ | ⟨front, written, before, value, rfl, finishes, word'⟩
      · exact .inl ⟨finishes.word word separator, separates _ separator atEnd⟩
      · exact .inr ⟨_ ++ _ :: front, written, _, value, by simp, finishes.word word separator, word'⟩

/-- Every text is cut in front of its last word, unless a separator or nothing at all ends it. -/
theorem finishes_or_isLast (text : List Char) :
    (∃ values, Finishes text values ∧ ∀ c, text.getLast? = some c → isSeparator c = true) ∨
      ∃ front rest before, text = front ++ rest ∧ Finishes front before ∧ IsLast rest := by
  -- what makes a word go on is the last word itself, or it belongs to the one before it
  have behind {front rest : List Char} {values : List (List Char)} (words : WordsOf front values)
      (goesOn : GoesOn rest) : ∃ front' rest' before, front ++ rest = front' ++ rest' ∧
        Finishes front' before ∧ IsLast rest' := by
    rcases words.finishes with ⟨finishes, -⟩ | ⟨front', written, before, value, rfl, finishes, word⟩
    · exact ⟨front, rest, values, rfl, finishes, goesOn none⟩
    · exact ⟨front', written ++ rest, before, by simp, finishes, goesOn.behind word⟩
  rcases told text with ⟨values, words⟩ | ⟨front, values, words, rfl⟩ |
    ⟨front, values, inside, words, ⟨open', rfl⟩ | ⟨unclosed, rfl⟩⟩
  · rcases words.finishes with finishes | ⟨front, written, before, value, rfl, finishes, word⟩
    · exact .inl ⟨values, finishes⟩
    · exact .inr ⟨front, written, before, rfl, finishes, word.isLast⟩
  · exact .inr (behind words goesOn_escape)
  · exact .inr (behind words (goesOn_single open'))
  · exact .inr (behind words (goesOn_double unclosed))

theorem isBlank_of_isSeparator {c : Char} (separator : isSeparator c = true) : Text.isBlank c = true := by
  simp only [isSeparator, Bool.or_eq_true, beq_iff_eq] at separator
  rcases separator with ((rfl | rfl) | rfl) | rfl <;> decide

namespace Completion

variable {c : Completion}

/-- Where the last word of a completed text starts, the words before it are done. -/
theorem exists_cut_of_ofText? {text : String} (completes : ofText? text = some c) :
    ∃ rest done, text.toList = c.before.toList ++ rest ∧ c.text = text ∧ c.base = parse c.before ∧
      Text.byteLength c.before.toList = c.start ∧ (scan text).words = done ++ [⟨c.typed, c.start⟩] ∧
      ∀ more, scanFrom (.bare none) 0 (c.before.toList ++ more) =
        (scanFrom (.bare none) c.start more).after done := by
  rcases ofText?_eq_some completes with ⟨last, isLast, unended, -, -, rfl⟩
  rcases finishes_or_isLast text.toList with ⟨values, finishes, atEnd⟩ |
    ⟨front, rest, values, whole, finishes, lastWord⟩
  · rcases finishes.scan with ⟨done, scanned, -⟩
    rcases unended with quoted | notBlank
    · rw [scanned] at quoted
      cases quoted
    · cases chars : text.toList.getLast? with
      | none =>
          have empty : text = "" := String.toList_inj.mp (List.getLast?_eq_none_iff.mp chars)
          rw [empty] at isLast
          cases isLast
      | some d =>
          rw [endsBlank, chars, Option.any_some, isBlank_of_isSeparator (atEnd d chars)] at notBlank
          cases notBlank
  · rcases finishes 0 with ⟨done, -, scanned⟩
    rw [Nat.zero_add] at scanned
    rcases lastWord (Text.byteLength front) with ⟨value, fault, read⟩
    have all : scan text = ⟨done ++ [⟨value, Text.byteLength front⟩], fault⟩ := by
      rw [scan, whole, scanned, read]
      rfl
    rw [all, List.getLast?_concat] at isLast
    cases isLast
    rw [before, textBefore, whole, Text.takeBytes?_append, Option.getD_some, String.toList_ofList]
    exact ⟨rest, done, rfl, rfl, rfl, rfl, by rw [all], scanned⟩

/-- The text before the last word is cut into the words that were read before it. Any other text put in for
the last word is one word behind them. -/
theorem exists_words_of_ofText? {text : String} (completes : ofText? text = some c) :
    ∃ done rest, (scan text).words = done ++ [⟨c.typed, c.start⟩] ∧ text = c.before ++ rest ∧
      Text.byteLength c.before.toList = c.start ∧ c.base = parse c.before ∧
      split c.before = .ok (done.map (·.value)) ∧
      ∀ s, split (c.complete s) = .ok (done.map (·.value) ++ [s]) := by
  rcases exists_cut_of_ofText? completes with ⟨rest, done, whole, text_eq, base_eq, size, words, scanned⟩
  refine ⟨done, String.ofList rest, words, ?_, size, base_eq, ?_, fun s => ?_⟩
  · rw [← String.toList_inj, String.toList_append, String.toList_ofList, whole]
  · have atEnd := scanned []
    rw [List.append_nil] at atEnd
    rw [split, scan, atEnd]
    simp [scanFrom, Scan.cons, Scan.after]
  · have chars : (c.complete s).toList = c.before.toList ++ (quote s).toList := by
      rw [complete, text_eq, whole, ← size, Text.takeBytes?_append]
      simp
    have alone := (writesWord_quote s).scanFrom c.start []
    rw [List.append_nil] at alone
    rw [split, scan, chars, scanned, alone]
    simp [scanFrom, Scan.cons, Scan.after, OpenWord.toWord]

/-- What a completed text asks for: what the words before the last one ask for, and then what the text put in
does. -/
theorem parse_complete {text : String} (completes : ofText? text = some c) (s : String) :
    parse (c.complete s) = c.base ++ (Condition.ofWord? s).toList := by
  rcases exists_words_of_ofText? completes with ⟨done, -, -, -, -, base, cut, completed⟩
  rw [base, parse, parse, splitLenient, splitLenient, cut, completed]
  cases read : Condition.ofWord? s <;> simp [read]

/-- The text before the last word is cut into the words that were read before it, and what they ask for is
the query that the completion belongs to. With any other text put in for the last word, these words stay as
they are, and the text put in is the one word behind them. -/
theorem replaces_last_word {text : String} (completes : ofText? text = some c) :
    ∃ before rest, (scan text).words = before ++ [⟨c.typed, c.start⟩] ∧ text = c.before ++ rest ∧
      Text.byteLength c.before.toList = c.start ∧
      split c.before = .ok (before.map (·.value)) ∧
      c.base = (before.map (·.value)).filterMap Condition.ofWord? ∧
      ∀ s, split (c.complete s) = .ok (before.map (·.value) ++ [s]) ∧
        parse (c.complete s) = c.base ++ (Condition.ofWord? s).toList := by
  rcases exists_words_of_ofText? completes with ⟨done, rest, words, whole, size, base, cut, completed⟩
  refine ⟨done, rest, words, whole, size, cut, ?_, fun s => ⟨completed s, parse_complete completes s⟩⟩
  rw [base, parse, splitLenient, cut]

def openText : String := "schön 'it''s' ?x \"deep \\\"ho"

/-- The last word is in a quote that is still open and starts at byte 18, as one letter has two bytes. What
is put in needs quotes and a backslash itself. -/
theorem open_word_replaced :
    ∃ c, ofText? openText = some c ∧ c.start = 18 ∧
      split c.before = .ok ["schön", "its", "?x"] ∧
      split (c.complete "deep \"house\"") = .ok ["schön", "its", "?x", "deep \"house\""] ∧
      parse (c.complete "deep \"house\"") =
        [.text "schön", .text "its", .tagged "x", .text "deep \"house\""] := by
  have completes : ((ofText? openText).any fun c => c.start == 18 &&
      c.base == [.text "schön", .text "its", .tagged "x"]) = true := by decide +kernel
  have words : ((scan openText).words.map (·.value)).dropLast = ["schön", "its", "?x"] := by
    decide +kernel
  have read : Condition.ofWord? "deep \"house\"" = some (.text "deep \"house\"") := by decide +kernel
  rcases (Option.any_eq_true _ _).mp completes with ⟨c, found, facts⟩
  rw [Bool.and_eq_true, beq_iff_eq, beq_iff_eq] at facts
  rcases replaces_last_word found with ⟨before, rest, scanned, -, -, cut, -, completed⟩
  rw [scanned, List.map_append, List.map_singleton, List.dropLast_concat] at words
  rcases completed "deep \"house\"" with ⟨cut', read'⟩
  rw [words] at cut cut'
  rw [facts.2, read] at read'
  exact ⟨c, found, facts.1, cut, cut', read'⟩

end Completion

end SampleLibrary.Query
