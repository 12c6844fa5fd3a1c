import SampleLibrary.Proofs.FullText.Documents
import SampleLibrary.Proofs.Query.Completing
import Mathlib.Data.List.TakeWhile

/-!
# Where suggestions start and end

If the entries of a report name tokens of a text, a suggestion starts at a token, and it ends at a token or
with a word (`exists_part_of_mem_suggestions`). Nothing else is asked of the report: the entries can come from
any tokens in any order. In the document of an item, this keeps every suggestion within one value
(`suggestions_within_values`).
-/

namespace SampleLibrary.Query

open FullText (isWordChar ne_of_isWordChar EndsSharply)

/-- Every entry of a report names the bytes of a token of the text. -/
def NamesTokens (report content : String) : Prop :=
  ∀ o ∈ Occurrence.read report, ∃ t ∈ FullText.tokens content.toList,
    o.offset = t.start ∧ o.size = t.size

/-- What an entry names is a word of the text. -/
theorem NamesTokens.exists_word {report content : String} {o : Occurrence}
    (names : NamesTokens report content) (isEntry : o ∈ Occurrence.read report) :
    ∃ front word behind, content.toList = front ++ (word ++ behind) ∧ word ≠ [] ∧
      (∀ d ∈ word, isWordChar d = true) ∧ o.offset = Text.byteLength front ∧
      o.size = Text.byteLength word := by
  rcases names o isEntry with ⟨t, isToken, offset, size⟩
  rcases FullText.exists_word_of_mem_tokens isToken with
    ⟨front, word, behind, whole, nonempty, letters, start, size'⟩
  exact ⟨front, word, behind, whole, nonempty, letters, offset.trans start, size.trans size'⟩

/-- From the byte that an entry names, a text goes on with a word. -/
theorem NamesTokens.starts {report content : String} {o : Occurrence} {front rest : List Char}
    (names : NamesTokens report content) (isEntry : o ∈ Occurrence.read report)
    (whole : content.toList = front ++ rest) (start : Text.byteLength front = o.offset) :
    ∃ word behind, rest = word ++ behind ∧ word ≠ [] ∧ (∀ d ∈ word, isWordChar d = true) ∧
      o.size = Text.byteLength word := by
  rcases names.exists_word isEntry with ⟨front', word, behind, whole', nonempty, letters, offset, size⟩
  rcases Text.append_inj_of_byteLength (whole.symm.trans whole') (start.trans offset) with ⟨-, parts⟩
  exact ⟨word, behind, parts, nonempty, letters, size⟩

namespace Completion

variable {c : Completion} {s report content : String}

theorem mem_of_mem_tails {α : Type} {a : α} {as tail : List α} (isTail : tail ∈ tails as)
    (membership : a ∈ tail) : a ∈ as := by
  induction as with
  | nil => exact absurd isTail List.not_mem_nil
  | cons b as inductionHypothesis =>
      rcases List.mem_cons.mp isTail with rfl | later
      · exact membership
      · exact List.mem_cons_of_mem _ (inductionHypothesis later)

/-- A report that is in order is read as it is. -/
theorem suggestions_of_inOrder
    (inOrder : (Occurrence.read report).Pairwise fun a b => Occurrence.le a b = true) :
    c.suggestions report content =
      (tails (Occurrence.read report)).filterMap (c.suggestion? content.toList) := by
  rw [suggestions, Occurrence.mergeSort_eq (List.Perm.refl _) inOrder]

/-- A suggestion goes from one entry of the report to another one, and it has no delimiter in it. -/
theorem exists_entries_of_mem_suggestions (suggested : s ∈ c.suggestions report content) :
    ∃ first ∈ Occurrence.read report, ∃ last ∈ Occurrence.read report,
      (c.words.length = 1 → first = last) ∧
      Text.slice? content.toList first.offset
        (c.stretch content.toList ((last.offset + last.size) % UInt64.size)) = some s.toList ∧
      Text.hasPiece FullText.delimiter.toList s.toList = false := by
  rcases List.mem_filterMap.mp suggested with ⟨entries, isTail, found⟩
  have member {o : Occurrence} (taken : o ∈ entries.take c.words.length) : o ∈ Occurrence.read report :=
    List.mem_mergeSort.mp (mem_of_mem_tails isTail (List.mem_of_mem_take taken))
  unfold suggestion? at found
  rcases Option.bind_eq_some_iff.mp found with ⟨first, isFirst, found⟩
  rcases Option.bind_eq_some_iff.mp found with ⟨last, isLast, found⟩
  split at found
  · rcases Option.bind_eq_some_iff.mp found with ⟨span, cut, found⟩
    split at found
    · cases found
    · rename_i undelimited
      cases found
      refine ⟨first, member (List.mem_of_head? isFirst), last, member (List.mem_of_getLast? isLast),
        fun single => ?_, by rw [cut, String.toList_ofList], by simpa using undelimited⟩
      rw [single] at isFirst isLast
      cases entries with
      | nil => cases isFirst
      | cons o entries =>
          cases isFirst
          cases isLast
          rfl
  · cases found

/-- What is added if the next word is asked for is nothing, or it goes up to the end of a word. -/
theorem nextPart_cases (c : Completion) (behind : List Char) :
    c.nextPart behind = [] ∨ ∃ part e rest, c.nextPart behind = part ++ [e] ∧
      behind = part ++ e :: rest ∧ Text.isBlank e = false ∧
      ∀ d, rest.head? = some d → Text.isBlank d = true := by
  unfold nextPart
  dsimp only
  split
  · exact .inl rfl
  · rename_i goesOn
    rcases List.eq_nil_or_concat' ((behind.dropWhile Text.isBlank).takeWhile (!Text.isBlank ·)) with
      empty | ⟨part, e, word⟩
    · simp [empty] at goesOn
    · have sharp : Text.isBlank e = false := by
        have inWord : e ∈ (behind.dropWhile Text.isBlank).takeWhile (!Text.isBlank ·) := by
          rw [word]
          exact List.mem_concat_self
        simpa using List.mem_takeWhile_imp inWord
      refine .inr ⟨behind.takeWhile Text.isBlank ++ part, e,
        (behind.dropWhile Text.isBlank).dropWhile (!Text.isBlank ·), ?_, ?_, sharp, fun d first => ?_⟩
      · rw [word, List.append_assoc]
      · calc behind
          _ = behind.takeWhile Text.isBlank ++
                ((behind.dropWhile Text.isBlank).takeWhile (!Text.isBlank ·) ++
                  (behind.dropWhile Text.isBlank).dropWhile (!Text.isBlank ·)) := by
              rw [List.takeWhile_append_dropWhile, List.takeWhile_append_dropWhile]
          _ = _ := by
              rw [word]
              simp
      · have outside := List.head?_dropWhile_not (!Text.isBlank ·) (behind.dropWhile Text.isBlank)
        rw [first] at outside
        simpa using outside

theorem not_mem_gap_of_isWordChar {d : Char} (letter : isWordChar d = true) : d ∉ FullText.gap := by
  have notSpace : d ≠ ' ' := ne_of_isWordChar letter (by decide)
  have notTilde : d ≠ '~' := ne_of_isWordChar letter (by decide)
  simp [FullText.gap, notSpace, notTilde]

/-- Behind a token, with the next word if it is asked for, a text ends sharply. -/
theorem endsSharply_nextPart {front part front' word behind rest : List Char} (nonempty : word ≠ [])
    (letters : ∀ d ∈ word, isWordChar d = true)
    (same : front ++ part = front' ++ word ++ c.nextPart behind)
    (goesOn : c.nextPart behind ++ rest = behind) : EndsSharply part rest := by
  intro d last
  have isLast : (front' ++ word ++ c.nextPart behind).getLast? = some d := by
    rw [← same, List.getLast?_append, last, Option.some_or]
  rcases c.nextPart_cases behind with nothing | ⟨init, e, rest', added, behind_eq, sharp, blank⟩
  · rw [nothing, List.append_nil, List.getLast?_append_of_ne_nil _ nonempty] at isLast
    have letter := letters d (List.mem_of_getLast? isLast)
    exact ⟨ne_of_isWordChar letter (by decide),
      fun tilde => absurd tilde (ne_of_isWordChar letter (by decide))⟩
  · rw [added, ← List.append_assoc, List.getLast?_concat] at isLast
    cases isLast
    have rest_eq : rest = rest' := by
      rw [added, behind_eq, ← List.append_cons] at goesOn
      exact List.cons_injective (List.append_cancel_left goesOn)
    rw [rest_eq]
    refine ⟨?_, fun _ first => ?_⟩
    · rintro rfl
      exact absurd sharp (by decide)
    · exact absurd (blank _ first) (by decide)

/-- A suggestion is a part of the text that starts with a letter of a token. It ends sharply, if the text is
no longer than numbers of bytes can tell. -/
theorem exists_part_of_mem_suggestions (names : NamesTokens report content)
    (suggested : s ∈ c.suggestions report content) :
    ∃ front rest d behind, content.toList = front ++ (s.toList ++ rest) ∧
      s.toList ++ rest = d :: behind ∧ isWordChar d = true ∧
      (Text.byteLength content.toList < UInt64.size → EndsSharply s.toList rest) := by
  rcases exists_entries_of_mem_suggestions suggested with ⟨first, isFirst, last, isLast, -, cut, -⟩
  rcases Text.exists_of_slice? cut with ⟨front, rest, whole, start, stop⟩
  rcases names.starts isFirst whole start with ⟨word, behind, parts, nonempty, letters, -⟩
  rcases List.exists_cons_of_ne_nil nonempty with ⟨d, word', rfl⟩
  refine ⟨front, rest, d, word' ++ behind, whole, parts, letters d List.mem_cons_self, fun bounded => ?_⟩
  rcases names.exists_word isLast with ⟨front', word, behind', whole', nonempty', letters', offset, size⟩
  have spanned : last.offset + last.size = Text.byteLength (front' ++ word) := by
    rw [offset, size, Text.byteLength_append]
  have inside : Text.byteLength (front' ++ word) < UInt64.size := by
    rw [whole', ← List.append_assoc, Text.byteLength_append] at bounded
    exact Nat.lt_of_le_of_lt (Nat.le_add_right _ _) bounded
  rcases c.nextPart_prefix behind' with ⟨rest', goesOn⟩
  rw [spanned, Nat.mod_eq_of_lt inside, whole', ← List.append_assoc, stretch_append,
    ← Text.byteLength_append] at stop
  have same : (front ++ s.toList) ++ rest = (front' ++ word ++ c.nextPart behind') ++ rest' := by
    rw [List.append_assoc, ← whole, whole', List.append_assoc, List.append_assoc, goesOn]
  rcases Text.append_inj_of_byteLength same stop with ⟨ends, rfl⟩
  exact endsSharply_nextPart nonempty' letters' ends goesOn

/-- From the document of a record and tags, whatever they are, every suggestion is a part of one indexed value
or of one tag, and no suggestion has a delimiter in it. The document is one whose bytes can be numbered. -/
theorem suggestions_within_values (c : Completion) (m : Metadata) (tags : TagSet) {report : String}
    (bounded : Text.byteLength (FullText.document m tags).toList < UInt64.size)
    (names : NamesTokens report (FullText.document m tags)) :
    ∀ s ∈ c.suggestions report (FullText.document m tags),
      (∃ value ∈ m.indexedValues ++ tags.toList, s.toList <:+: value.toList) ∧
        Text.hasPiece FullText.delimiter.toList s.toList = false := by
  intro s suggested
  rcases exists_entries_of_mem_suggestions suggested with ⟨-, -, -, -, -, -, undelimited⟩
  rcases exists_part_of_mem_suggestions names suggested with
    ⟨front, rest, d, behind, whole, starts, letter, sharp⟩
  rw [FullText.document_eq] at whole
  exact ⟨FullText.infix_of_part whole starts (not_mem_gap_of_isWordChar letter) (sharp bounded) undelimited,
    undelimited⟩

/-- A record with tildes in a value. -/
def moodyPad : Metadata :=
  { Metadata.empty with name := some "deep house" }.setCustom "mood" "so deep~~"

def moodyTags : TagSet := .ofList ["/pads/deep"]

def moodyDocument : String := "deep house ~~~ so deep~~ ~~~ /pads/deep ~~~"

/-- The next word is asked for in three values: one has it, one ends in tildes, and one ends. -/
def moodyReport : String := "0 0 0 4 0 0 18 4 0 0 35 4"

theorem moody_document : FullText.document moodyPad moodyTags = moodyDocument := by
  decide +kernel

theorem moody_named : NamesTokens moodyReport moodyDocument := by
  unfold NamesTokens
  decide +kernel

theorem moody_suggested :
    ∃ c, ofText? "\"deep " = some c ∧
      c.suggestions moodyReport moodyDocument = ["deep house", "deep~~", "deep"] := by
  have facts : ((ofText? "\"deep ").any fun c =>
      (tails (Occurrence.read moodyReport)).filterMap (c.suggestion? moodyDocument.toList) ==
        ["deep house", "deep~~", "deep"]) = true := by decide +kernel
  rcases (Option.any_eq_true _ _).mp facts with ⟨c, completes, found⟩
  rw [beq_iff_eq] at found
  exact ⟨c, completes, (suggestions_of_inOrder (by decide +kernel)).trans found⟩

theorem moody_suggestions_within_values :
    ∃ c, ofText? "\"deep " = some c ∧
      Text.byteLength (FullText.document moodyPad moodyTags).toList < UInt64.size ∧
      NamesTokens moodyReport (FullText.document moodyPad moodyTags) ∧
      c.suggestions moodyReport (FullText.document moodyPad moodyTags) =
        ["deep house", "deep~~", "deep"] ∧
      ∀ s ∈ ["deep house", "deep~~", "deep"],
        (∃ value ∈ moodyPad.indexedValues ++ moodyTags.toList, s.toList <:+: value.toList) ∧
        Text.hasPiece FullText.delimiter.toList s.toList = false := by
  rcases moody_suggested with ⟨c, completes, found⟩
  have bounded : Text.byteLength (FullText.document moodyPad moodyTags).toList < UInt64.size := by
    rw [moody_document]
    decide
  have names : NamesTokens moodyReport (FullText.document moodyPad moodyTags) := by
    rw [moody_document]
    exact moody_named
  have suggested : c.suggestions moodyReport (FullText.document moodyPad moodyTags) =
      ["deep house", "deep~~", "deep"] := by
    rw [moody_document, found]
  have within := suggestions_within_values c moodyPad moodyTags bounded names
  rw [suggested] at within
  exact ⟨c, completes, bounded, names, suggested, within⟩

end Completion

end SampleLibrary.Query
