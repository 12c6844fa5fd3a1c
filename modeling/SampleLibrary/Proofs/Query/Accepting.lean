import SampleLibrary.Proofs.Query.Replacing
import SampleLibrary.Proofs.Query.RoundTrip
import SampleLibrary.Proofs.Query.Suggesting

/-!
# What a suggestion asks for once it is put in

A suggestion starts with a letter of the index, so it never asks for a tag. It can ask for a comparison, as a
sign can stand between two of its words, and it can be dropped, as the index takes every character beyond
ASCII for a letter. If it does neither, it asks for its own text (`complete_asks_for_text_iff`).
-/

namespace SampleLibrary.Query

open FullText (isWordChar ne_of_isWordChar)

/-! ## Words that start like those of the index -/

namespace Comparison

theorem isSign_of_isWordChar {c : Char} (letter : isWordChar c = true) : isSign c = false := by
  simp only [isSign, Bool.or_eq_false_iff, beq_eq_false_iff_ne]
  refine ⟨⟨⟨?_, ?_⟩, ?_⟩, ?_⟩ <;> exact ne_of_isWordChar letter (by decide)

theorem find?_of_unsigned {cs : List Char} (unsigned : ∀ c ∈ cs, isSign c = false) : find? cs = none := by
  induction cs with
  | nil => rfl
  | cons c cs inductionHypothesis =>
      rw [find?, atStart?_of_not_isSign (unsigned c List.mem_cons_self)]
      simp [inductionHypothesis fun d later => unsigned d (List.mem_cons_of_mem _ later)]

end Comparison

namespace Condition

variable {word : String}

/-- A word that starts with a letter of the index asks for no tag. -/
theorem ofWord?_of_isWordChar (starts : ∀ d, word.toList.head? = some d → isWordChar d = true) :
    ofWord? word = (compare? word).or (text? word) := by
  have untagged : tagged? word = none ∧ untagged? word = none := by
    unfold tagged? untagged?
    cases chars : word.toList with
    | nil => exact ⟨rfl, rfl⟩
    | cons d rest =>
        have letter := starts d (by rw [chars]; rfl)
        have notQuestion : d ≠ '?' := ne_of_isWordChar letter (by decide)
        have notPlus : d ≠ '+' := ne_of_isWordChar letter (by decide)
        have notHyphen : d ≠ '-' := ne_of_isWordChar letter (by decide)
        simp [notQuestion, notPlus, notHyphen]
  rw [ofWord?, untagged.1, untagged.2, Option.none_or, Option.none_or]

theorem compare?_ne_text {t : String} : compare? word ≠ some (text t) := by
  unfold compare?
  intro read
  split at read
  · dsimp only at read
    split at read <;> cases read
  · cases read

/-- Exactly a word that is no comparison and has a letter, a digit or an underscore asks for its own text. -/
theorem compare?_or_text?_eq_iff :
    (compare? word).or (text? word) = some (text word) ↔
      compare? word = none ∧ word.toList.any Text.isWord = true := by
  constructor
  · intro read
    rcases Option.or_eq_some_iff.mp read with compared | ⟨uncompared, read⟩
    · exact absurd compared compare?_ne_text
    · refine ⟨uncompared, ?_⟩
      unfold text? at read
      split at read
      · assumption
      · cases read
  · rintro ⟨uncompared, hasLetter⟩
    rw [uncompared, Option.none_or, text?, if_pos hasLetter]

end Condition

namespace Completion

variable {c : Completion} {s text report content : String}

/-- A suggestion starts with a letter of the index. -/
theorem isWordChar_of_mem_suggestions (names : NamesTokens report content)
    (suggested : s ∈ c.suggestions report content) (d : Char) (first : s.toList.head? = some d) :
    isWordChar d = true := by
  rcases exists_part_of_mem_suggestions names suggested with ⟨-, rest, e, behind, -, starts, letter, -⟩
  rcases List.head?_eq_some_iff.mp first with ⟨others, chars⟩
  rw [chars, List.cons_append, List.cons.injEq] at starts
  rw [starts.1]
  exact letter

/-- For one word that is not to be followed by another one, a suggestion has letters of the index only. -/
theorem forall_isWordChar_of_mem_suggestions (names : NamesTokens report content)
    (single : c.words.length = 1) (alone : c.nextWord = false)
    (suggested : s ∈ c.suggestions report content) : ∀ d ∈ s.toList, isWordChar d = true := by
  rcases exists_entries_of_mem_suggestions suggested with ⟨first, isFirst, last, -, same, cut, -⟩
  cases same single
  rw [stretch, alone, Bool.not_false, if_pos rfl] at cut
  rcases Text.exists_of_slice? cut with ⟨front, rest, whole, start, stop⟩
  rcases names.starts isFirst whole start with ⟨word, behind, parts, -, letters, size⟩
  have shorter : Text.byteLength s.toList ≤ Text.byteLength word := by
    have wrapped := Nat.mod_le (first.offset + first.size) UInt64.size
    rw [← stop, Text.byteLength_append, start, size] at wrapped
    exact Nat.le_of_add_le_add_left wrapped
  intro d inSuggestion
  exact letters d ((Text.prefix_of_byteLength_le parts shorter).subset inSuggestion)

/-- A suggestion that is put in is one word behind the words that were there. It is read as a comparison if it
has the form of one, and it is dropped if it has neither a letter nor a digit nor an underscore. Exactly if
neither is so, the text asks for the suggestion behind what it asked for before. The suggestions for one word
that is not to be followed by another one never have the form of a comparison. -/
theorem complete_asks_for_text_iff (completes : ofText? text = some c)
    (names : NamesTokens report content) :
    ∀ s ∈ c.suggestions report content,
      parse (c.complete s) =
          c.base ++ ((Condition.compare? s).or (Condition.text? s)).toList ∧
        (parse (c.complete s) = c.base ++ [.text s] ↔
          Condition.compare? s = none ∧ s.toList.any Text.isWord = true) ∧
        (c.words.length = 1 → c.nextWord = false → Condition.compare? s = none) := by
  intro s suggested
  have asked : parse (c.complete s) =
      c.base ++ ((Condition.compare? s).or (Condition.text? s)).toList := by
    rw [parse_complete completes,
      Condition.ofWord?_of_isWordChar (isWordChar_of_mem_suggestions names suggested)]
  refine ⟨asked, ?_, fun single alone => ?_⟩
  · rw [asked, List.append_cancel_left_eq, ← Condition.compare?_or_text?_eq_iff]
    exact Option.toList_eq_singleton_iff
  · have letters := forall_isWordChar_of_mem_suggestions names single alone suggested
    rw [Condition.compare?,
      Comparison.find?_of_unsigned fun d inside => Comparison.isSign_of_isWordChar (letters d inside)]

theorem moody_complete_asks_for_text :
    ∃ c, ofText? "\"deep " = some c ∧ NamesTokens moodyReport moodyDocument ∧
      c.suggestions moodyReport moodyDocument = ["deep house", "deep~~", "deep"] ∧
      ∀ s ∈ ["deep house", "deep~~", "deep"], parse (c.complete s) = c.base ++ [.text s] := by
  rcases moody_suggested with ⟨c, completes, suggested⟩
  have plain : ∀ s ∈ ["deep house", "deep~~", "deep"],
      Condition.compare? s = none ∧ s.toList.any Text.isWord = true := by decide +kernel
  have asked := complete_asks_for_text_iff completes moody_named
  rw [suggested] at asked
  exact ⟨c, completes, moody_named, suggested, fun s inList => (asked s inList).2.1.mpr (plain s inList)⟩

/-- Two words of a name with a sign between them. -/
def signedDocument : String := "bpm=120 ~~~"

def signedReport : String := "0 0 0 3 0 1 4 3"

theorem signed_named : NamesTokens signedReport signedDocument := by
  unfold NamesTokens
  decide +kernel

/-- The words were typed to be looked for, and the suggestion is read as a comparison. -/
theorem signed_read_as_comparison :
    ∃ c, ofText? "\"bpm 12" = some c ∧ NamesTokens signedReport signedDocument ∧
      c.suggestions signedReport signedDocument = ["bpm=120"] ∧
      parse (c.complete "bpm=120") = c.base ++ [.compare "bpm" .eq "120"] ∧
      parse (c.complete "bpm=120") ≠ c.base ++ [.text "bpm=120"] := by
  have facts : ((ofText? "\"bpm 12").any fun c =>
      (tails (Occurrence.read signedReport)).filterMap (c.suggestion? signedDocument.toList) ==
          ["bpm=120"]
        && parse (c.complete "bpm=120") == c.base ++ [.compare "bpm" .eq "120"]) = true := by
    decide +kernel
  rcases (Option.any_eq_true _ _).mp facts with ⟨c, completes, facts⟩
  rw [Bool.and_eq_true, beq_iff_eq, beq_iff_eq] at facts
  have suggested := (suggestions_of_inOrder (by decide +kernel)).trans facts.1
  refine ⟨c, completes, signed_named, suggested, facts.2, fun asked => ?_⟩
  have same := List.append_cancel_left (facts.2.symm.trans asked)
  cases same

/-- A symbol is a word of the index, but no query looks for it. -/
example : FullText.words "🥁" = ["🥁"] ∧ parse "🥁" = [] := by decide +kernel

end Completion

end SampleLibrary.Query
