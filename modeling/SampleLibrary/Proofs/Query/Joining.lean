import SampleLibrary.Proofs.Query.Grammar

/-!
# Texts of words side by side

A separator keeps the words before it apart from those behind it, whatever quotes and backslashes they are
written with (`WordsOf.append`). So two texts that can be cut into words, with a separator between them, are
cut into the words of both, and quoted words are read as they were (`split_joined`).
-/

namespace SampleLibrary.Query

theorem WordsOf.append {front text : List Char} {c : Char} {values more : List (List Char)}
    (first : WordsOf front values) (separator : isSeparator c = true) (second : WordsOf text more) :
    WordsOf (front ++ c :: text) (values ++ more) := by
  induction first with
  | nil => exact .separator separator second
  | separator separator' _ inductionHypothesis => exact .separator separator' inductionHypothesis
  | last word => exact .word word separator second
  | word word separator' _ inductionHypothesis =>
      rw [List.append_assoc]
      exact .word word separator' inductionHypothesis

/-- A text that is cut is made of the words that it is cut into. -/
theorem wordsOf_of_split {text : String} {words : List String} (cut : split text = .ok words) :
    WordsOf text.toList (words.map String.toList) := by
  rcases told text.toList with ⟨values, made⟩ | ends | ends
  · rcases made.split with ⟨words', cut', values_eq⟩
    cases cut.symm.trans cut'
    rwa [values_eq]
  · cases cut.symm.trans ends.split
  · cases cut.symm.trans ends.split

/-- A list of texts, each quoted and with spaces between them, is cut into the same texts. Two texts that can
be cut are cut alike with a separator between them. -/
theorem split_joined :
    (∀ parts : List String, split (Text.join " " (parts.map quote)) = .ok parts) ∧
      ∀ (text other : String) (c : Char) (words more : List String), c ∈ [' ', '\t', '\r', '\n'] →
        split text = .ok words → split other = .ok more →
        split (text ++ String.singleton c ++ other) = .ok (words ++ more) := by
  constructor
  · intro parts
    have cut : split (Text.join " " (parts.map quote)) = .ok (parts.map id) :=
      split_join fun part _ => writesWord_quote part
    rwa [List.map_id] at cut
  · intro text other c words more separator cut cut'
    have isSep : isSeparator c = true := by
      simpa [isSeparator, or_assoc] using separator
    have both := (wordsOf_of_split cut).append isSep (wordsOf_of_split cut')
    have whole : (text ++ String.singleton c ++ other).toList = text.toList ++ c :: other.toList := by
      simp
    rw [← whole, ← List.map_append] at both
    rcases both.split with ⟨words', cut'', values⟩
    rw [cut'', List.map_injective_iff.mpr (fun _ _ => String.toList_inj.mp) values]

/-- A tab between a text with an escaped space and one with quotes and an empty word. -/
theorem split_joined_tab :
    '\t' ∈ [' ', '\t', '\r', '\n'] ∧ split "say\\ it 'a\"b'" = .ok ["say it", "a\"b"] ∧
      split "\"\" it\\'s\n" = .ok ["", "it's"] ∧
      split ("say\\ it 'a\"b'" ++ String.singleton '\t' ++ "\"\" it\\'s\n") =
        .ok (["say it", "a\"b"] ++ ["", "it's"]) := by
  have first : split "say\\ it 'a\"b'" = .ok ["say it", "a\"b"] := by decide +kernel
  have second : split "\"\" it\\'s\n" = .ok ["", "it's"] := by decide +kernel
  exact ⟨by decide, first, second, split_joined.2 _ _ '\t' _ _ (by decide) first second⟩

end SampleLibrary.Query
