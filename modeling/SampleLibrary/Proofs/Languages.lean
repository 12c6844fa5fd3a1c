import Mathlib.Computability.Language
import SampleLibrary.Metadata.Key
import SampleLibrary.Proofs.Splitting
import SampleLibrary.Tag

/-!
# The languages of tags and custom keys

The names that a record takes can be told by regular expressions, with `\w` for a letter, a digit or an
underscore: tags by `((/[\w-]+)*/)?[\w-]+` and custom keys by `[^\W_][\w -]+`. The expressions are languages here,
made of classes of characters by union, concatenation and iteration, and the names that are found valid are
just their words (`valid_iff_mem_language`).
-/

namespace SampleLibrary

open scoped Computability

namespace Text

/-- The texts of one character of a class. -/
def oneOf (fits : Char → Bool) : Language Char := {cs | ∃ c, fits c = true ∧ cs = [c]}

/-- Words of a language, one after the other, at least one of them. -/
def repeated (l : Language Char) : Language Char := l * l∗

variable {fits : Char → Bool} {cs : List Char}

/-- A class is repeated in the texts, other than the empty one, that have its characters only. -/
theorem mem_repeated_oneOf :
    cs ∈ repeated (oneOf fits) ↔ cs ≠ [] ∧ ∀ c ∈ cs, fits c = true := by
  constructor
  · intro membership
    obtain ⟨_, ⟨first, firstFits, rfl⟩, _, iterated, rfl⟩ := Language.mem_mul.mp membership
    obtain ⟨pieces, rfl, single⟩ := Language.mem_kstar.mp iterated
    refine ⟨List.cons_ne_nil _ _, fun c inText => ?_⟩
    rcases List.mem_cons.mp inText with rfl | later
    · exact firstFits
    · obtain ⟨piece, isPiece, inPiece⟩ := List.mem_flatten.mp later
      obtain ⟨d, dFits, rfl⟩ := single piece isPiece
      rw [List.mem_singleton.mp inPiece]
      exact dFits
  · rintro ⟨nonempty, all⟩
    cases cs with
    | nil => exact absurd rfl nonempty
    | cons first rest =>
        have pieces : (rest.map fun c => [c]).flatten ∈ (oneOf fits)∗ := by
          apply Language.join_mem_kstar
          intro piece isPiece
          obtain ⟨c, inRest, rfl⟩ := List.mem_map.mp isPiece
          exact ⟨c, all c (List.mem_cons_of_mem _ inRest), rfl⟩
        have whole : (rest.map fun c => [c]).flatten = rest := by simp [← List.flatMap_def]
        rw [whole] at pieces
        have start : [first] ∈ oneOf fits := ⟨first, all first List.mem_cons_self, rfl⟩
        exact Language.append_mem_mul start pieces

/-- A text after a slash is the words between slashes, each behind its own one. -/
theorem flatten_splitAtAll (cs : List Char) :
    ((splitAtAll (· == '/') cs).map ('/' :: ·)).flatten = '/' :: cs := by
  induction cs with
  | nil => rfl
  | cons c cs inductionHypothesis =>
      unfold splitAtAll
      by_cases slash : c = '/'
      · simp [slash, inductionHypothesis]
      · cases pieces : splitAtAll (· == '/') cs with
        | nil => exact absurd pieces (splitAtAll_ne_nil _ cs)
        | cons piece more =>
            rw [pieces] at inductionHypothesis
            simpa [slash] using inductionHypothesis

/-- Words without slashes, each behind a slash, are the words between the slashes. -/
theorem splitAtAll_of_flatten {words : List (List Char)} (uncut : ∀ word ∈ words, '/' ∉ word)
    (whole : (words.map ('/' :: ·)).flatten = '/' :: cs) : splitAtAll (· == '/') cs = words := by
  have alone {word : List Char} (noSlash : '/' ∉ word) : splitAtAll (· == '/') word = [word] := by
    apply splitAtAll_of_forall
    intro c inWord
    exact beq_eq_false_iff_ne.mpr fun slash => noSlash (slash ▸ inWord)
  induction words generalizing cs with
  | nil => cases whole
  | cons word words inductionHypothesis =>
      obtain rfl : word ++ (words.map ('/' :: ·)).flatten = cs := by simpa using whole
      have first := alone (uncut word List.mem_cons_self)
      cases words with
      | nil => simpa using first
      | cons next words =>
          have later : splitAtAll (· == '/') (next ++ (words.map ('/' :: ·)).flatten) = next :: words :=
            inductionHypothesis (fun other membership => uncut other (List.mem_cons_of_mem _ membership)) rfl
          rw [List.map_cons, List.flatten_cons, List.cons_append, splitAtAll_append_cons (by decide),
            first, later]
          rfl

end Text

namespace Tag

open Text

/-- The class of the slash. -/
def slash : Language Char := oneOf (· == '/')

/-- The expression `[\w-]+`. -/
def word : Language Char := repeated (oneOf fun c => isWord c || c == '-')

/-- The expression `((/[\w-]+)*/)?[\w-]+`. -/
def language : Language Char := (1 + (slash * word)∗ * slash) * word

variable {cs : List Char}

theorem isSegment_iff : isSegment cs = true ↔ cs ∈ word := by
  rw [word, mem_repeated_oneOf, isSegment, Bool.and_eq_true, List.all_eq_true]
  simp [isTagChar]

theorem slash_not_mem_word (inWord : cs ∈ word) : '/' ∉ cs := by
  intro inText
  exact absurd ((mem_repeated_oneOf.mp inWord).2 '/' inText) (by decide)

theorem mem_slash_mul {l : Language Char} : cs ∈ slash * l ↔ ∃ rest ∈ l, cs = '/' :: rest := by
  rw [Language.mem_mul]
  constructor
  · rintro ⟨_, ⟨c, isSlash, rfl⟩, rest, inLanguage, rfl⟩
    rw [beq_iff_eq.mp isSlash]
    exact ⟨rest, inLanguage, rfl⟩
  · rintro ⟨rest, inLanguage, rfl⟩
    exact ⟨['/'], ⟨'/', rfl, rfl⟩, rest, inLanguage, rfl⟩

theorem exists_words {parts : List (List Char)} (all : ∀ part ∈ parts, part ∈ slash * word) :
    ∃ words : List (List Char), (∀ w ∈ words, w ∈ word) ∧ parts = words.map ('/' :: ·) := by
  induction parts with
  | nil => exact ⟨[], fun w none => absurd none List.not_mem_nil, rfl⟩
  | cons part parts inductionHypothesis =>
      obtain ⟨isPart, more⟩ := List.forall_mem_cons.mp all
      obtain ⟨w, inWord, rfl⟩ := mem_slash_mul.mp isPart
      obtain ⟨words, areWords, rfl⟩ := inductionHypothesis more
      exact ⟨w :: words, List.forall_mem_cons.mpr ⟨inWord, areWords⟩, rfl⟩

/-- A path is words behind slashes, at least one of them. -/
theorem mem_path : cs ∈ (slash * word)∗ * slash * word ↔
    ∃ words : List (List Char), words ≠ [] ∧ (∀ w ∈ words, w ∈ word) ∧
      cs = (words.map ('/' :: ·)).flatten := by
  -- the single slash goes to the last word, and then the last word is like the iterated ones
  rw [mul_assoc, Language.mul_self_kstar_comm]
  constructor
  · intro membership
    obtain ⟨part, isPart, _, iterated, rfl⟩ := Language.mem_mul.mp membership
    obtain ⟨parts, rfl, more⟩ := Language.mem_kstar.mp iterated
    obtain ⟨words, areWords, whole⟩ := exists_words (List.forall_mem_cons.mpr ⟨isPart, more⟩)
    refine ⟨words, ?_, areWords, whole ▸ rfl⟩
    rintro rfl
    cases whole
  · rintro ⟨words, nonempty, areWords, rfl⟩
    have inParts {w : List Char} (inWord : w ∈ word) : '/' :: w ∈ slash * word :=
      mem_slash_mul.mpr ⟨w, inWord, rfl⟩
    cases words with
    | nil => exact absurd rfl nonempty
    | cons w words =>
        obtain ⟨inWord, more⟩ := List.forall_mem_cons.mp areWords
        apply Language.append_mem_mul (inParts inWord)
        apply Language.join_mem_kstar
        exact List.forall_mem_map.mpr fun v inWords => inParts (more v inWords)

/-- Behind a slash, the words between the slashes count. -/
theorem cons_slash_mem_language {rest : List Char} :
    '/' :: rest ∈ language ↔ ∀ w ∈ splitAtAll (· == '/') rest, w ∈ word := by
  rw [language, add_mul, one_mul, Language.mem_add]
  constructor
  · rintro (single | path)
    · exact absurd List.mem_cons_self (slash_not_mem_word single)
    · obtain ⟨words, -, areWords, whole⟩ := mem_path.mp path
      rw [splitAtAll_of_flatten (fun w membership => slash_not_mem_word (areWords w membership)) whole.symm]
      exact areWords
  · intro areWords
    exact .inr (mem_path.mpr ⟨_, splitAtAll_ne_nil _ _, areWords, (flatten_splitAtAll rest).symm⟩)

/-- Without a slash in front there is one word only. -/
theorem mem_language_of_head_ne (noSlash : ∀ rest, cs ≠ '/' :: rest) : cs ∈ language ↔ cs ∈ word := by
  rw [language, add_mul, one_mul, Language.mem_add]
  refine or_iff_left fun path => ?_
  obtain ⟨words, nonempty, -, whole⟩ := mem_path.mp path
  cases words with
  | nil => exact nonempty rfl
  | cons w words => exact noSlash _ whole

theorem isValid_iff_mem_language (tag : String) : isValid tag = true ↔ tag.toList ∈ language := by
  unfold isValid
  split
  · rename_i rest path
    rw [path, cons_slash_mem_language, List.all_eq_true]
    exact forall₂_congr fun w _ => isSegment_iff
  · rename_i noSlash
    rw [mem_language_of_head_ne noSlash]
    exact isSegment_iff

end Tag

namespace CustomKey

open Text

/-- The expression `[^\W_][\w -]+`. -/
def language : Language Char :=
  oneOf (fun c => !(!isWord c || c == '_')) * repeated (oneOf fun c => isWord c || c == ' ' || c == '-')

theorem cons_mem_language {first : Char} {rest : List Char} :
    first :: rest ∈ language ↔
      isAlphanumeric first = true ∧ rest ≠ [] ∧ ∀ c ∈ rest, isKeyChar c = true := by
  have start : (!(!isWord first || first == '_')) = isAlphanumeric first := by
    by_cases underscore : first = '_'
    · subst underscore
      decide
    · have other : (first == '_') = false := beq_false_of_ne underscore
      simp [isWord, other]
  rw [language, Language.mem_mul]
  constructor
  · rintro ⟨_, ⟨c, fits, rfl⟩, more, further, whole⟩
    cases whole
    exact ⟨start.symm.trans fits, mem_repeated_oneOf.mp further⟩
  · rintro ⟨alphanumeric, further⟩
    exact ⟨[first], ⟨first, start.trans alphanumeric, rfl⟩, rest, mem_repeated_oneOf.mpr further, rfl⟩

theorem isValid_iff_mem_language (key : String) : isValid key = true ↔ key.toList ∈ language := by
  unfold isValid
  cases key.toList with
  | nil =>
      refine iff_of_false Bool.false_ne_true fun membership => ?_
      obtain ⟨_, ⟨c, -, rfl⟩, rest, -, whole⟩ := Language.mem_mul.mp membership
      cases whole
  | cons first rest =>
      rw [cons_mem_language]
      cases rest with
      | nil => simp
      | cons second rest => simp

end CustomKey

/-- What is found to be a valid tag or a valid key is just what the expressions allow. -/
theorem valid_iff_mem_language :
    (∀ tag : String, Tag.isValid tag = true ↔ tag.toList ∈ Tag.language) ∧
    (∀ key : String, CustomKey.isValid key = true ↔ key.toList ∈ CustomKey.language) :=
  ⟨Tag.isValid_iff_mem_language, CustomKey.isValid_iff_mem_language⟩

end SampleLibrary
