import SampleLibrary.Proofs.Library.TagSearch
import SampleLibrary.Proofs.Query.Quoting
import SampleLibrary.Proofs.Text.Lowercase

/-!
# Queries that are written and read again

Conditions that were read from a text have a form that survives being written and read
(`Condition.WellFormed`), with one exception: a comparison for equality with a value that starts with an
equals sign. The sign and the start of the value are read as `==`, and the value has lost a character.
-/

namespace SampleLibrary.Query

/-! ## Signs of comparisons -/

namespace Comparison

/-- The characters that a sign starts with. -/
def isSign (c : Char) : Bool := c == '=' || c == '<' || c == '>' || c == '!'

theorem atStart?_of_not_isSign {c : Char} (other : isSign c = false) (cs : List Char) :
    atStart? (c :: cs) = none := by
  simp only [isSign, Bool.or_eq_false_iff, beq_eq_false_iff_ne] at other
  rcases other with ⟨⟨⟨notEquals, notLess⟩, notGreater⟩, notBang⟩
  simp [atStart?, spellings, Text.afterFront?, Ne.symm notEquals, Ne.symm notLess,
    Ne.symm notGreater, Ne.symm notBang]

/-- The first sign is found behind any text without the characters of signs. -/
theorem find?_append {before rest value : List Char} {op : Comparison}
    (unsigned : ∀ c ∈ before, isSign c = false) (found : atStart? rest = some (op, value)) :
    find? (before ++ rest) = some (before, op, value) := by
  induction before with
  | nil =>
      cases rest with
      | nil => cases found
      | cons c cs => simp [find?, found]
  | cons c before inductionHypothesis =>
      rw [List.cons_append, find?, atStart?_of_not_isSign (unsigned c List.mem_cons_self)]
      simp [inductionHypothesis fun d membership => unsigned d (List.mem_cons_of_mem _ membership)]

theorem find?_eq_some {cs before value : List Char} {op : Comparison}
    (found : find? cs = some (before, op, value)) : ∃ rest, atStart? rest = some (op, value) := by
  induction cs generalizing before with
  | nil => cases found
  | cons c cs inductionHypothesis =>
      unfold find? at found
      split at found
      · rename_i sign
        cases found
        exact ⟨c :: cs, sign⟩
      · rcases Option.map_eq_some_iff.mp found with ⟨⟨before', later⟩, isFound, same⟩
        cases same
        exact inductionHypothesis isFound

/-- A sign that is read is written in the same way, but for the two signs with two spellings. -/
theorem eq_sign_append {cs value : List Char} {op : Comparison}
    (found : atStart? cs = some (op, value)) :
    op = .eq ∨ op = .ne ∨ cs = op.sign.toList ++ value := by
  rcases List.exists_of_findSome?_eq_some found with ⟨⟨sign, spelled⟩, isSpelling, reads⟩
  rcases Option.map_eq_some_iff.mp reads with ⟨rest, behind, same⟩
  cases same
  rw [Text.afterFront?_eq_some] at behind
  simp only [spellings, List.mem_cons, Prod.mk.injEq, List.not_mem_nil, or_false] at isSpelling
  rcases isSpelling with ⟨rfl, rfl⟩ | ⟨rfl, rfl⟩ | ⟨rfl, rfl⟩ | ⟨rfl, rfl⟩ | ⟨rfl, rfl⟩ | ⟨rfl, rfl⟩ |
    ⟨rfl, rfl⟩ | ⟨rfl, rfl⟩ <;> simp [behind, sign]

/-- A sign that was read before a value is read before it again, unless it is the one for equality. -/
theorem atStart?_sign_append {cs value : List Char} {op : Comparison}
    (found : atStart? cs = some (op, value)) (notEq : op ≠ .eq) :
    atStart? (op.sign.toList ++ value) = some (op, value) := by
  rcases eq_sign_append found with isEq | rfl | same
  · exact absurd isEq notEq
  · rfl
  · rw [← same]
    exact found

theorem atStart?_equals_equals (value : List Char) :
    atStart? ('=' :: '=' :: value) = some (.eq, value) := rfl

theorem atStart?_equals {value : List Char} (single : value.head? ≠ some '=') :
    atStart? ('=' :: value) = some (.eq, value) := by
  cases value with
  | nil => rfl
  | cons c value =>
      have other : '=' ≠ c := by
        rintro rfl
        exact single rfl
      simp [atStart?, spellings, Text.afterFront?, other]

end Comparison

/-! ## Keys -/

namespace Condition

open Comparison (isSign)

theorem of_isKeyChar {c : Char} (keyChar : CustomKey.isKeyChar c = true) :
    isSign c = false ∧ (c = ' ' ∨ Text.isBlank c = false) := by
  simp only [CustomKey.isKeyChar, Text.isWord, Bool.or_eq_true, beq_iff_eq] at keyChar
  rcases keyChar with ((alphanumeric | rfl) | rfl) | rfl
  · refine ⟨?_, .inr (Text.not_isBlank_of_isAlphanumeric alphanumeric)⟩
    rw [← Bool.not_eq_true]
    intro sign
    simp only [isSign, Bool.or_eq_true, beq_iff_eq] at sign
    rcases sign with ((rfl | rfl) | rfl) | rfl <;> exact absurd alphanumeric (by decide)
  · exact ⟨by decide, .inr (by decide)⟩
  · exact ⟨by decide, .inl rfl⟩
  · exact ⟨by decide, .inr (by decide)⟩

theorem isKeyChar_of_isKey {key : String} (isKey : isKey key = true) :
    ∀ c ∈ key.toList, CustomKey.isKeyChar c = true := by
  unfold Condition.isKey at isKey
  split at isKey
  · rcases Option.isSome_iff_exists.mp isKey with ⟨f, found⟩
    have same : f.key = key := by simpa using List.find?_some found
    have checked : (Field.all.all fun f => f.key.toList.all CustomKey.isKeyChar) = true := by
      decide
    rw [← same]
    exact List.all_eq_true.mp (List.all_eq_true.mp checked f (Field.mem_all f))
  · unfold CustomKey.isValid at isKey
    split at isKey
    · rename_i first second rest chars
      rw [Bool.and_eq_true, List.all_eq_true] at isKey
      intro c membership
      rw [chars] at membership
      rcases List.mem_cons.mp membership with rfl | later
      · simp [CustomKey.isKeyChar, Text.isWord, isKey.1]
      · exact isKey.2 c later
    · cases isKey

theorem exists_first_of_isKey {key : String} (isKey : isKey key = true) :
    ∃ first rest, key.toList = first :: rest ∧ Text.isWord first = true := by
  unfold Condition.isKey at isKey
  split at isKey
  · rename_i underscore
    rw [beq_iff_eq, List.head?_eq_some_iff] at underscore
    rcases underscore with ⟨rest, chars⟩
    exact ⟨'_', rest, chars, by decide⟩
  · unfold CustomKey.isValid at isKey
    split at isKey
    · rename_i first second rest chars
      rw [Bool.and_eq_true] at isKey
      exact ⟨first, second :: rest, chars, by simp [Text.isWord, isKey.1]⟩
    · cases isKey

theorem not_isBlank_of_isWord {c : Char} (word : Text.isWord c = true) : Text.isBlank c = false := by
  rw [Text.isWord, Bool.or_eq_true, beq_iff_eq] at word
  rcases word with alphanumeric | rfl
  · exact Text.not_isBlank_of_isAlphanumeric alphanumeric
  · decide

/-- A key that was trimmed and put in lower case is trimmed and in lower case. -/
theorem settled_of_isKey {before : List Char}
    (isKey : isKey (Text.lowercase (String.ofList (Text.trim before))) = true) :
    Text.lowercase (String.ofList (Text.trim (Text.lowercase (String.ofList (Text.trim before))).toList))
      = Text.lowercase (String.ofList (Text.trim before)) := by
  have trimmed : Text.trim (Text.lowercase (String.ofList (Text.trim before))).toList =
      (Text.lowercase (String.ofList (Text.trim before))).toList := by
    apply Text.trim_of_sharp
    · intro c first
      rcases exists_first_of_isKey isKey with ⟨d, rest, chars, word⟩
      rw [chars] at first
      cases first
      exact not_isBlank_of_isWord word
    · intro c last
      rcases (of_isKeyChar (isKeyChar_of_isKey isKey c (List.mem_of_getLast? last))).2 with rfl | sharp
      · simp only [Text.lowercase, String.toList_ofList] at last
        exact absurd (Text.isBlank_of_getLast?_trim (Text.getLast?_lowerFrom last)) (by decide)
      · exact sharp
  rw [trimmed, String.ofList_toList, Text.lowercase_lowercase]

/-! ## One condition -/

/-- The word that the written condition stands for. -/
def toWord : Condition → String
  | tagged tag => "?" ++ tag
  | untagged tag => "-" ++ tag
  | compare key op value => key ++ op.sign ++ value
  | text t => t

/-- The value without an equals sign at its start. -/
def withoutEquals (value : String) : String :=
  match value.toList with
  | '=' :: rest => String.ofList rest
  | _ => value

theorem withoutEquals_eq_self_iff {value : String} :
    withoutEquals value = value ↔ value.toList.head? ≠ some '=' := by
  unfold withoutEquals
  split
  · rename_i rest chars
    rw [chars]
    constructor
    · intro same
      have shorter := congrArg List.length chars
      rw [← same] at shorter
      simp at shorter
    · intro single
      exact absurd rfl single
  · rename_i other
    refine ⟨fun _ first => ?_, fun _ => rfl⟩
    rcases List.head?_eq_some_iff.mp first with ⟨rest, chars⟩
    exact other rest chars

theorem atStart?_equals_append (value : String) :
    Comparison.atStart? ('=' :: value.toList) = some (.eq, (withoutEquals value).toList) := by
  by_cases doubled : value.toList.head? = some '='
  · rcases List.head?_eq_some_iff.mp doubled with ⟨rest, chars⟩
    simp only [withoutEquals, chars, String.toList_ofList]
    exact Comparison.atStart?_equals_equals rest
  · rw [withoutEquals_eq_self_iff.mpr doubled]
    exact Comparison.atStart?_equals doubled

/-- What becomes of a condition that is written and read: the sign for equality and a value that starts
with one more are read as a longer sign, and the value loses its first character. -/
def readBack : Condition → Condition
  | compare key .eq value => compare key .eq (withoutEquals value)
  | c => c

/-- Does the condition ask for equality with a value that starts with an equals sign? -/
def startsWithEquals : Condition → Bool
  | compare _ .eq value => value.toList.head? == some '='
  | _ => false

theorem readBack_eq_self_iff {c : Condition} : c.readBack = c ↔ c.startsWithEquals = false := by
  cases c with
  | compare key op value =>
      cases op with
      | eq => simp [readBack, startsWithEquals, withoutEquals_eq_self_iff]
      | ne | lt | le | gt | ge => simp [readBack, startsWithEquals]
  | tagged | untagged | text => simp [readBack, startsWithEquals]

/-- What is known of a condition that was read from a word. -/
def WellFormed : Condition → Prop
  | tagged tag => isTagName tag = true
  | untagged tag => isTagName tag = true
  | compare key op value =>
    isKey key = true ∧ Text.lowercase (String.ofList (Text.trim key.toList)) = key ∧
      (op ≠ .eq →
        Comparison.atStart? (op.sign.toList ++ value.toList) = some (op, value.toList))
  | text t => ofWord? t = some (text t)

theorem wellFormed_of_tagged? {word : String} {c : Condition} (read : tagged? word = some c) :
    c.WellFormed := by
  unfold tagged? at read
  split at read
  · dsimp only at read
    split at read
    · rename_i valid
      cases read
      exact ((Bool.and_eq_true _ _).mp valid).2
    · cases read
  · cases read

theorem wellFormed_of_untagged? {word : String} {c : Condition} (read : untagged? word = some c) :
    c.WellFormed := by
  unfold untagged? at read
  split at read
  · dsimp only at read
    split at read
    · rename_i valid
      cases read
      exact ((Bool.and_eq_true _ _).mp valid).2
    · cases read
  · cases read

theorem wellFormed_of_compare? {word : String} {c : Condition} (read : compare? word = some c) :
    c.WellFormed := by
  unfold compare? at read
  split at read
  · rename_i before op value found
    dsimp only at read
    split at read
    · rename_i valid
      cases read
      refine ⟨valid, settled_of_isKey valid, fun notEq => ?_⟩
      rcases Comparison.find?_eq_some found with ⟨rest, sign⟩
      rw [String.toList_ofList]
      exact Comparison.atStart?_sign_append sign notEq
    · cases read
  · cases read

theorem wellFormed_of_ofWord? {word : String} {c : Condition} (read : ofWord? word = some c) :
    c.WellFormed := by
  rcases Option.or_eq_some_iff.mp read with asTag | ⟨noTag, read'⟩
  · exact wellFormed_of_tagged? asTag
  · rcases Option.or_eq_some_iff.mp read' with asUntag | ⟨noUntag, read''⟩
    · exact wellFormed_of_untagged? asUntag
    · rcases Option.or_eq_some_iff.mp read'' with asComparison | ⟨noComparison, asText⟩
      · exact wellFormed_of_compare? asComparison
      · unfold text? at asText
        split at asText
        · cases asText
          exact read
        · cases asText

theorem spells_of_isTagName {tag : String} (valid : isTagName tag = true) :
    Spells tag.toList tag.toList := by
  rw [isTagName, Bool.or_eq_true, beq_iff_eq] at valid
  apply Spells.plain
  intro c membership
  rcases valid with rfl | valid
  · have slash : c = '/' := by simpa [Tag.root] using membership
    subst slash
    decide
  · exact plain_of_isValid valid membership

/-- A written condition is one word of a query. -/
theorem writesWord_toText {c : Condition} (wellFormed : c.WellFormed) :
    WritesWord c.toText.toList c.toWord.toList := by
  cases c with
  | tagged tag =>
      have sign : Spells ['?'] ['?'] := .plainly (by decide)
      refine ⟨?_, '?', by simp [toText], by decide⟩
      simpa [toText, toWord] using sign.append (spells_of_isTagName wellFormed)
  | untagged tag =>
      have sign : Spells ['-'] ['-'] := .plainly (by decide)
      refine ⟨?_, '-', by simp [toText], by decide⟩
      simpa [toText, toWord] using sign.append (spells_of_isTagName wellFormed)
  | compare key op value =>
      have sign : Spells op.sign.toList op.sign.toList := .plainly (by cases op <;> decide)
      rcases writesWord_quote key with ⟨spells, first, head, notSeparator⟩
      refine ⟨?_, first, by simp [toText, List.head?_append, head], notSeparator⟩
      simpa [toText, toWord] using (spells.append sign).append (spells_quote value)
  | text t => exact writesWord_quote t

/-- The word of a comparison is read as a comparison. -/
theorem compare?_toWord {key value rest : String} {op : Comparison} (valid : isKey key = true)
    (settled : Text.lowercase (String.ofList (Text.trim key.toList)) = key)
    (sign : Comparison.atStart? (op.sign.toList ++ value.toList) = some (op, rest.toList)) :
    compare? (compare key op value).toWord = some (compare key op rest) := by
  have found : Comparison.find? (compare key op value).toWord.toList =
      some (key.toList, op, rest.toList) := by
    have chars : (compare key op value).toWord.toList =
        key.toList ++ (op.sign.toList ++ value.toList) := by simp [toWord]
    rw [chars]
    exact Comparison.find?_append
      (fun c membership => (of_isKeyChar (isKeyChar_of_isKey valid c membership)).1) sign
  simp [compare?, found, settled, valid]

theorem ofWord?_of_isKey {key rest : String} (valid : isKey key = true) :
    ofWord? (key ++ rest) = (compare? (key ++ rest)).or (text? (key ++ rest)) := by
  rcases exists_first_of_isKey valid with ⟨first, others, chars, word⟩
  have plus : first ≠ '+' := by rintro rfl; exact absurd word (by decide)
  have question : first ≠ '?' := by rintro rfl; exact absurd word (by decide)
  have minus : first ≠ '-' := by rintro rfl; exact absurd word (by decide)
  simp [ofWord?, tagged?, untagged?, chars, plus, question, minus]

/-- A condition that was read once is read from its word again. -/
theorem ofWord?_toWord {c : Condition} (wellFormed : c.WellFormed) :
    ofWord? c.toWord = some c.readBack := by
  cases c with
  | tagged tag => simp [ofWord?, tagged?, toWord, show isTagName tag = true from wellFormed, readBack]
  | untagged tag =>
      simp [ofWord?, tagged?, untagged?, toWord, show isTagName tag = true from wellFormed, readBack]
  | compare key op value =>
      rcases wellFormed with ⟨valid, settled, sign⟩
      have readAs {rest : String}
          (sign : Comparison.atStart? (op.sign.toList ++ value.toList) = some (op, rest.toList)) :
          ofWord? (compare key op value).toWord = some (compare key op rest) := by
        have read := compare?_toWord valid settled sign
        rw [toWord, String.append_assoc] at read ⊢
        rw [ofWord?_of_isKey valid, read]
        rfl
      cases op with
      | eq => exact readAs (atStart?_equals_append value)
      | ne => exact readAs (sign (by decide))
      | lt => exact readAs (sign (by decide))
      | le => exact readAs (sign (by decide))
      | gt => exact readAs (sign (by decide))
      | ge => exact readAs (sign (by decide))
  | text t => exact wellFormed

end Condition

/-! ## Queries -/

theorem parse_render {conditions : List Condition}
    (wellFormed : ∀ c ∈ conditions, c.WellFormed) :
    parse (render conditions) = conditions.map Condition.readBack := by
  rw [parse, render, splitLenient_join fun c membership =>
    Condition.writesWord_toText (wellFormed c membership)]
  induction conditions with
  | nil => rfl
  | cons c conditions inductionHypothesis =>
      rw [List.map_cons, List.filterMap_cons,
        Condition.ofWord?_toWord (wellFormed c List.mem_cons_self), List.map_cons,
        inductionHypothesis fun d membership => wellFormed d (List.mem_cons_of_mem _ membership)]

theorem wellFormed_of_mem_parse {text : String} {c : Condition} (membership : c ∈ parse text) :
    c.WellFormed := by
  rcases List.mem_filterMap.mp membership with ⟨word, -, read⟩
  exact Condition.wellFormed_of_ofWord? read

/-- Writing the conditions of any text and reading them again changes nothing but values after the sign
for equality that start with an equals sign, which lose it. So the conditions are the same exactly if
there is no such value. -/
theorem parse_render_parse (text : String) :
    parse (render (parse text)) = (parse text).map Condition.readBack ∧
      (parse (render (parse text)) = parse text ↔
        ∀ c ∈ parse text, c.startsWithEquals = false) := by
  have read := parse_render fun c (membership : c ∈ parse text) => wellFormed_of_mem_parse membership
  refine ⟨read, ?_⟩
  have unchanged := List.map_inj_left (f := Condition.readBack) (g := id) (l := parse text)
  rw [List.map_id] at unchanged
  rw [read, unchanged]
  exact forall₂_congr fun c _ => Condition.readBack_eq_self_iff

/-- Three equals signs after a key: the value is `=1`, and then it is `1`. -/
theorem three_equals_signs :
    ¬∀ text, parse (render (parse text)) = parse text := by
  intro same
  exact absurd (same "bpm===1") (by decide +kernel)

end SampleLibrary.Query
