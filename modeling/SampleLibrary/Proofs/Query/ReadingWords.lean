import SampleLibrary.Proofs.Query.RoundTrip

/-!
# How the words of a query are read

The grammar of words is told without the parsers that are tried one after the other. A word asks for a tag
(`AsksFor`) or for its absence (`Excludes`); a word that does neither is cut at its first sign and compares
what the key in front of it names (`Compares`); a word that does not do this either is a text if it has a
letter. Each word is read as the grammar says (`ReadByGrammar`), each comparison has a word, and a query
keeps the order of its words (`words_read_by_grammar`).
-/

namespace SampleLibrary.Query

/-! ## The first sign of a word -/

namespace Comparison

/-- No longer sign stands where this one does. -/
def IsLongest (sign value : List Char) : Prop :=
  ∀ other ∈ spellings, other.1 <+: sign ++ value → other.1.length ≤ sign.length

/-- The text is cut at the earliest place where a sign stands, and the longest sign there is taken. -/
structure FirstSign (cs before sign value : List Char) : Prop where
  whole : cs = before ++ (sign ++ value)
  longest : IsLongest sign value
  earliest : ∀ front rest, cs = front ++ rest → front.length < before.length →
    ∀ other ∈ spellings, ¬other.1 <+: rest

theorem spellings_longest_first : spellings.Pairwise fun a b => b.1.length ≤ a.1.length := by decide

/-- A sign has one meaning. -/
theorem meaning_unique {sign : List Char} {op op' : Comparison} (isSign : (sign, op) ∈ spellings)
    (isSign' : (sign, op') ∈ spellings) : op = op' := by
  have checked : ∀ a ∈ spellings, ∀ b ∈ spellings, a.1 = b.1 → a.2 = b.2 := by decide
  exact checked _ isSign _ isSign' rfl

theorem atStart?_eq_none_iff {cs : List Char} :
    atStart? cs = none ↔ ∀ other ∈ spellings, ¬other.1 <+: cs := by
  rw [atStart?, List.findSome?_eq_none_iff]
  refine forall₂_congr fun other _ => ?_
  rw [Option.map_eq_none_iff, Option.eq_none_iff_forall_ne_some]
  constructor
  · rintro none ⟨rest, same⟩
    exact none rest (Text.afterFront?_eq_some.mpr same.symm)
  · intro none rest behind
    exact none ⟨rest, (Text.afterFront?_eq_some.mp behind).symm⟩

/-- The order of the table makes the sign that is read the longest one. -/
theorem exists_longest_of_atStart? {cs value : List Char} {op : Comparison}
    (found : atStart? cs = some (op, value)) :
    ∃ sign, (sign, op) ∈ spellings ∧ cs = sign ++ value ∧ IsLongest sign value := by
  obtain ⟨shorter, ⟨sign, op'⟩, longer, table, reads, passed⟩ := List.findSome?_eq_some_iff.mp found
  obtain ⟨rest, behind, same⟩ := Option.map_eq_some_iff.mp reads
  cases same
  rw [Text.afterFront?_eq_some] at behind
  refine ⟨sign, by simp [table], behind, fun other isSpelling stands => ?_⟩
  have sorted := spellings_longest_first
  rw [table, List.pairwise_append, List.pairwise_cons] at sorted
  rw [table, List.mem_append, List.mem_cons] at isSpelling
  rcases isSpelling with tried | rfl | later
  · -- what was tried before does not stand here at all
    obtain ⟨rest', same⟩ := stands
    have missing := passed other tried
    rw [Option.map_eq_none_iff, behind, Text.afterFront?_eq_some.mpr same.symm] at missing
    cases missing
  · exact Nat.le_refl _
  · exact sorted.2.1.1 other later

theorem atStart?_eq_some_iff {cs value : List Char} {op : Comparison} :
    atStart? cs = some (op, value) ↔
      ∃ sign, (sign, op) ∈ spellings ∧ cs = sign ++ value ∧ IsLongest sign value := by
  refine ⟨exists_longest_of_atStart?, ?_⟩
  rintro ⟨sign, isSign, rfl, longest⟩
  cases found : atStart? (sign ++ value) with
  | none => exact absurd (List.prefix_append sign value) (atStart?_eq_none_iff.mp found _ isSign)
  | some result =>
      obtain ⟨op', value'⟩ := result
      obtain ⟨sign', isSign', same, longest'⟩ := exists_longest_of_atStart? found
      have atMost := longest (sign', op') isSign' (same ▸ List.prefix_append sign' value')
      have atLeast := longest' (sign, op) isSign (same ▸ List.prefix_append sign value)
      obtain ⟨rfl, rfl⟩ := List.append_inj same (Nat.le_antisymm atLeast atMost)
      rw [meaning_unique isSign isSign']

/-- The first place where a sign stands, by the places before it. -/
theorem find?_eq_some_iff_atStart? {cs before value : List Char} {op : Comparison} :
    find? cs = some (before, op, value) ↔
      (∃ rest, cs = before ++ rest ∧ atStart? rest = some (op, value)) ∧
        ∀ front rest, cs = front ++ rest → front.length < before.length → atStart? rest = none := by
  induction cs generalizing before with
  | nil =>
      constructor
      · intro found
        cases found
      · rintro ⟨⟨rest, same, found⟩, -⟩
        rw [(List.append_eq_nil_iff.mp same.symm).2] at found
        cases found
  | cons c cs inductionHypothesis =>
      unfold find?
      cases here : atStart? (c :: cs) with
      | some result =>
          obtain ⟨op', value'⟩ := result
          constructor
          · intro found
            cases found
            exact ⟨⟨c :: cs, rfl, here⟩, by simp⟩
          · rintro ⟨⟨rest, same, found⟩, earliest⟩
            cases before with
            | nil =>
                rw [← List.nil_append rest, ← same, here] at found
                cases found
                rfl
            | cons d before =>
                rw [earliest [] (c :: cs) rfl (Nat.succ_pos _)] at here
                cases here
      | none =>
          dsimp only
          rw [Option.map_eq_some_iff]
          constructor
          · rintro ⟨⟨before', found⟩, later, same⟩
            cases same
            obtain ⟨⟨rest, rfl, starts⟩, earliest⟩ := inductionHypothesis.mp later
            refine ⟨⟨rest, rfl, starts⟩, fun front rest' cut shorter => ?_⟩
            cases front with
            | nil =>
                rw [List.nil_append] at cut
                rwa [← cut]
            | cons d front =>
                exact earliest front rest' (List.cons_eq_cons.mp cut).2 (Nat.lt_of_succ_lt_succ shorter)
          · rintro ⟨⟨rest, same, starts⟩, earliest⟩
            cases before with
            | nil =>
                rw [List.nil_append] at same
                rw [same, starts] at here
                cases here
            | cons d before =>
                obtain ⟨rfl, rfl⟩ := List.cons_eq_cons.mp same
                refine ⟨(before, op, value), inductionHypothesis.mpr ⟨⟨rest, rfl, starts⟩, ?_⟩, rfl⟩
                intro front rest' cut shorter
                exact earliest (c :: front) rest' (by rw [cut]; rfl) (Nat.succ_lt_succ shorter)

theorem find?_eq_some_iff {cs before value : List Char} {op : Comparison} :
    find? cs = some (before, op, value) ↔
      ∃ sign, (sign, op) ∈ spellings ∧ FirstSign cs before sign value := by
  rw [find?_eq_some_iff_atStart?]
  simp only [atStart?_eq_none_iff]
  constructor
  · rintro ⟨⟨rest, whole, starts⟩, earliest⟩
    obtain ⟨sign, isSign, rfl, longest⟩ := atStart?_eq_some_iff.mp starts
    exact ⟨sign, isSign, whole, longest, earliest⟩
  · rintro ⟨sign, isSign, whole, longest, earliest⟩
    exact ⟨⟨sign ++ value, whole, atStart?_eq_some_iff.mpr ⟨sign, isSign, rfl, longest⟩⟩, earliest⟩

end Comparison

/-! ## The grammar -/

namespace Condition

/-- The tags that a query can name. -/
def IsTag (tag : String) : Prop := tag = Tag.root ∨ Tag.isValid tag = true

def AsksFor (word tag : String) : Prop := (word = "?" ++ tag ∨ word = "+" ++ tag) ∧ IsTag tag

def Excludes (word tag : String) : Prop := word = "-" ++ tag ∧ IsTag tag

/-- The word is about a tag. -/
def IsAboutTag (word : String) : Prop := ∃ tag, AsksFor word tag ∨ Excludes word tag

/-- The keys that can be compared: those of fields and those of custom values. -/
def IsKey (key : String) : Prop := (∃ f : Field, key = "_" ++ f.toName) ∨ CustomKey.isValid key = true

/-- The word is cut at its first sign. What is in front of it is trimmed and put in lower case to be a
key; what is behind it is the value. -/
def Compares (word key : String) (op : Comparison) (value : String) : Prop :=
  ∃ before sign, (sign, op) ∈ Comparison.spellings ∧
    Comparison.FirstSign word.toList before sign value.toList ∧
    key = Text.lowercase (String.ofList (Text.trim before)) ∧ IsKey key

def HasLetter (word : String) : Prop := ∃ c ∈ word.toList, Text.isWord c = true

theorem isTagName_iff {tag : String} : isTagName tag = true ↔ IsTag tag := by
  rw [isTagName, Bool.or_eq_true, beq_iff_eq, IsTag]

theorem isKey_iff {key : String} : isKey key = true ↔ IsKey key := by
  unfold isKey IsKey
  by_cases underscore : key.toList.head? = some '_'
  · obtain ⟨rest, chars⟩ := List.head?_eq_some_iff.mp underscore
    have notCustom : CustomKey.isValid key = false := by
      unfold CustomKey.isValid
      rw [chars]
      split
      · next first second others same =>
          cases same
          rfl
      · rfl
    rw [if_pos (by simpa using underscore), notCustom, Field.ofKey?, List.find?_isSome]
    simp only [Bool.false_eq_true, or_false, beq_iff_eq]
    constructor
    · rintro ⟨f, -, named⟩
      exact ⟨f, named.symm⟩
    · rintro ⟨f, rfl⟩
      exact ⟨f, Field.mem_all f, rfl⟩
  · rw [if_neg (by simpa using underscore)]
    refine ⟨.inr, ?_⟩
    rintro (⟨f, rfl⟩ | valid)
    · simp at underscore
    · exact valid

/-! ## The parsers -/

section Parsers

variable {word : String} {c : Condition}

theorem asksFor_iff {tag : String} : AsksFor word tag ↔
    (word.toList = '?' :: tag.toList ∨ word.toList = '+' :: tag.toList) ∧ IsTag tag := by
  simp [AsksFor, ← String.toList_inj]

theorem excludes_iff {tag : String} : Excludes word tag ↔ word.toList = '-' :: tag.toList ∧ IsTag tag := by
  simp [Excludes, ← String.toList_inj]

/-- A word that is a sign with the name of a tag behind it. -/
def signedTag? (isSign : Char → Bool) (condition : String → Condition) (word : String) :
    Option Condition :=
  match word.toList with
  | sign :: tag =>
    if isSign sign && isTagName (String.ofList tag) then some (condition (String.ofList tag)) else none
  | [] => none

theorem signedTag?_eq_some_iff {isSign : Char → Bool} {condition : String → Condition} :
    signedTag? isSign condition word = some c ↔
      ∃ sign tag, isSign sign = true ∧ word.toList = sign :: tag.toList ∧ IsTag tag ∧ c = condition tag := by
  unfold signedTag?
  cases word.toList with
  | nil => simp
  | cons first others =>
      dsimp only
      rw [Option.ite_none_right_eq_some, Bool.and_eq_true, isTagName_iff, Option.some_inj]
      constructor
      · rintro ⟨⟨signed, isTag⟩, rfl⟩
        exact ⟨first, String.ofList others, signed, by simp, isTag, rfl⟩
      · rintro ⟨sign, tag, signed, same, isTag, rfl⟩
        obtain ⟨rfl, rfl⟩ := List.cons_eq_cons.mp same
        simpa using ⟨signed, isTag⟩

theorem tagged?_eq_some_iff : tagged? word = some c ↔ ∃ tag, c = .tagged tag ∧ AsksFor word tag := by
  have signed : tagged? word = signedTag? (fun sign => sign == '?' || sign == '+') .tagged word := rfl
  simp only [signed, signedTag?_eq_some_iff, asksFor_iff, Bool.or_eq_true, beq_iff_eq]
  constructor
  · rintro ⟨sign, tag, rfl | rfl, same, isTag, rfl⟩
    · exact ⟨tag, rfl, .inl same, isTag⟩
    · exact ⟨tag, rfl, .inr same, isTag⟩
  · rintro ⟨tag, rfl, same | same, isTag⟩
    · exact ⟨'?', tag, .inl rfl, same, isTag, rfl⟩
    · exact ⟨'+', tag, .inr rfl, same, isTag, rfl⟩

theorem untagged?_eq_some_iff :
    untagged? word = some c ↔ ∃ tag, c = .untagged tag ∧ Excludes word tag := by
  have signed : untagged? word = signedTag? (· == '-') .untagged word := rfl
  simp only [signed, signedTag?_eq_some_iff, excludes_iff, beq_iff_eq]
  constructor
  · rintro ⟨sign, tag, rfl, same, isTag, rfl⟩
    exact ⟨tag, rfl, same, isTag⟩
  · rintro ⟨tag, rfl, same, isTag⟩
    exact ⟨'-', tag, rfl, same, isTag, rfl⟩

theorem compare?_eq_some_iff : compare? word = some c ↔
    ∃ key op value, c = .compare key op value ∧ Compares word key op value := by
  unfold compare?
  constructor
  · intro read
    split at read
    · next before op value found =>
        dsimp only at read
        split at read
        · next valid =>
            cases read
            obtain ⟨sign, isSign, first⟩ := Comparison.find?_eq_some_iff.mp found
            exact ⟨_, op, _, rfl, before, sign, isSign, by simpa using first, rfl, isKey_iff.mp valid⟩
        · cases read
    · cases read
  · rintro ⟨key, op, value, rfl, before, sign, isSign, first, rfl, valid⟩
    rw [Comparison.find?_eq_some_iff.mpr ⟨sign, isSign, first⟩]
    dsimp only
    rw [if_pos (isKey_iff.mpr valid), String.ofList_toList]

theorem text?_eq_some_iff : text? word = some c ↔ c = .text word ∧ HasLetter word := by
  have letters : word.toList.any Text.isWord = true ↔ HasLetter word := List.any_eq_true
  unfold text?
  rw [Option.ite_none_right_eq_some, letters, Option.some_inj, eq_comm, and_comm]

/-- What one parser reads tells when it reads nothing. -/
theorem isNone_iff {read : Option Condition} {reads : Condition → Prop}
    (reads_iff : ∀ c, read = some c ↔ reads c) : read = none ↔ ∀ c, ¬reads c := by
  rw [Option.eq_none_iff_forall_ne_some]
  exact forall_congr' fun c => not_congr (reads_iff c)

theorem not_isAboutTag_iff : ¬IsAboutTag word ↔ tagged? word = none ∧ untagged? word = none := by
  rw [isNone_iff fun _ => tagged?_eq_some_iff, isNone_iff fun _ => untagged?_eq_some_iff]
  unfold IsAboutTag
  constructor
  · intro other
    constructor
    · rintro c ⟨tag, -, asks⟩
      exact other ⟨tag, .inl asks⟩
    · rintro c ⟨tag, -, excludes⟩
      exact other ⟨tag, .inr excludes⟩
  · rintro ⟨noTag, noUntag⟩ ⟨tag, asks | excludes⟩
    · exact noTag _ ⟨tag, rfl, asks⟩
    · exact noUntag _ ⟨tag, rfl, excludes⟩

theorem not_compares_iff : (¬∃ key op value, Compares word key op value) ↔ compare? word = none := by
  rw [isNone_iff fun _ => compare?_eq_some_iff]
  constructor
  · rintro other c ⟨key, op, value, -, compares⟩
    exact other ⟨key, op, value, compares⟩
  · rintro none ⟨key, op, value, compares⟩
    exact none _ ⟨key, op, value, rfl, compares⟩

/-- A word cannot both ask for a tag and exclude one. -/
theorem tagged?_of_excludes {tag : String} (excludes : Excludes word tag) : tagged? word = none := by
  rw [isNone_iff fun _ => tagged?_eq_some_iff]
  rintro c ⟨other, -, asks⟩
  rw [excludes_iff] at excludes
  rw [asksFor_iff, excludes.1] at asks
  simp at asks

end Parsers

/-! ## Words -/

/-- The word is read as the grammar says: as a tag, else as a comparison, else as a text, else not at
all. -/
structure ReadByGrammar (word : String) : Prop where
  tagged : ∀ tag, ofWord? word = some (.tagged tag) ↔ AsksFor word tag
  untagged : ∀ tag, ofWord? word = some (.untagged tag) ↔ Excludes word tag
  compare : ∀ key op value, ofWord? word = some (.compare key op value) ↔
    ¬IsAboutTag word ∧ Compares word key op value
  text : ∀ text, ofWord? word = some (.text text) ↔
    (¬IsAboutTag word ∧ ¬∃ key op value, Compares word key op value) ∧ text = word ∧ HasLetter word
  none : ofWord? word = none ↔
    (¬IsAboutTag word ∧ ¬∃ key op value, Compares word key op value) ∧ ¬HasLetter word

theorem readByGrammar (word : String) : ReadByGrammar word where
  tagged tag := by
    simp [ofWord?, tagged?_eq_some_iff, untagged?_eq_some_iff, compare?_eq_some_iff, text?_eq_some_iff]
  untagged tag := by
    simp only [ofWord?, Option.or_eq_some_iff, tagged?_eq_some_iff, untagged?_eq_some_iff,
      compare?_eq_some_iff, text?_eq_some_iff]
    constructor
    · simp
    · intro excludes
      exact .inr ⟨tagged?_of_excludes excludes, .inl ⟨tag, rfl, excludes⟩⟩
  compare key op value := by
    rw [not_isAboutTag_iff]
    simp [ofWord?, tagged?_eq_some_iff, untagged?_eq_some_iff, compare?_eq_some_iff, text?_eq_some_iff,
      and_assoc]
  text text := by
    rw [not_isAboutTag_iff, not_compares_iff]
    simp [ofWord?, tagged?_eq_some_iff, untagged?_eq_some_iff, compare?_eq_some_iff, text?_eq_some_iff,
      and_assoc]
  none := by
    rw [not_isAboutTag_iff, not_compares_iff]
    have noText : text? word = none ↔ ¬HasLetter word := by
      rw [isNone_iff fun _ => text?_eq_some_iff]
      simp
    simp [ofWord?, noText, and_assoc]

/-- A key that is as it is stored is read again, whatever sign follows it, as long as the value does not
make the sign a longer one. -/
theorem ofWord?_compare {key value : String} {sign : List Char} {op : Comparison} (isKey : IsKey key)
    (trimmed : Text.trim key.toList = key.toList) (lowered : Text.lowercase key = key)
    (isSign : (sign, op) ∈ Comparison.spellings) (longest : Comparison.IsLongest sign value.toList) :
    ofWord? (key ++ String.ofList sign ++ value) = some (.compare key op value) := by
  have valid := isKey_iff.mpr isKey
  have found : Comparison.find? (key ++ (String.ofList sign ++ value)).toList
      = some (key.toList, op, value.toList) := by
    rw [String.toList_append]
    refine Comparison.find?_append
      (fun c membership => (of_isKeyChar (isKeyChar_of_isKey valid c membership)).1) ?_
    exact Comparison.atStart?_eq_some_iff.mpr ⟨sign, isSign, by simp, longest⟩
  rw [String.append_assoc, ofWord?_of_isKey valid, compare?, found]
  simp [trimmed, lowered, valid]

end Condition

/-! ## Queries -/

/-- The conditions of a query are those of its words, in order. -/
theorem forall₂_parse (text : String) :
    List.Forall₂ (fun word c => Condition.ofWord? word = some c)
      ((splitLenient text).filter fun word => (Condition.ofWord? word).isSome) (parse text) := by
  unfold parse
  induction splitLenient text with
  | nil => exact .nil
  | cons word words inductionHypothesis =>
      cases read : Condition.ofWord? word with
      | none => simpa [List.filter_cons, List.filterMap_cons, read] using inductionHypothesis
      | some c => simpa [List.filter_cons, List.filterMap_cons, read] using inductionHypothesis

theorem length_parse_add_dropped (text : String) :
    (parse text).length + dropped text = (splitLenient text).length := by
  have kept := (forall₂_parse text).length_eq
  rw [dropped, ← kept, ← List.countP_eq_length_filter,
    List.length_eq_countP_add_countP (fun word => (Condition.ofWord? word).isSome)]
  simp [-Option.isNone_iff_eq_none]

/-- **Words are read by the grammar.** Every word is read as the grammar says and as nothing else; every
comparison that can be asked for has a word that asks for it; and a query has one condition for each word
that is understood, in the order of the words. -/
theorem words_read_by_grammar :
    (∀ word, Condition.ReadByGrammar word) ∧
      (∀ key sign op value, Condition.IsKey key → Text.trim key.toList = key.toList →
        Text.lowercase key = key → (sign, op) ∈ Comparison.spellings →
        Comparison.IsLongest sign value.toList →
        Condition.ofWord? (key ++ String.ofList sign ++ value) = some (.compare key op value)) ∧
      ∀ text, List.Forall₂ (fun word c => Condition.ofWord? word = some c)
          ((splitLenient text).filter fun word => (Condition.ofWord? word).isSome) (parse text) ∧
        (parse text).length + dropped text = (splitLenient text).length := by
  refine ⟨Condition.readByGrammar, ?_, fun text => ⟨forall₂_parse text, length_parse_add_dropped text⟩⟩
  intro key sign op value isKey trimmed lowered isSign longest
  exact Condition.ofWord?_compare isKey trimmed lowered isSign longest

/-- Of two signs that stand in the same place the longer one is read, and the value starts behind it. -/
theorem beats_at_least_120 :
    Condition.ofWord? ("bpm" ++ String.ofList ['>', '='] ++ "=120") = some (.compare "bpm" .ge "=120") :=
  words_read_by_grammar.2.1 "bpm" ['>', '='] .ge "=120" (.inr (by decide)) (by decide) (by decide +kernel)
    (by decide) (by unfold Comparison.IsLongest; decide)

end SampleLibrary.Query
