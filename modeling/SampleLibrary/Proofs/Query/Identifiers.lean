import SampleLibrary.Proofs.Query.Placeholders
import SampleLibrary.Proofs.Splitting

/-!
# The identifiers of a statement

What names and keywords a statement has is read off its text (`identifiers`), and not off the pieces it is put
together from: two names could run into one another where pieces meet. The identifiers of a text are those
of its parts where a `Gap` is between them. The custom tests are spelt out in this way
(`CustomTest.identifiers_written`).
-/

namespace SampleLibrary.Query

/-! ## Identifiers -/

/-- Does the character stand between identifiers? -/
def isBetween (c : Char) : Bool := !(Text.isAsciiAlphanumeric c || c == '_')

/-- The names and keywords of a text, in order. -/
def identifiers (text : String) : List String :=
  (Text.wordsBetween isBetween text.toList).map String.ofList

example : identifiers "icv0.item_id = ? AND" = ["icv0", "item_id", "AND"] := by decide

/-- No identifier goes on beyond the end of the text, or in front of its start. -/
def endsApart (text : String) : Bool := text.toList.getLast?.all isBetween

def startsApart (text : String) : Bool := text.toList.head?.all isBetween

theorem identifiers_append_of_startsApart (front : String) {rest : String} (apart : startsApart rest = true) :
    identifiers (front ++ rest) = identifiers front ++ identifiers rest := by
  simp only [identifiers, String.toList_append, startsApart] at apart ⊢
  cases chars : rest.toList with
  | nil => simp [Text.wordsBetween, Text.splitAtAll]
  | cons c cs =>
      rw [chars, List.head?_cons, Option.all_some] at apart
      have alone := Text.wordsBetween_append_cons apart [] cs
      rw [List.nil_append] at alone
      rw [Text.wordsBetween_append_cons apart, alone, List.map_append]
      rfl

theorem identifiers_append_of_endsApart {front : String} (rest : String) (apart : endsApart front = true) :
    identifiers (front ++ rest) = identifiers front ++ identifiers rest := by
  simp only [identifiers, String.toList_append, endsApart] at apart ⊢
  rcases List.eq_nil_or_concat' front.toList with chars | ⟨cs, c, chars⟩
  · simp [chars, Text.wordsBetween, Text.splitAtAll]
  · rw [chars, List.getLast?_append_cons, List.getLast?_singleton, Option.all_some] at apart
    have alone := Text.wordsBetween_append_cons apart cs []
    rw [chars, List.append_assoc, List.singleton_append, Text.wordsBetween_append_cons apart, alone,
      List.map_append, List.map_append]
    simp [Text.wordsBetween, Text.splitAtAll]

theorem endsApart_append (front : String) {rest : String} (nonempty : rest ≠ "")
    (apart : endsApart rest = true) : endsApart (front ++ rest) = true := by
  simp only [endsApart, String.toList_append] at apart ⊢
  rwa [List.getLast?_append_of_ne_nil]
  simpa using nonempty

theorem startsApart_append (rest : String) {front : String} (nonempty : front ≠ "")
    (apart : startsApart front = true) : startsApart (front ++ rest) = true := by
  simp only [startsApart, String.toList_append] at apart ⊢
  rwa [List.head?_append_of_ne_nil]
  simpa using nonempty

/-- The text has these identifiers, and none goes on beyond its end. -/
structure HasIdentifiers (text : String) (words : List String) : Prop where
  eq : identifiers text = words
  ends : endsApart text = true

/-- A text that keeps what is in front of it and what is behind it apart. -/
structure Gap (text : String) (words : List String) : Prop extends HasIdentifiers text words where
  nonempty : text ≠ ""
  starts : startsApart text = true

instance (text : String) (words : List String) : Decidable (Gap text words) :=
  decidable_of_iff
    ((identifiers text = words ∧ endsApart text = true) ∧ text ≠ "" ∧ startsApart text = true)
    ⟨fun ⟨⟨eq, ends⟩, nonempty, starts⟩ => ⟨⟨eq, ends⟩, nonempty, starts⟩,
      fun gap => ⟨⟨gap.eq, gap.ends⟩, gap.nonempty, gap.starts⟩⟩

/-- One more identifier and what sets it apart from the next one. -/
theorem HasIdentifiers.next {text word between : String} {words gapWords : List String} (spells : HasIdentifiers text words)
    (single : identifiers word = [word]) (gap : Gap between gapWords) :
    HasIdentifiers (text ++ word ++ between) (words ++ word :: gapWords) where
  eq := by
    rw [identifiers_append_of_startsApart _ gap.starts, identifiers_append_of_endsApart _ spells.ends,
      spells.eq, single, gap.eq, List.append_assoc, List.singleton_append]
  ends := endsApart_append _ gap.nonempty gap.ends

/-- Words that are put together with gaps between them. -/
theorem identifiers_join_cons {between : String} {words : List String} (gap : Gap between words)
    (text next : String) (texts : List String) : identifiers (Text.join between (text :: next :: texts))
      = identifiers text ++ words ++ identifiers (Text.join between (next :: texts)) := by
  have joined : Text.join between (text :: next :: texts)
      = text ++ between ++ Text.join between (next :: texts) := String.intercalate_cons_cons
  have ends := endsApart_append text gap.nonempty gap.ends
  rw [joined, identifiers_append_of_endsApart _ ends, identifiers_append_of_startsApart _ gap.starts, gap.eq]

theorem mem_identifiers_join {between : String} {words : List String} (gap : Gap between words)
    {texts : List String} {word : String} (membership : word ∈ identifiers (Text.join between texts)) :
    word ∈ words ∨ ∃ text ∈ texts, word ∈ identifiers text := by
  induction texts with
  | nil => exact absurd membership List.not_mem_nil
  | cons text texts inductionHypothesis =>
      cases texts with
      | nil => exact .inr ⟨text, List.mem_cons_self, by simpa [Text.join] using membership⟩
      | cons next texts =>
          rw [identifiers_join_cons gap, List.mem_append, List.mem_append] at membership
          rcases membership with (inText | inGap) | later
          · exact .inr ⟨text, List.mem_cons_self, inText⟩
          · exact .inl inGap
          · rcases inductionHypothesis later with inGap | ⟨other, isOther, inOther⟩
            · exact .inl inGap
            · exact .inr ⟨other, List.mem_cons_of_mem _ isOther, inOther⟩

theorem identifiers_eq_singleton {word : String} (nonempty : word ≠ "")
    (chars : ∀ c ∈ word.toList, isBetween c = false) : identifiers word = [word] := by
  rw [identifiers, Text.wordsBetween_of_forall (by simpa using nonempty) chars, List.map_singleton,
    String.ofList_toList]

/-! ## Names of tables -/

/-- Could the word be the name of a table of a custom test? -/
def isTableName (word : String) : Bool :=
  "icv".toList.isPrefixOf word.toList || "ck".toList.isPrefixOf word.toList

theorem toList_valueTable (number : Nat) :
    (valueTable number).toList = 'i' :: 'c' :: 'v' :: Decimal.natDigits number := by
  rw [valueTable, String.toList_append, Decimal.toList_toString]
  rfl

theorem toList_keyTable (number : Nat) :
    (keyTable number).toList = 'c' :: 'k' :: Decimal.natDigits number := by
  rw [keyTable, String.toList_append, Decimal.toList_toString]
  rfl

theorem isTableName_valueTable (number : Nat) : isTableName (valueTable number) = true := by
  simp [isTableName, toList_valueTable]

theorem isTableName_keyTable (number : Nat) : isTableName (keyTable number) = true := by
  simp [isTableName, toList_keyTable]

theorem numbered_injective {front : String} {number other : Nat}
    (same : front ++ toString number = front ++ toString other) : number = other := by
  have digits := congrArg String.toList same
  rw [String.toList_append, String.toList_append, List.append_cancel_left_eq, Decimal.toList_toString,
    Decimal.toList_toString] at digits
  rw [← Decimal.digitsValue_natDigits number, digits, Decimal.digitsValue_natDigits]

theorem valueTable_injective {number other : Nat} (same : valueTable number = valueTable other) :
    number = other := numbered_injective same

theorem keyTable_injective {number other : Nat} (same : keyTable number = keyTable other) :
    number = other := numbered_injective same

theorem valueTable_ne_keyTable (number other : Nat) : valueTable number ≠ keyTable other := by
  intro same
  have chars := congrArg String.toList same
  rw [toList_valueTable, toList_keyTable] at chars
  simp at chars

theorem isBetween_of_mem_natDigits {number : Nat} {c : Char} (digit : c ∈ Decimal.natDigits number) :
    isBetween c = false := by
  simp [isBetween, Text.isAsciiAlphanumeric, Decimal.isDecimal_of_mem_natDigits digit]

theorem identifiers_numbered {front : String} (uncut : front.toList.all (!isBetween ·) = true)
    (number : Nat) : identifiers (front ++ toString number) = [front ++ toString number] := by
  refine identifiers_eq_singleton (fun empty => ?_) fun c membership => ?_
  · have chars := congrArg String.toList empty
    rw [String.toList_append, Decimal.toList_toString] at chars
    exact Decimal.natDigits_ne_nil number (List.append_eq_nil_iff.mp chars).2
  · rw [String.toList_append, Decimal.toList_toString, List.mem_append] at membership
    rcases membership with inFront | digit
    · simpa using List.all_eq_true.mp uncut c inFront
    · exact isBetween_of_mem_natDigits digit

theorem identifiers_valueTable (number : Nat) : identifiers (valueTable number) = [valueTable number] :=
  identifiers_numbered (by decide) number

theorem identifiers_keyTable (number : Nat) : identifiers (keyTable number) = [keyTable number] :=
  identifiers_numbered (by decide) number

theorem identifiers_toString (n : Nat) : identifiers (toString n) = [toString n] := by
  have alone := identifiers_numbered (by decide : "".toList.all (!isBetween ·) = true) n
  rwa [String.empty_append] at alone

/-! ## Custom tests -/

namespace CustomTest

/-- The identifiers of a custom test in front of the condition on its key. -/
def openingWords (t : CustomTest) : List String :=
  ["EXISTS", "SELECT", "1", "FROM", "item_custom_values", valueTable t.number, "JOIN", "custom_keys",
    keyTable t.number, "ON", keyTable t.number, "id", valueTable t.number, "key_id", "WHERE",
    valueTable t.number, "item_id", "item", "id", "AND"]

/-- The identifiers of a custom test. -/
def words (t : CustomTest) : List String :=
  t.openingWords ++ match t.value with
    | .text _ => [keyTable t.number, "name", "COLLATE", "NOCASE", "AND", valueTable t.number, "value"]
    | .number _ => [keyTable t.number, "name", "COLLATE", "NOCASE", "AND", "CAST", valueTable t.number,
        "value", "AS", "REAL"]

theorem spells_opening (t : CustomTest) : HasIdentifiers t.opening t.openingWords := by
  have start : HasIdentifiers "EXISTS (SELECT 1 FROM item_custom_values "
      ["EXISTS", "SELECT", "1", "FROM", "item_custom_values"] := ⟨by decide +kernel, by decide +kernel⟩
  have values := identifiers_valueTable t.number
  have keys := identifiers_keyTable t.number
  have join : Gap " JOIN custom_keys " ["JOIN", "custom_keys"] := by decide +kernel
  have on : Gap " ON " ["ON"] := by decide +kernel
  have id : Gap ".id = " ["id"] := by decide +kernel
  have keyId : Gap ".key_id WHERE " ["key_id", "WHERE"] := by decide +kernel
  have item : Gap ".item_id = item.id AND " ["item_id", "item", "id", "AND"] := by decide +kernel
  exact ((((start.next values join).next keys on).next keys id).next values keyId).next values item

theorem identifiers_written (t : CustomTest) : identifiers (written t.pieces) = t.words := by
  have values := identifiers_valueTable t.number
  have keys := identifiers_keyTable t.number
  rw [t.written_pieces, words]
  unfold valueRole
  cases t.value with
  | text s =>
      have name : Gap (".name = " ++ "?" ++ " COLLATE NOCASE AND ") ["name", "COLLATE", "NOCASE", "AND"] := by
        decide +kernel
      have sign : Gap (".value " ++ t.op.sign ++ " " ++ "?" ++ ")") ["value"] := by
        cases t.op <;> decide +kernel
      have spells := ((t.spells_opening.next keys name).next values sign).eq
      simpa only [CustomValue.binding, Role.lead, String.append_assoc, List.append_assoc, List.cons_append,
        List.nil_append, -String.reduceAppend] using spells
  | number x =>
      have name : Gap (".name = " ++ "?" ++ " COLLATE NOCASE AND " ++ "CAST(")
          ["name", "COLLATE", "NOCASE", "AND", "CAST"] := by decide +kernel
      have sign : Gap (".value AS REAL) " ++ t.op.sign ++ " " ++ "?" ++ ")") ["value", "AS", "REAL"] := by
        cases t.op <;> decide +kernel
      have spells := ((t.spells_opening.next keys name).next values sign).eq
      simpa only [CustomValue.binding, Role.lead, String.append_assoc, List.append_assoc, List.cons_append,
        List.nil_append, -String.reduceAppend] using spells

/-- The names of the tables of a custom test. -/
def tables (t : CustomTest) : List String := [valueTable t.number, keyTable t.number]

theorem isTableName_of_mem_tables {t : CustomTest} {table : String} (isTable : table ∈ t.tables) :
    isTableName table = true := by
  rcases List.mem_pair.mp isTable with rfl | rfl
  · exact isTableName_valueTable t.number
  · exact isTableName_keyTable t.number

/-- Tests that share a table have the same number. -/
theorem number_eq_of_mem_tables {t t' : CustomTest} {table : String} (first : table ∈ t.tables)
    (second : table ∈ t'.tables) : t.number = t'.number := by
  rcases List.mem_pair.mp first with rfl | rfl <;> rcases List.mem_pair.mp second with same | same
  · exact valueTable_injective same
  · exact absurd same (valueTable_ne_keyTable _ _)
  · exact absurd same.symm (valueTable_ne_keyTable _ _)
  · exact keyTable_injective same

/-- A test names no tables but its own. -/
theorem mem_tables_of_mem_words {t : CustomTest} {word : String} (membership : word ∈ t.words)
    (isName : isTableName word = true) : word ∈ t.tables := by
  have named := List.mem_filter.mpr ⟨membership, isName⟩
  rw [words, openingWords, List.filter_append] at named
  rw [tables, List.mem_pair]
  cases value : t.value <;>
  · simp +decide only [value, List.filter_cons, isTableName_valueTable, isTableName_keyTable] at named
    grind

end CustomTest

end SampleLibrary.Query
