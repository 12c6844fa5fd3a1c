import SampleLibrary.Proofs.Library.Searching
import SampleLibrary.Proofs.Query.RoundTrip

/-!
# Looking for a custom value

A custom value is looked for with one word: its key, an equals sign and the value. The word is read as a
comparison whose key is trimmed and in lower case, and the database compares keys without regard to the
case of ASCII letters. So a custom value is found by its own key and value
(`Reached.custom_value_found`) unless its key ends in a space, its value starts with an equals sign, which
is read as a part of the sign, or its key has letters beyond ASCII that are not in lower case.
-/

namespace SampleLibrary

/-! ## Keys without regard to case -/

namespace Text

/-- What was checked for the first characters holds of each of them. -/
theorem of_forall_range {P : Char → Prop} {bound : Nat}
    (checked : ∀ n ∈ List.range bound, P (Char.ofNat n)) {c : Char} (low : c.toNat < bound) : P c := by
  have known := checked c.toNat (List.mem_range.mpr low)
  rwa [Char.ofNat_toNat] at known

/-- Only letters change, and they become letters. -/
theorem asciiLower_cases (c : Char) :
    asciiLower c = c ∨ isAlphanumeric c = true ∧ isAlphanumeric (asciiLower c) = true := by
  by_cases low : c.toNat < 128
  · exact of_forall_range (P := fun c => asciiLower c = c ∨ isAlphanumeric c = true ∧
      isAlphanumeric (asciiLower c) = true) (by decide +kernel) low
  · have notCapital : ¬('A' ≤ c && c ≤ 'Z') = true := by
      rw [Bool.and_eq_true, decide_eq_true_eq, decide_eq_true_eq]
      rintro ⟨-, upTo⟩
      have below : c.toNat ≤ 0x5A := upTo
      omega
    exact .inl (if_neg notCapital)

theorem lowerChar_ascii {c : Char} (low : c.toNat < 128) :
    (lowerChar c).map asciiLower = [asciiLower c] :=
  of_forall_range (P := fun c => (lowerChar c).map asciiLower = [asciiLower c]) (by decide +kernel) low

/-- Lower-casing a text and lower-casing its ASCII letters come to the same if it has no other letters
that are not in lower case. -/
theorem map_asciiLower_lowerFrom {before cs : List Char}
    (plain : ∀ c ∈ cs, c.toNat < 128 ∨ IsLowered c) :
    (lowerFrom before cs).map asciiLower = cs.map asciiLower := by
  induction cs generalizing before with
  | nil => rfl
  | cons c rest inductionHypothesis =>
      have first : (lowerAt before c rest).map asciiLower = [asciiLower c] := by
        rcases plain c List.mem_cons_self with low | lowered
        · have notSigma : ¬(c.toNat == 0x3A3) = true := by
            rw [beq_iff_eq]
            omega
          rw [lowerAt, if_neg notSigma, lowerChar_ascii low]
        · rw [lowerAt, if_neg (by simpa using lowered.not_sigma), lowered.lowerChar]
          rfl
      rw [lowerFrom_cons, List.map_append, first,
        inductionHypothesis fun d later => plain d (List.mem_cons_of_mem _ later)]
      rfl

end Text

namespace CustomKey

theorem isKeyChar_asciiLower (c : Char) : isKeyChar (Text.asciiLower c) = isKeyChar c := by
  rcases Text.asciiLower_cases c with same | ⟨before, after⟩
  · rw [same]
  · simp [isKeyChar, Text.isWord, before, after]

theorem isAlphanumeric_asciiLower (c : Char) :
    Text.isAlphanumeric (Text.asciiLower c) = Text.isAlphanumeric c := by
  rcases Text.asciiLower_cases c with same | ⟨before, after⟩
  · rw [same]
  · rw [before, after]

theorem isValid_asciiLower (key : String) :
    isValid (String.ofList (key.toList.map Text.asciiLower)) = isValid key := by
  unfold isValid
  rw [String.toList_ofList]
  cases key.toList with
  | nil => rfl
  | cons first rest =>
      cases rest with
      | nil => rfl
      | cons second rest =>
          simp [isAlphanumeric_asciiLower, isKeyChar_asciiLower, Function.comp_def]

end CustomKey

namespace Query

open CustomKey (isValid)

theorem isValid_of_sameIgnoringCase {key other : String} (same : sameIgnoringCase key other = true) :
    isValid key = isValid other := by
  have folded : key.toList.map Text.asciiLower = other.toList.map Text.asciiLower := by
    simpa [sameIgnoringCase] using same
  rw [← CustomKey.isValid_asciiLower key, folded, CustomKey.isValid_asciiLower]

/-- A key differs from its lower case in the case of ASCII letters only if the letters beyond ASCII are in
lower case. -/
theorem sameIgnoringCase_lowercase {key : String}
    (plain : ∀ c ∈ key.toList, c.toNat < 128 ∨ Text.IsLowered c) :
    sameIgnoringCase key (Text.lowercase key) = true := by
  rw [sameIgnoringCase, Text.lowercase, String.toList_ofList, Text.map_asciiLower_lowerFrom plain]
  exact beq_self_eq_true _

/-! ## The word -/

variable {key value : String}

theorem isKey_of_isValid (valid : isValid key = true) : Condition.isKey key = true := by
  unfold Condition.isKey
  split
  · rename_i underscore
    rw [beq_iff_eq] at underscore
    rcases List.head?_eq_some_iff.mp underscore with ⟨rest, chars⟩
    unfold CustomKey.isValid at valid
    rw [chars] at valid
    cases rest with
    | nil => cases valid
    | cons second rest =>
        have notLetter : Text.isAlphanumeric '_' = false := rfl
        simp [notLetter] at valid
  · exact valid

theorem trim_of_isValid (valid : isValid key = true) (sharp : key.toList.getLast? ≠ some ' ') :
    Text.trim key.toList = key.toList := by
  have isKey := isKey_of_isValid valid
  apply Text.trim_of_sharp
  · intro c first
    rcases Condition.exists_first_of_isKey isKey with ⟨d, rest, chars, word⟩
    rw [chars] at first
    cases first
    exact Condition.not_isBlank_of_isWord word
  · intro c last
    rcases (Condition.of_isKeyChar (Condition.isKeyChar_of_isKey isKey c
      (List.mem_of_getLast? last))).2 with rfl | notBlank
    · exact absurd last sharp
    · exact notBlank

/-- One quoted word is read as it is. -/
theorem splitLenient_quote (word : String) : splitLenient (quote word) = [word] := by
  have joined : splitLenient (Text.join " " ([word].map quote)) = [word].map id :=
    splitLenient_join fun a _ => writesWord_quote a
  rwa [Text.join, List.map_singleton, String.intercalate_singleton] at joined

/-- A key, an equals sign and a value are read as a comparison, with the key in lower case. -/
theorem parse_customWord (valid : isValid key = true) (sharp : key.toList.getLast? ≠ some ' ')
    (single : value.toList.head? ≠ some '=')
    (folds : sameIgnoringCase key (Text.lowercase key) = true) :
    parse (quote (key ++ "=" ++ value)) = [.compare (Text.lowercase key) .eq value] := by
  have isKey := isKey_of_isValid valid
  have lowered : Condition.isKey (Text.lowercase key) = true :=
    isKey_of_isValid (isValid_of_sameIgnoringCase folds ▸ valid)
  have chars : (key ++ "=" ++ value).toList = key.toList ++ '=' :: value.toList := by simp
  have found : Comparison.find? (key ++ "=" ++ value).toList =
      some (key.toList, .eq, value.toList) := by
    rw [chars]
    apply Comparison.find?_append
    · exact fun c membership => (Condition.of_isKeyChar (Condition.isKeyChar_of_isKey isKey c membership)).1
    · exact Comparison.atStart?_equals single
  have compared : Condition.compare? (key ++ "=" ++ value) =
      some (.compare (Text.lowercase key) .eq value) := by
    rw [Condition.compare?, found]
    simp [trim_of_isValid valid sharp, lowered]
  have read : Condition.ofWord? (key ++ "=" ++ value) =
      some (.compare (Text.lowercase key) .eq value) := by
    rw [String.append_assoc] at compared ⊢
    rw [Condition.ofWord?_of_isKey isKey, compared]
    rfl
  simp [parse, splitLenient_quote, read]

/-- What is asked of a custom value: no fixed field has the key of one. -/
theorem meets_of_meetsCustom {t : Tables} {i : Item} (valid : isValid key = true)
    (meets : MeetsCustom t i key .eq value) : Meets t i key .eq value := by
  unfold Meets Target.ofKey
  rw [Field.ofKey?_of_isValid valid]
  cases Field.ofName? key with
  | none => exact meets
  | some f => exact .inr meets

end Query

/-! ## Custom values of a record -/

theorem Metadata.put_custom (m : Metadata) (f : Field) (v : Option Value) :
    (m.put f v).custom = m.custom := by
  cases f <;> rfl

theorem Metadata.mem_of_foldl_setCustom {entries : List (String × String)} {m : Metadata}
    {key value : String}
    (there : (entries.foldl (fun m (key, value) => m.setCustom key value) m).custom[key]? =
      some value) :
    m.custom[key]? = some value ∨ CustomKey.isValid key = true ∧ (key, value) ∈ entries := by
  induction entries generalizing m with
  | nil => exact .inl there
  | cons entry entries inductionHypothesis =>
      rcases entry with ⟨first, text⟩
      rcases inductionHypothesis there with before | ⟨valid, later⟩
      · by_cases valid : CustomKey.isValid first = true
        · simp only [setCustom, if_pos valid, Std.ExtTreeMap.getElem?_insert] at before
          split at before
          · rename_i same
            obtain rfl := Std.LawfulEqCmp.compare_eq_iff_eq.mp same
            cases before
            exact .inr ⟨valid, List.mem_cons_self⟩
          · exact .inl before
        · simp only [setCustom, if_neg valid] at before
          exact .inl before
      · exact .inr ⟨valid, List.mem_cons_of_mem _ later⟩

namespace Tables

variable {t : Tables} {i : Item} {key value : String}

/-- A custom value of a record has a valid key, and the tables tell it of the item. -/
theorem mem_customsOf_of_record (pair : (t.record i).custom[key]? = some value) :
    CustomKey.isValid key = true ∧ (key, value) ∈ t.customsOf i.id := by
  unfold record at pair
  rcases Metadata.mem_of_foldl_setCustom pair with before | stored
  · simp [Metadata.setTags, Metadata.addTags, Field.all, Metadata.set, Metadata.put_custom,
      Metadata.empty] at before
  · exact stored

/-- A custom value that the tables tell of an item meets the question for it. -/
theorem meetsCustom_of_mem_customsOf (valued : ∀ c ∈ t.customs, ∃ value, c.value = some value)
    (told : (key, value) ∈ t.customsOf i.id) {other : String}
    (same : Query.sameIgnoringCase key other = true) : Query.MeetsCustom t i other .eq value := by
  simp only [customsOf, List.mem_flatMap, List.mem_filter, List.mem_map, beq_iff_eq,
    Prod.mk.injEq] at told
  rcases told with ⟨c, ⟨row, sameItem⟩, k, ⟨isKey, sameKey⟩, rfl, text⟩
  rcases valued c row with ⟨stored, isStored⟩
  rw [isStored, Option.getD_some] at text
  subst text
  refine ⟨c, row, sameItem, ⟨k, isKey, sameKey, same⟩, stored, isStored, ?_⟩
  simp [Query.CustomValueMeets, Query.Comparison.isOrdering, Query.Comparison.holds]

end Tables

/-! ## The search -/

namespace Library

open Query

variable {lib : Library} {w : World} {t : Tables}

/-- A query without words to look for finds the items that it asks for. -/
theorem exists_search_ok (conditions : List Condition) (isOpen : lib.tables w.files = .ok t)
    (orderly : t.Orderly) (wordless : texts conditions = []) :
    ∃ found : List Item, (lib.search conditions unlimited w).1 = .ok (found.map t.record) ∧
      ∀ i, i ∈ found ↔ i ∈ t.items ∧ Matches t .library conditions i := by
  rcases exists_sorted (s := statement conditions unlimited) rfl (t.items.filter fun i =>
    (clauses .library conditions).all fun c => c.holds t i) with ⟨found, inOrder, sameItems⟩
  have membership (i : Item) : i ∈ found ↔ i ∈ t.items ∧ Matches t .library conditions i := by
    rw [sameItems.mem_iff, List.mem_filter, holds_clauses_iff]
  have ran : (statement conditions unlimited).run t = .ok found :=
    (run_eq_ok_iff rfl).mpr
      ⟨inOrder, (isReadable_clauses .library).mpr fun some => absurd wordless some⟩
  have read : found.mapM (statement conditions unlimited).rowOf = .ok found :=
    mapM_rowOf rfl fun i isFound => orderly.items i ((membership i).mp isFound).1
  refine ⟨found, search_eq_ok isOpen ?_, membership⟩
  unfold Tables.search
  rw [ran]
  dsimp only [bind, Except.bind]
  rw [read]
  rfl

/-- The word made of the key, an equals sign and the value finds the item in the whole library. -/
def FindsByValue (lib : Library) (w : World) (t : Tables) (i : Item) (key value : String) : Prop :=
  ∃ found : List Item, i ∈ found ∧
    (lib.search (parse (quote (key ++ "=" ++ value))) unlimited w).1 = .ok (found.map t.record)

/-- A custom value of any item is found by its own key and value, however the library has come about, if
the key does not end in a space and its lower case differs in the case of ASCII letters only, and if the
value does not start with an equals sign. -/
theorem Reached.custom_value_found (reached : Reached lib w) (isOpen : lib.tables w.files = .ok t)
    {i : Item} (there : i ∈ t.items) {key value : String}
    (pair : (t.record i).custom[key]? = some value) (sharp : key.toList.getLast? ≠ some ' ')
    (folds : sameIgnoringCase key (Text.lowercase key) = true)
    (single : value.toList.head? ≠ some '=') : FindsByValue lib w t i key value := by
  rcases reached.orderly with ⟨t₁, content₁, -, orderly⟩
  obtain rfl : t₁ = t := Holds.eq content₁ (tables_eq_ok isOpen)
  rcases reached.history.customs with ⟨t₂, content₂, valued⟩
  obtain rfl : t₂ = t₁ := Holds.eq content₂ content₁
  rcases reached.history.items (P := fun i => i.workplace = .empty)
    (fun _ _ _ _ _ _ _ => rfl) with ⟨t₃, content₃, placed⟩
  obtain rfl : t₃ = t₂ := Holds.eq content₃ content₂
  rcases Tables.mem_customsOf_of_record pair with ⟨valid, told⟩
  have parsed := parse_customWord valid sharp single folds
  rcases exists_search_ok [.compare (Text.lowercase key) .eq value] isOpen orderly rfl with
    ⟨found, done, membership⟩
  refine ⟨found, (membership i).mpr ⟨there, ?_⟩, parsed ▸ done⟩
  have lowered : CustomKey.isValid (Text.lowercase key) = true :=
    isValid_of_sameIgnoringCase folds ▸ valid
  have meets := meets_of_meetsCustom lowered (Tables.meetsCustom_of_mem_customsOf valued told folds)
  exact
    { inScope := placed i there
      compared := by
        intro key' op value' condition
        cases List.mem_singleton.mp condition
        exact meets
      tagged := by simp
      notAllUntagged := by simp
      untagged := by simp
      worded := fun some => absurd rfl some }

def theme : Metadata :=
  (({ Metadata.empty with
    md5 := some "fedcba9876543210fedcba9876543210"
    path := some "theme.wav" }.setCustom "Key of" "C \"minor\"").setCustom "mode" "=loud").setCustom
      "mood " "dark"

theorem theme_tagsValid : theme.TagsValid :=
  fun _ membership => absurd membership Std.ExtTreeSet.not_mem_empty

def themeValues : List (String × String) :=
  [("Key of", "C \"minor\""), ("mode", "=loud"), ("mood ", "dark")]

theorem theme_imported :
    (match (openAt "lib" bareWorld).1 with
      | .ok lib =>
        let w := (lib.importFile theme false (openAt "lib" bareWorld).2).2
        let find (word : String) := (lib.search (parse (quote word)) unlimited w).1.toOption
        (lib.tables w.files).toOption.map (fun t => t.items.map fun i => (t.record i).custom.toList) ==
            some [themeValues]
          && (find ("mode" ++ "=" ++ "=loud")).map List.length == some 0
          && (find ("mood " ++ "=" ++ "dark")).map List.length == some 0
      | .error _ => false) = true := by
  decide +kernel

/-- The theme is imported. There are words for its custom values that find nothing. -/
theorem theme_stored :
    ∃ lib w t i, Reached lib w ∧ lib.tables w.files = .ok t ∧ i ∈ t.items ∧
      (∀ pair ∈ themeValues, (t.record i).custom[pair.1]? = some pair.2) ∧
      ¬ FindsByValue lib w t i "mode" "=loud" ∧ ¬ FindsByValue lib w t i "mood " "dark" := by
  have facts := theme_imported
  cases opened : (openAt "lib" bareWorld).1 with
  | error e => simp [opened] at facts
  | ok lib =>
      have reached : Reached lib (lib.importFile theme false (openAt "lib" bareWorld).2).2 :=
        .imported theme false (.created bareWorld_absent opened) theme_tagsValid
      simp only [opened, Bool.and_eq_true, beq_iff_eq, and_assoc] at facts
      rcases facts with ⟨stored, loud, dark⟩
      have missed {i : Item} {t : Tables} {key value : String}
          (nothing : ((lib.search (parse (quote (key ++ "=" ++ value))) unlimited
            (lib.importFile theme false (openAt "lib" bareWorld).2).2).1.toOption.map
              List.length) = some 0) :
          ¬ FindsByValue lib (lib.importFile theme false (openAt "lib" bareWorld).2).2 t i key
            value := by
        rintro ⟨found, isFound, done⟩
        rw [done] at nothing
        have empty : found = [] := by simpa [Except.toOption] using nothing
        exact List.ne_nil_of_mem isFound empty
      cases isOpen : lib.tables (lib.importFile theme false (openAt "lib" bareWorld).2).2.files with
      | error e => simp [isOpen, Except.toOption] at stored
      | ok t =>
          rw [isOpen] at stored
          have customs : t.items.map (fun i => (t.record i).custom.toList) = [themeValues] := by
            simpa [Except.toOption] using stored
          rcases List.map_eq_singleton_iff.mp customs with ⟨i, items, values⟩
          refine ⟨lib, _, t, i, reached, isOpen, by simp [items], fun pair isPair => ?_, missed loud,
            missed dark⟩
          rw [← values] at isPair
          exact Std.ExtTreeMap.mem_toList_iff_getElem?_eq_some.mp isPair

/-- The first value of the theme is found by its key and value. -/
theorem theme_key_found :
    ∃ lib w t i, Reached lib w ∧ lib.tables w.files = .ok t ∧ i ∈ t.items ∧
      (t.record i).custom["Key of"]? = some "C \"minor\"" ∧
      "Key of".toList.getLast? ≠ some ' ' ∧
      sameIgnoringCase "Key of" (Text.lowercase "Key of") = true ∧
      "C \"minor\"".toList.head? ≠ some '=' ∧
      FindsByValue lib w t i "Key of" "C \"minor\"" := by
  rcases theme_stored with ⟨lib, w, t, i, reached, isOpen, there, stored, -⟩
  have pair := stored ("Key of", "C \"minor\"") (by simp [themeValues])
  have sharp : "Key of".toList.getLast? ≠ some ' ' := by simp
  have ascii : ("Key of".toList.all fun c => decide (c.toNat < 128)) = true := by decide
  have folds : sameIgnoringCase "Key of" (Text.lowercase "Key of") = true :=
    sameIgnoringCase_lowercase fun c listed => .inl (by simpa using List.all_eq_true.mp ascii c listed)
  have single : "C \"minor\"".toList.head? ≠ some '=' := by decide
  exact ⟨lib, w, t, i, reached, isOpen, there, pair, sharp, folds, single,
    reached.custom_value_found isOpen there pair sharp folds single⟩

/-- The others are not: an equals sign behind the key is read as one sign with the one at the start of the
value, and the space at the end of the key is left out. -/
theorem theme_values_missed :
    ∃ lib w t i, Reached lib w ∧ lib.tables w.files = .ok t ∧ i ∈ t.items ∧
      ((t.record i).custom["mode"]? = some "=loud" ∧ ¬ FindsByValue lib w t i "mode" "=loud") ∧
      ((t.record i).custom["mood "]? = some "dark" ∧ ¬ FindsByValue lib w t i "mood " "dark") := by
  rcases theme_stored with ⟨lib, w, t, i, reached, isOpen, there, stored, loud, dark⟩
  exact ⟨lib, w, t, i, reached, isOpen, there,
    ⟨stored ("mode", "=loud") (by simp [themeValues]), loud⟩,
    ⟨stored ("mood ", "dark") (by simp [themeValues]), dark⟩⟩

end Library

end SampleLibrary
