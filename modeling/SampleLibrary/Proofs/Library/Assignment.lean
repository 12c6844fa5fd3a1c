import SampleLibrary.Proofs.Library.Records

/-!
# Setting keys and looking them up

One key leads to a field with values of its own kind or to a custom value, and texts go in and come out
whatever the kind is. Setting a key in place (`Metadata.assign`) and looking keys up obey the laws of a
lens all the same (`Metadata.LensLaws`): what was set is found in its canonical form, other keys and the
tags stay, and setting a key to what is found under it changes nothing. Floats that are no numbers differ
from themselves, so this is said of records without them (`Metadata.Made.lens_laws`).
-/

namespace SampleLibrary

/-! ## Texts that are no number -/

namespace Decimal

/-- The text is the word for what is no number, with a sign or without, in whatever case. -/
def SpellsNan (text : String) : Prop :=
  ∃ sign word, Text.trim text.toList = sign ++ word ∧ sign ∈ [[], ['-'], ['+']] ∧
    word.map Text.asciiLower = "nan".toList

theorem nearest_ne_nan (negative : Bool) (digits : Nat) (exponent : Int) :
    nearest negative digits exponent ≠ .nan := by
  unfold nearest
  dsimp only
  repeat' split
  all_goals exact Binary64.noConfusion

theorem exists_sign (cs : List Char) :
    ∃ sign, cs = sign ++ (readSign cs).2 ∧ sign ∈ [[], ['-'], ['+']] := by
  unfold readSign
  split
  · exact ⟨['-'], rfl, by decide⟩
  · exact ⟨['+'], rfl, by decide⟩
  · exact ⟨[], rfl, by decide⟩

/-- No sign is a part of the word. -/
theorem readSign_nan {sign word : List Char} (isSign : sign ∈ [[], ['-'], ['+']])
    (nan : word.map Text.asciiLower = "nan".toList) : (readSign (sign ++ word)).2 = word := by
  simp only [List.mem_cons, List.not_mem_nil, or_false] at isSign
  rcases isSign with rfl | rfl | rfl
  · change (readSign word).2 = word
    unfold readSign
    split
    · exact absurd (List.head_eq_of_cons_eq nan) (by decide)
    · exact absurd (List.head_eq_of_cons_eq nan) (by decide)
    · rfl
  · rfl
  · rfl

theorem readWord?_eq_nan {cs : List Char} :
    readWord? cs = some .nan ↔ (readSign cs).2.map Text.asciiLower = "nan".toList := by
  have infinite (negative : Bool) : some (Binary64.infinite negative) ≠ some .nan := by
    intro same
    cases same
  unfold readWord?
  dsimp only
  split
  · rename_i word
    rw [Bool.or_eq_true, beq_iff_eq, beq_iff_eq] at word
    refine iff_of_false (infinite _) fun nan => ?_
    rcases word with inf | infinity
    · exact absurd (inf.symm.trans nan) (by decide)
    · exact absurd (infinity.symm.trans nan) (by decide)
  · split
    · rename_i word
      exact iff_of_true rfl (beq_iff_eq.mp word)
    · rename_i noWord
      exact iff_of_false nofun fun nan => noWord (beq_iff_eq.mpr nan)

/-- Only the word is read as what is no number, as digits always are one. -/
theorem readFloat?_eq_nan {text : String} :
    readFloat? (Text.trim text.toList) = some .nan ↔ SpellsNan text := by
  constructor
  · intro read
    unfold readFloat? at read
    split at read
    · rename_i x word
      cases read
      rcases exists_sign (Text.trim text.toList) with ⟨sign, whole, isSign⟩
      exact ⟨sign, _, whole, isSign, readWord?_eq_nan.mp word⟩
    · rcases Option.bind_eq_some_iff.mp read with ⟨s, -, value⟩
      split at value
      · exact absurd (Option.some.inj value) (nearest_ne_nan _ _ _)
      · cases value
  · rintro ⟨sign, word, whole, isSign, nan⟩
    have spelled : readWord? (Text.trim text.toList) = some .nan := by
      apply readWord?_eq_nan.mpr
      rw [whole, readSign_nan isSign nan]
      exact nan
    unfold readFloat?
    rw [spelled]

end Decimal

namespace Metadata

variable {m m' : Metadata} {f : Field} {v : Value} {key value text : String}

/-! ## Fields -/

/-- The value is one that a text can say of the field. -/
theorem read?_of_coerce (coerced : (Value.text value).coerce f = .ok v) :
    Value.read? f.kind value = some v := by
  rw [← Value.toOption_coerce_text, coerced]
  rfl

theorem coerce_of_read? (read : Value.read? f.kind value = some v) :
    (Value.text value).coerce f = .ok v := by
  rw [← Value.toOption_coerce_text] at read
  cases outcome : (Value.text value).coerce f with
  | ok w =>
      rw [outcome] at read
      exact congrArg Except.ok (Option.some.inj read)
  | error e =>
      rw [outcome] at read
      cases read

theorem get?_put (coerced : (Value.text value).coerce f = .ok v) (g : Field) :
    (m.put f (some v)).get? g = if f = g then some v else m.get? g := by
  have stored : m.set f (some (.text value)) = m.put f (some v) := by
    rw [set, Option.bind_some, coerced]
    rfl
  rw [← stored, get?_set_text]
  refine ite_congr rfl (fun same => ?_) fun _ => rfl
  subst same
  exact read?_of_coerce coerced

/-- Storing the value that is there changes nothing. -/
theorem put_get? (there : m.get? f = some v) : m.put f (some v) = m := by
  cases f with
  | md5 | path | source | name | format | formatSubtype | sampleRate | channels | duration | peakLevel =>
      rcases Option.map_eq_some_iff.mp there with ⟨x, field, rfl⟩
      cases m
      cases field
      rfl

theorem getKey?_of_named (named : Field.ofKey? key = some f) :
    m.getKey? key = (m.get? f).map Value.toText := by
  rw [getKey?, named]

theorem getKey?_of_unnamed (unnamed : Field.ofKey? key = none) : m.getKey? key = m.custom[key]? := by
  rw [getKey?, unnamed]

/-! ## Assignments -/

/-- Setting a key in place, in its steps: what has been stored stays when a later step fails. -/
def assigning (key value : String) : ExceptT SetError (StateM Metadata) Unit := do
  match Field.ofKey? key with
  | some f =>
    let v ← MonadExcept.ofExcept (((Value.text value).coerce f).mapError SetError.coerce)
    modify fun m => m.put f (some v)
  | none =>
    unless CustomKey.isValid key do
      throw (.invalidKey key)
    modify fun m => { m with custom := m.custom.insert key value }

/-- The answer, and the record afterwards. -/
def assign (m : Metadata) (key value : String) : Except SetError Unit × Metadata :=
  ((assigning key value).run.run m).run

theorem assign_eq (m : Metadata) (key value : String) : m.assign key value =
    match m.setKey key value with
    | .ok m' => (.ok (), m')
    | .error e => (.error e, m) := by
  unfold assign assigning setKey
  cases Field.ofKey? key with
  | some f =>
      dsimp only
      cases (Value.text value).coerce f <;> rfl
  | none =>
      dsimp only
      cases CustomKey.isValid key <;> rfl

theorem assign_of_coerce (named : Field.ofKey? key = some f)
    (coerced : (Value.text value).coerce f = .ok v) :
    m.assign key value = (.ok (), m.put f (some v)) := by
  rw [assign_eq, setKey, named]
  dsimp only
  rw [coerced]

theorem assign_of_isValid (valid : CustomKey.isValid key = true) :
    m.assign key value = (.ok (), { m with custom := m.custom.insert key value }) := by
  rw [assign_eq, setKey, Field.ofKey?_of_isValid valid]
  dsimp only
  rw [if_pos valid]

theorem setKey_of_assign (done : m.assign key value = (.ok (), m')) : m.setKey key value = .ok m' := by
  rw [assign_eq] at done
  split at done
  · rename_i outcome
    cases done
    exact outcome
  · cases done

/-- What an assignment that is accepted has stored. -/
theorem assign_cases (done : m.assign key value = (.ok (), m')) :
    (∃ f v, Field.ofKey? key = some f ∧ (Value.text value).coerce f = .ok v ∧ m' = m.put f (some v)) ∨
    (CustomKey.isValid key = true ∧ m' = { m with custom := m.custom.insert key value }) := by
  have stored := setKey_of_assign done
  unfold setKey at stored
  split at stored
  · rename_i f named
    split at stored
    · rename_i v coerced
      cases stored
      exact .inl ⟨f, v, named, coerced, rfl⟩
    · cases stored
  · split at stored
    · rename_i valid
      cases stored
      exact .inr ⟨valid, rfl⟩
    · cases stored

/-- What is refused has stored nothing. -/
theorem assign_refused {e : SetError} (refused : m.assign key value = (.error e, m')) : m' = m := by
  rw [assign_eq] at refused
  split at refused
  · cases refused
  · cases refused
    rfl

theorem getKey?_assign_field (done : m.assign key value = (.ok (), m'))
    (named : Field.ofKey? key = some f) :
    ∃ v, (Value.text value).coerce f = .ok v ∧ m'.getKey? key = some v.toText := by
  rcases assign_cases done with ⟨g, v, named', coerced, rfl⟩ | ⟨valid, -⟩
  · obtain rfl : f = g := Option.some.inj (named.symm.trans named')
    refine ⟨v, coerced, ?_⟩
    rw [getKey?_of_named named, get?_put coerced, if_pos rfl]
    rfl
  · rw [Field.ofKey?_of_isValid valid] at named
    cases named

theorem getKey?_assign_custom (done : m.assign key value = (.ok (), m'))
    (unnamed : Field.ofKey? key = none) : m'.getKey? key = some value := by
  rcases assign_cases done with ⟨g, v, named, -, -⟩ | ⟨-, rfl⟩
  · rw [unnamed] at named
    cases named
  · rw [getKey?_of_unnamed unnamed]
    exact Std.ExtTreeMap.getElem?_insert_self

theorem getKey?_assign_other {other : String} (apart : other ≠ key)
    (done : m.assign key value = (.ok (), m')) : m'.getKey? other = m.getKey? other := by
  rcases assign_cases done with ⟨f, v, named, coerced, rfl⟩ | ⟨-, rfl⟩
  · cases named' : Field.ofKey? other with
    | some g =>
        have different : f ≠ g := by
          rintro rfl
          exact apart ((Field.key_of_ofKey? named').symm.trans (Field.key_of_ofKey? named))
        rw [getKey?_of_named named', getKey?_of_named named', get?_put coerced, if_neg different]
    | none =>
        rw [getKey?_of_unnamed named', getKey?_of_unnamed named']
        cases f <;> rfl
  · cases named' : Field.ofKey? other with
    | some g =>
        rw [getKey?_of_named named', getKey?_of_named named']
        cases g <;> rfl
    | none =>
        rw [getKey?_of_unnamed named', getKey?_of_unnamed named']
        exact (getElem?_insert_entry m.custom (key, value)).trans (if_neg apart.symm)

theorem tags_assign (done : m.assign key value = (.ok (), m')) : m'.tags = m.tags := by
  rcases assign_cases done with ⟨f, v, -, -, rfl⟩ | ⟨-, rfl⟩
  · cases f <;> rfl
  · rfl

/-! ## Setting what is found -/

theorem same_self (duration : m.duration ≠ some .nan) (peakLevel : m.peakLevel ≠ some .nan) :
    m.same m = true := by
  have float {x : Option Binary64} (number : x ≠ some .nan) : sameFloat x x = true := by
    cases x with
    | none => rfl
    | some x => exact Binary64.sameNumber_self fun isNan => number (congrArg some isNan)
  simp [same, float duration, float peakLevel]

/-- The text that is found is read as what is there, so that it is stored again. -/
theorem assign_getKey? (valid : m.Valid) (duration : m.duration ≠ some .nan)
    (peakLevel : m.peakLevel ≠ some .nan) (found : m.getKey? key = some text) :
    m.assign key text = (.ok (), m) := by
  cases named : Field.ofKey? key with
  | some f =>
      rw [getKey?_of_named named] at found
      rcases Option.map_eq_some_iff.mp found with ⟨v, there, rfl⟩
      rw [assign_of_coerce named (coerce_of_read? (read?_toText duration peakLevel there)),
        put_get? there]
  | none =>
      rw [getKey?_of_unnamed named] at found
      have isValid : CustomKey.isValid key = true :=
        valid.keys key (Std.ExtTreeMap.mem_iff_isSome_getElem?.mpr (by rw [found]; rfl))
      -- maps are equal when they have the same texts, whatever was inserted last
      have kept : m.custom.insert key text = m.custom := by
        refine Std.ExtTreeMap.ext_getElem? fun other => ?_
        refine (getElem?_insert_entry m.custom (key, text)).trans ?_
        split
        · rename_i same
          rw [← same, found]
        · rfl
      rw [assign_of_isValid isValid, kept]

/-- A text that does not say so is not read as what is no number. -/
theorem asFloat?_ne_nan (coerced : (Value.text value).coerce f = .ok v) (isFloat : f.kind = .float)
    (number : ¬Decimal.SpellsNan value) : v.asFloat? ≠ some .nan := by
  have read := read?_of_coerce coerced
  rw [isFloat] at read
  rcases Option.map_eq_some_iff.mp read with ⟨x, spelled, rfl⟩
  intro isNan
  cases isNan
  exact number (Decimal.readFloat?_eq_nan.mp spelled)

theorem ne_nan_of_assign (duration : m.duration ≠ some .nan) (peakLevel : m.peakLevel ≠ some .nan)
    (number : ∀ f, Field.ofKey? key = some f → f.kind = .float → ¬Decimal.SpellsNan value)
    (done : m.assign key value = (.ok (), m')) :
    m'.duration ≠ some .nan ∧ m'.peakLevel ≠ some .nan := by
  rcases assign_cases done with ⟨f, v, named, coerced, rfl⟩ | ⟨-, rfl⟩
  · cases f with
    | md5 | path | source | name | format | formatSubtype | sampleRate | channels =>
        exact ⟨duration, peakLevel⟩
    | duration => exact ⟨asFloat?_ne_nan coerced rfl (number _ named rfl), peakLevel⟩
    | peakLevel => exact ⟨duration, asFloat?_ne_nan coerced rfl (number _ named rfl)⟩
  · exact ⟨duration, peakLevel⟩

/-- The laws of setting keys and looking them up. -/
structure LensLaws (m : Metadata) : Prop where
  refused : ∀ {key value : String} {e : SetError} {m' : Metadata},
    m.assign key value = (.error e, m') → m' = m
  /-- Texts and custom values are found as they were set. -/
  text : ∀ {key value : String} {m' : Metadata}, m.assign key value = (.ok (), m') →
    (∀ f, Field.ofKey? key = some f → f.kind = .text) → m'.getKey? key = some value
  /-- Numbers are found in the canonical form of what was set. -/
  number : ∀ {key value : String} {m' : Metadata} {f : Field}, m.assign key value = (.ok (), m') →
    Field.ofKey? key = some f → f.kind ≠ .text →
    ∃ v, (Value.text value).coerce f = .ok v ∧ m'.getKey? key = some v.toText
  others : ∀ {key value : String} {m' : Metadata}, m.assign key value = (.ok (), m') →
    (∀ other, other ≠ key → m'.getKey? other = m.getKey? other) ∧ m'.tags = m.tags
  /-- What was set is found, and setting it once more changes nothing. -/
  again : ∀ {key value : String} {m' : Metadata}, m.assign key value = (.ok (), m') →
    (∀ f, Field.ofKey? key = some f → f.kind = .float → ¬Decimal.SpellsNan value) →
    m'.same m' = true ∧ ∃ text, m'.getKey? key = some text ∧ m'.assign key text = (.ok (), m')
  /-- Setting what is found is accepted and changes nothing. -/
  back : ∀ {key text : String}, m.getKey? key = some text →
    m.assign key text = (.ok (), m) ∧ m.same m = true

theorem Made.lens_laws (made : m.Made) (duration : m.duration ≠ some .nan)
    (peakLevel : m.peakLevel ≠ some .nan) : m.LensLaws where
  refused := assign_refused
  text := by
    intro key value m' done texts
    cases named : Field.ofKey? key with
    | some f =>
        rcases getKey?_assign_field done named with ⟨v, coerced, found⟩
        have read := read?_of_coerce coerced
        rw [texts f named] at read
        cases read
        exact found
    | none => exact getKey?_assign_custom done named
  number := fun done named _ => getKey?_assign_field done named
  others := fun done => ⟨fun _ apart => getKey?_assign_other apart done, tags_assign done⟩
  again := by
    intro key value m' done number
    rcases ne_nan_of_assign duration peakLevel number done with ⟨duration', peakLevel'⟩
    have valid : m'.Valid := made.valid.setKey (setKey_of_assign done)
    have found : ∃ text, m'.getKey? key = some text := by
      cases named : Field.ofKey? key with
      | some f =>
          rcases getKey?_assign_field done named with ⟨v, -, found⟩
          exact ⟨_, found⟩
      | none => exact ⟨_, getKey?_assign_custom done named⟩
    rcases found with ⟨text, found⟩
    exact ⟨same_self duration' peakLevel', text, found,
      assign_getKey? valid duration' peakLevel' found⟩
  back := fun found =>
    ⟨assign_getKey? made.valid duration peakLevel found, same_self duration peakLevel⟩

/-- A peak of minus zero is found with its sign. -/
theorem kick_levelled :
    kick.Made ∧ kick.duration ≠ some .nan ∧ kick.peakLevel ≠ some .nan ∧
    kick.getKey? "_duration" = some "0.1" ∧ kick.assign "_duration" "0.1" = (.ok (), kick) ∧
    kick.assign "_channels" "two" = (.error (.coerce ⟨.channels, "two"⟩), kick) ∧
    ∃ m', kick.assign "_peak_level" " -0 " = (.ok (), m') ∧ m'.getKey? "_peak_level" = some "-0.0" ∧
      m'.getKey? "mood" = some "dark" ∧ m'.tags = kick.tags ∧
      m'.assign "_peak_level" "-0.0" = (.ok (), m') := by
  have made : kick.Made := .ofFields _ _
  have duration : kick.duration ≠ some .nan := by decide +kernel
  have peakLevel : kick.peakLevel ≠ some .nan := by decide +kernel
  have laws := made.lens_laws duration peakLevel
  have tenth : kick.getKey? "_duration" = some "0.1" := by decide +kernel
  have mood : kick.getKey? "mood" = some "dark" := by decide +kernel
  have isPeak : Field.ofKey? "_peak_level" = some .peakLevel := by decide
  have zero : (Value.text " -0 ").coerce .peakLevel = .ok (.float (.ofRank true 0)) := by decide +kernel
  have written : (Value.float (.ofRank true 0)).toText = "-0.0" := by decide +kernel
  have done := assign_of_coerce (m := kick) isPeak zero
  have notNan : ∀ f, Field.ofKey? "_peak_level" = some f → f.kind = .float → ¬Decimal.SpellsNan " -0 " := by
    intro f _ _ nan
    exact absurd (Decimal.readFloat?_eq_nan.mpr nan) (by decide +kernel)
  have answer : (kick.assign "_channels" "two").1 = .error (.coerce ⟨.channels, "two"⟩) := by rfl
  rcases laws.number done isPeak (by decide) with ⟨v, coerced, found⟩
  rw [zero] at coerced
  cases coerced
  rw [written] at found
  rcases laws.again done notNan with ⟨-, text, found', kept⟩
  obtain rfl : "-0.0" = text := Option.some.inj (found.symm.trans found')
  exact ⟨made, duration, peakLevel, tenth, (laws.back tenth).1,
    Prod.ext answer (laws.refused (Prod.ext answer rfl)), _, done, found,
    ((laws.others done).1 "mood" (by decide)).trans mood, (laws.others done).2, kept⟩

end Metadata

end SampleLibrary
