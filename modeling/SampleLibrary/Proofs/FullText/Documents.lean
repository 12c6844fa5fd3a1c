import SampleLibrary.FullText
import Mathlib.Data.List.Basic

/-!
# Parts of a document

In a document, each value is followed by a delimiter. A part of it that starts in a value and goes beyond
its end has the whole delimiter in it, or it ends between two characters of the delimiter. So a part without
a delimiter that ends neither way is a part of one value (`infix_of_part`).
-/

namespace SampleLibrary.FullText

/-- The document of some values: each with a delimiter behind it. -/
def documentOf (values : List String) : String :=
  Text.join " " (values.map fun value => value ++ " " ++ delimiter)

theorem document_eq (m : Metadata) (tags : TagSet) :
    document m tags = documentOf (m.indexedValues ++ tags.toList) := rfl

/-- What is written behind a value. -/
def gap : List Char := [' ', '~', '~', '~']

theorem toList_documentOf_cons (value : String) (values : List String) :
    ∃ more, (documentOf (value :: values)).toList = value.toList ++ (gap ++ more) ∧
      (more = [] ∨ more = ' ' :: (documentOf values).toList) := by
  cases values with
  | nil => exact ⟨[], by simp [documentOf, Text.join, delimiter, gap], .inl rfl⟩
  | cons other values =>
      refine ⟨_, ?_, .inr rfl⟩
      rw [documentOf, List.map_cons, List.map_cons, Text.join, String.intercalate_cons_cons]
      simp [documentOf, Text.join, delimiter, gap]

/-- A character that is not in the front part of a text stands behind it. -/
theorem exists_of_append_eq {front text before behind : List Char} {d : Char} (outside : d ∉ front)
    (same : front ++ text = before ++ d :: behind) :
    ∃ before', before = front ++ before' ∧ text = before' ++ d :: behind := by
  rcases List.append_eq_append_iff.mp same with ⟨before', rfl, rest⟩ | ⟨front', rfl, rest⟩
  · exact ⟨before', rfl, rest⟩
  · cases front' with
    | nil => exact ⟨[], by simp, by simpa using rest.symm⟩
    | cons e front' =>
        rw [List.cons_append, List.cons.injEq] at rest
        rw [rest.1] at outside
        exact absurd (by simp) outside

/-- A character of a document that is no part of what is written between values stands in a value. -/
theorem exists_value {values : List String} {before behind : List Char} {d : Char} (letter : d ∉ gap)
    (whole : (documentOf values).toList = before ++ d :: behind) :
    ∃ value ∈ values, ∃ left right after, value.toList = left ++ d :: right ∧
      behind = right ++ (gap ++ after) := by
  induction values generalizing before with
  | nil => simp [documentOf, Text.join] at whole
  | cons value values inductionHypothesis =>
      rcases toList_documentOf_cons value values with ⟨more, document, others⟩
      rw [document] at whole
      rcases List.append_eq_append_iff.mp whole with ⟨before', rfl, rest⟩ | ⟨right, inValue, rest⟩
      · rcases exists_of_append_eq letter rest with ⟨before'', rfl, rest'⟩
        rcases others with rfl | rfl
        · simp at rest'
        · have notSpace : d ∉ [' '] := fun isSpace => letter (by simp [gap, List.mem_singleton.mp isSpace])
          rcases exists_of_append_eq notSpace rest' with ⟨inOthers, -, later⟩
          rcases inductionHypothesis later with ⟨value', membership, found⟩
          exact ⟨value', List.mem_cons_of_mem _ membership, found⟩
      · cases right with
        | nil =>
            have isSpace : d = ' ' := (List.cons.inj rest).1
            exact absurd (by rw [isSpace]; decide) letter
        | cons e right =>
            rw [List.cons_append, List.cons.injEq] at rest
            rcases rest with ⟨rfl, rfl⟩
            exact ⟨value, List.mem_cons_self, before, right, more, inValue, rfl⟩

theorem hasPiece_append (piece front rest : List Char) :
    Text.hasPiece piece (front ++ (piece ++ rest)) = true := by
  induction front with
  | nil =>
      rw [List.nil_append]
      cases whole : piece ++ rest with
      | nil => simp [Text.hasPiece, (List.append_eq_nil_iff.mp whole).1]
      | cons c cs =>
          have starts : piece.isPrefixOf (c :: cs) = true := by
            rw [List.isPrefixOf_iff_prefix, ← whole]
            exact List.prefix_append piece rest
          simp [Text.hasPiece, starts]
  | cons c front inductionHypothesis => simp [Text.hasPiece, inductionHypothesis]

/-- The text does not end with a space or between two tildes. -/
def EndsSharply (part rest : List Char) : Prop :=
  ∀ c, part.getLast? = some c → c ≠ ' ' ∧ (c = '~' → rest.head? ≠ some '~')

/-- A text cannot end sharply in what is written behind a value, unless all of it is there. -/
theorem eq_gap_of_endsSharply {inside outside rest : List Char} (nonempty : inside ≠ [])
    (whole : gap = inside ++ outside) (sharp : EndsSharply inside (outside ++ rest)) : inside = gap := by
  rcases outside with - | ⟨c, outside⟩
  · rw [whole, List.append_nil]
  · have last := sharp (inside.getLast nonempty) (List.getLast?_eq_getLast_of_ne_nil nonempty)
    exfalso
    match inside with
    | [] => exact nonempty rfl
    | [a] =>
        simp only [gap, List.cons_append, List.nil_append, List.cons.injEq] at whole
        exact last.1 whole.1.symm
    | [a, b] =>
        simp only [gap, List.cons_append, List.nil_append, List.cons.injEq] at whole
        exact last.2 whole.2.1.symm (by rw [List.cons_append, List.head?_cons, whole.2.2.1])
    | [a, b, c'] =>
        simp only [gap, List.cons_append, List.nil_append, List.cons.injEq] at whole
        exact last.2 whole.2.2.1.symm (by rw [List.cons_append, List.head?_cons, whole.2.2.2.1])
    | _ :: _ :: _ :: _ :: _ => simp [gap] at whole

/-- A part of a document that has no delimiter in it, starts inside a value and ends sharply is a part of
the value. -/
theorem infix_of_part {values : List String} {front part rest behind : List Char} {d : Char}
    (whole : (documentOf values).toList = front ++ (part ++ rest)) (starts : part ++ rest = d :: behind)
    (letter : d ∉ gap) (sharp : EndsSharply part rest)
    (undelimited : Text.hasPiece delimiter.toList part = false) :
    ∃ value ∈ values, part <:+: value.toList := by
  rw [starts] at whole
  rcases exists_value letter whole with ⟨value, membership, left, right, after, inValue, rfl⟩
  refine ⟨value, membership, ?_⟩
  rw [inValue]
  rw [← List.cons_append] at starts
  rcases List.append_eq_append_iff.mp starts with ⟨right', inside, -⟩ | ⟨beyond, rfl, rest_eq⟩
  · exact ⟨left, right', by rw [List.append_assoc, ← inside]⟩
  · by_cases nonempty : beyond = []
    · exact ⟨left, [], by simp [nonempty]⟩
    · -- the part goes on behind the value, so all of the delimiter is in it
      have delimited {more : List Char} : Text.hasPiece delimiter.toList
          (d :: right ++ (gap ++ more)) = true := by
        have found := hasPiece_append delimiter.toList (d :: right ++ [' ']) more
        simpa [gap, delimiter] using found
      rcases List.append_eq_append_iff.mp rest_eq with ⟨more, rfl, -⟩ | ⟨outside, isGap, rfl⟩
      · rw [delimited] at undelimited
        cases undelimited
      · have sharp' : EndsSharply beyond (outside ++ after) := fun c last =>
          sharp c (by rw [List.getLast?_append_of_ne_nil _ nonempty, last])
        rw [eq_gap_of_endsSharply nonempty isGap sharp', ← List.append_nil gap, delimited] at undelimited
        cases undelimited

end SampleLibrary.FullText
