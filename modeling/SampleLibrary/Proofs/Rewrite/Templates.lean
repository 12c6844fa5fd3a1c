import Mathlib.Tactic.ByContra
import SampleLibrary.Rewrite.Template

/-!
# The grammar of templates

A template that can be filled in is written by segments (`Template.Segment`): literal texts, in which braces
are doubled, and fields that count by themselves, have a number or have a name. Every text is written by
segments up to its first fault (`Template.exists_segments`). What a template makes, and which error it
gives, is told by these segments alone (`Template.render_follows_grammar`).
-/

namespace SampleLibrary.Template

/-! ## Segments -/

/-- The digits of a numbered field. -/
structure Digits where
  text : String
  nonempty : text ≠ ""
  decimal : ∀ c ∈ text.toList, Text.isDecimal c = true
  deriving DecidableEq

/-- The number that the digits write. -/
def Digits.index (digits : Digits) : Nat := Decimal.digitsValue 0 digits.text.toList

/-- The name in a named field. It is not empty and no number, for some character is no digit. -/
structure FieldName where
  text : String
  noNumber : ∃ c ∈ text.toList, Text.isDecimal c = false
  plain : ∀ c ∈ text.toList, isReserved c = false ∧ c ≠ '}'
  deriving DecidableEq

/-- A part of a template. -/
inductive Segment where
  | literal (text : String)
  | automatic
  | numbered (digits : Digits)
  | named (name : FieldName)
  deriving DecidableEq

/-- A character as templates write it: braces twice. -/
def doubled (c : Char) : List Char := if c == '{' || c == '}' then [c, c] else [c]

@[simp]
def Segment.print : Segment → List Char
  | literal text => text.toList.flatMap doubled
  | automatic => ['{', '}']
  | numbered digits => '{' :: (digits.text.toList ++ ['}'])
  | named name => '{' :: (name.text.toList ++ ['}'])

def print (segments : List Segment) : List Char := segments.flatMap Segment.print

/-- What a segment stands for, if the fields that count by themselves have come to `next`. -/
def Segment.text (a : Arguments) (next : Nat) : Segment → String
  | literal text => text
  | automatic => a.groups[next]?.getD ""
  | numbered digits => a.groups[digits.index]?.getD ""
  | named name => a.named[name.text]?.getD ""

@[simp]
def filledFrom (a : Arguments) (next : Nat) : List Segment → String
  | [] => ""
  | segment :: rest =>
    segment.text a next ++ filledFrom a (next + [segment].count .automatic) rest

/-- The text that segments make: fields that count by themselves start with the whole match. -/
def filled (a : Arguments) (segments : List Segment) : String := filledFrom a 0 segments

/-- Why a segment cannot be filled in behind other ones. -/
inductive Offends (a : Arguments) (before : List Segment) : Segment → Error → Prop where
  | mixedAutomatic {digits : Digits} (there : .numbered digits ∈ before) :
      Offends a before .automatic .mixedNumbering
  | mixedNumbered (digits : Digits) (there : .automatic ∈ before) :
      Offends a before (.numbered digits) .mixedNumbering
  | automaticOutOfRange (unmixed : ∀ digits, .numbered digits ∉ before)
      (far : a.groups.length ≤ before.count .automatic) :
      Offends a before .automatic (.indexOutOfRange (before.count .automatic))
  | numberedOutOfRange (digits : Digits) (unmixed : .automatic ∉ before)
      (fits : digits.index < UInt64.size) (far : a.groups.length ≤ digits.index) :
      Offends a before (.numbered digits) (.indexOutOfRange digits.index)
  | tooLarge (digits : Digits) (unmixed : .automatic ∉ before) (large : UInt64.size ≤ digits.index) :
      Offends a before (.numbered digits) (.unsupported digits.text)

/-- The segments can be filled in: both ways to number fields are not mixed, and all groups are there. -/
structure Fillable (a : Arguments) (segments : List Segment) : Prop where
  unmixed : ∀ digits, .numbered digits ∈ segments → .automatic ∉ segments
  automatic : segments.count .automatic ≤ a.groups.length
  numbered : ∀ digits, .numbered digits ∈ segments →
    digits.index < UInt64.size ∧ digits.index < a.groups.length

/-- How a text can begin that no segment writes. -/
inductive Fault : List Char → Error → Prop where
  | closing {later : List Char} (single : later.head? ≠ some '}') :
      Fault ('}' :: later) (.unbalancedBrace '}')
  | opening {later : List Char} (single : later.head? ≠ some '{') (unclosed : '}' ∉ later) :
      Fault ('{' :: later) (.unbalancedBrace '{')
  | reserved {field later : List Char} (single : field.head? ≠ some '{') (inside : '}' ∉ field)
      (reserved : ∃ c ∈ field, isReserved c = true) :
      Fault ('{' :: (field ++ '}' :: later)) (.unsupported (String.ofList field))

variable {a : Arguments} {before segments : List Segment} {segment : Segment} {e : Error}

theorem mem_of_mem_append_segment {other : Segment} (there : other ∈ before ++ [segment])
    (ne : other ≠ segment) : other ∈ before :=
  (List.mem_append.mp there).resolve_right fun last => ne (List.mem_singleton.mp last)

/-! ## What can be filled in -/

theorem fillable_nil (a : Arguments) : Fillable a [] :=
  ⟨fun _ there => absurd there List.not_mem_nil, Nat.zero_le _,
    fun _ there => absurd there List.not_mem_nil⟩

theorem Fillable.of_append {later : List Segment} (fillable : Fillable a (before ++ later)) :
    Fillable a before where
  unmixed digits there automatic :=
    fillable.unmixed digits (List.mem_append_left _ there) (List.mem_append_left _ automatic)
  automatic := by
    have bound := fillable.automatic
    rw [List.count_append] at bound
    exact Nat.le_of_add_right_le bound
  numbered digits there := fillable.numbered digits (List.mem_append_left _ there)

theorem Offends.not_fillable (offends : Offends a before segment e) :
    ¬Fillable a (before ++ [segment]) := by
  intro fillable
  have last : segment ∈ before ++ [segment] := List.mem_append_right _ (List.mem_singleton_self _)
  cases offends with
  | mixedAutomatic there => exact fillable.unmixed _ (List.mem_append_left _ there) last
  | mixedNumbered digits there => exact fillable.unmixed digits last (List.mem_append_left _ there)
  | automaticOutOfRange unmixed far =>
      have bound := fillable.automatic
      rw [List.count_append, List.count_singleton_self] at bound
      omega
  | numberedOutOfRange digits unmixed fits far =>
      exact Nat.not_lt.mpr far (fillable.numbered digits last).2
  | tooLarge digits unmixed large => exact Nat.not_lt.mpr large (fillable.numbered digits last).1

/-- Literal texts and named fields can always be filled in. -/
theorem Fillable.append_plain (fillable : Fillable a before) (notAutomatic : segment ≠ .automatic)
    (notNumbered : ∀ digits, segment ≠ .numbered digits) : Fillable a (before ++ [segment]) where
  unmixed digits there automatic :=
    fillable.unmixed digits (mem_of_mem_append_segment there (notNumbered digits).symm)
      (mem_of_mem_append_segment automatic notAutomatic.symm)
  automatic := by
    have none : [segment].count .automatic = 0 :=
      List.count_eq_zero.mpr fun there => notAutomatic (List.mem_singleton.mp there).symm
    rw [List.count_append, none]
    exact fillable.automatic
  numbered digits there :=
    fillable.numbered digits (mem_of_mem_append_segment there (notNumbered digits).symm)

theorem Fillable.append_automatic (fillable : Fillable a before)
    (unmixed : ∀ digits, .numbered digits ∉ before) (near : before.count .automatic < a.groups.length) :
    Fillable a (before ++ [.automatic]) where
  unmixed digits there :=
    absurd (mem_of_mem_append_segment there Segment.noConfusion) (unmixed digits)
  automatic := by
    rw [List.count_append, List.count_singleton_self]
    exact near
  numbered digits there :=
    fillable.numbered digits (mem_of_mem_append_segment there Segment.noConfusion)

theorem Fillable.append_numbered {digits : Digits} (fillable : Fillable a before)
    (unmixed : .automatic ∉ before) (fits : digits.index < UInt64.size)
    (near : digits.index < a.groups.length) : Fillable a (before ++ [.numbered digits]) where
  unmixed _ _ automatic :=
    unmixed (mem_of_mem_append_segment automatic Segment.noConfusion)
  automatic := by
    have none : [Segment.numbered digits].count .automatic = 0 := by simp
    rw [List.count_append, none]
    exact fillable.automatic
  numbered other there := by
    rw [List.mem_append, List.mem_singleton, Segment.numbered.injEq] at there
    rcases there with there | rfl
    · exact fillable.numbered other there
    · exact ⟨fits, near⟩

/-! ## Filling in -/

/-- What numbering of fields some segments leave behind. -/
inductive Tracks (before : List Segment) : Numbering → Prop where
  | undecided (unnumbered : ∀ digits, .numbered digits ∉ before) (none : .automatic ∉ before) :
      Tracks before .undecided
  | automatic (unnumbered : ∀ digits, .numbered digits ∉ before) (some : .automatic ∈ before) :
      Tracks before (.automatic (before.count .automatic))
  | manual {digits : Digits} (some : .numbered digits ∈ before) (none : .automatic ∉ before) :
      Tracks before .manual

/-- The pieces into which a segment is cut. -/
@[simp]
def Segment.pieces : Segment → List Piece
  | literal text => text.toList.map .char
  | automatic => [.field []]
  | numbered digits => [.field digits.text.toList]
  | named name => [.field name.text.toList]

variable {numbering numbering' : Numbering} {field : List Char} {value : String}

theorem Arguments.group_of_lt {index : Nat} (near : index < a.groups.length) :
    a.group index = .ok (a.groups[index]?.getD "") := by
  rw [Arguments.group, List.getElem?_eq_getElem near]
  rfl

theorem Arguments.group_of_le {index : Nat} (far : a.groups.length ≤ index) :
    a.group index = .error (.indexOutOfRange index) := by
  rw [Arguments.group, List.getElem?_eq_none far]

theorem not_isDecimal_of_isReserved {c : Char} (reserved : isReserved c = true) :
    ¬Text.isDecimal c = true := by
  simp only [isReserved, Bool.or_eq_true, beq_iff_eq] at reserved
  rcases reserved with (((rfl | rfl) | rfl) | rfl) | rfl <;> decide

theorem fill_digits (a : Arguments) (numbering : Numbering) (digits : Digits) :
    fill a numbering digits.text.toList =
      match numbering with
      | .automatic _ => .error .mixedNumbering
      | _ =>
        if digits.index < UInt64.size then (a.group digits.index).map (·, .manual)
        else .error (.unsupported digits.text) := by
  have nonempty : digits.text.toList.isEmpty = false := by simpa using digits.nonempty
  have unreserved : digits.text.toList.any isReserved = false := by
    rw [List.any_eq_false]
    exact fun c there reserved => not_isDecimal_of_isReserved reserved (digits.decimal c there)
  have number : Decimal.readDigits? digits.text.toList = some digits.index := by
    rw [Decimal.readDigits?, nonempty, List.all_eq_true.mpr digits.decimal]
    rfl
  cases numbering <;>
    simp only [fill, unreserved, nonempty, number, String.ofList_toList, Bool.false_eq_true, if_false]

theorem fill_name (a : Arguments) (numbering : Numbering) (name : FieldName) :
    fill a numbering name.text.toList = .ok (a.named[name.text]?.getD "", numbering) := by
  rcases name.noNumber with ⟨c, there, noDigit⟩
  have nonempty : name.text.toList.isEmpty = false := by
    rw [List.isEmpty_eq_false_iff]
    exact List.ne_nil_of_mem there
  have unreserved : name.text.toList.any isReserved = false := by
    rw [List.any_eq_false]
    intro d inName
    rw [(name.plain d inName).1]
    exact Bool.false_ne_true
  have number : Decimal.readDigits? name.text.toList = none := by
    have mixed : name.text.toList.all Text.isDecimal = false :=
      List.all_eq_false.mpr ⟨c, there, by simp [noDigit]⟩
    rw [Decimal.readDigits?, mixed]
    simp
  unfold fill
  simp only [unreserved, nonempty, number, String.ofList_toList, Bool.false_eq_true, if_false]

theorem fillPieces_ok (filled : fill a numbering field = .ok (value, numbering')) (rest : List Piece) :
    fillPieces a numbering (.field field :: rest) =
      (fillPieces a numbering' rest).map (value ++ ·) := by
  rw [fillPieces, filled]

theorem fillPieces_error (failed : fill a numbering field = .error e) (rest : List Piece) :
    fillPieces a numbering (.field field :: rest) = .error e := by
  rw [fillPieces, failed]

theorem fillPieces_chars (a : Arguments) (numbering : Numbering) (cs : List Char) (rest : List Piece) :
    fillPieces a numbering (cs.map .char ++ rest) =
      (fillPieces a numbering rest).map (String.ofList cs ++ ·) := by
  induction cs with
  | nil =>
      rw [List.map_nil, List.nil_append]
      cases fillPieces a numbering rest with
      | error e => rfl
      | ok text => simp [Except.map]
  | cons c cs inductionHypothesis =>
      rw [List.map_cons, List.cons_append, fillPieces, inductionHypothesis]
      cases fillPieces a numbering rest with
      | error e => rfl
      | ok text => simp [Except.map, ← String.append_assoc, String.ofList_cons]

theorem Tracks.append_plain (tracks : Tracks before numbering) (notAutomatic : segment ≠ .automatic)
    (notNumbered : ∀ digits, segment ≠ .numbered digits) : Tracks (before ++ [segment]) numbering := by
  have unnumbered : (∀ digits, .numbered digits ∉ before) →
      ∀ digits, .numbered digits ∉ before ++ [segment] := fun absent digits there =>
    absent digits (mem_of_mem_append_segment there (notNumbered digits).symm)
  have uncounted : .automatic ∉ before → .automatic ∉ before ++ [segment] := fun absent there =>
    absent (mem_of_mem_append_segment there notAutomatic.symm)
  cases tracks with
  | undecided none none' => exact .undecided (unnumbered none) (uncounted none')
  | automatic none some =>
      have count : before.count .automatic = (before ++ [segment]).count .automatic := by
        rw [List.count_append, List.count_eq_zero.mpr fun there =>
          notAutomatic (List.mem_singleton.mp there).symm, Nat.add_zero]
      exact count ▸ .automatic (unnumbered none) (List.mem_append_left _ some)
  | manual some none => exact .manual (List.mem_append_left _ some) (uncounted none)

/-- What becomes of segments behind other ones: one of them is the first to offend, or all are filled in. -/
inductive Outcome (a : Arguments) (before : List Segment) (numbering : Numbering)
    (segments : List Segment) : Prop where
  | offends {front after : List Segment} {segment : Segment} {e : Error}
      (whole : segments = front ++ segment :: after) (fillable : Fillable a (before ++ front))
      (offends : Offends a (before ++ front) segment e)
      (failed : ∀ rest,
        fillPieces a numbering (segments.flatMap Segment.pieces ++ rest) = .error e)
  | fills {numbering' : Numbering} (fillable : Fillable a (before ++ segments))
      (tracks : Tracks (before ++ segments) numbering')
      (filled : ∀ rest, fillPieces a numbering (segments.flatMap Segment.pieces ++ rest) =
        (fillPieces a numbering' rest).map (filledFrom a (before.count .automatic) segments ++ ·))

theorem filledFrom_singleton (a : Arguments) (next : Nat) (segment : Segment) :
    filledFrom a next [segment] = segment.text a next := by
  simp

section Fields

variable (cut : segment.pieces = [.field field])
include cut

theorem Outcome.of_fill_ok
    (filled : fill a numbering field = .ok (segment.text a (before.count .automatic), numbering'))
    (fillable : Fillable a (before ++ [segment])) (tracks : Tracks (before ++ [segment]) numbering') :
    Outcome a before numbering [segment] := by
  refine .fills fillable tracks fun rest => ?_
  rw [List.flatMap_singleton, cut, List.singleton_append, fillPieces_ok filled, filledFrom_singleton]

theorem Outcome.of_fill_error (failed : fill a numbering field = .error e) (fillable : Fillable a before)
    (offends : Offends a before segment e) : Outcome a before numbering [segment] := by
  have noneBefore : before ++ [] = before := List.append_nil before
  refine .offends rfl (noneBefore ▸ fillable) (noneBefore ▸ offends) fun rest => ?_
  rw [List.flatMap_singleton, cut, List.singleton_append, fillPieces_error failed]

end Fields

section Steps

variable (tracks : Tracks before numbering) (fillable : Fillable a before)
include tracks fillable

theorem outcome_literal (text : String) : Outcome a before numbering [.literal text] := by
  have fillable' : Fillable a (before ++ [.literal text]) :=
    fillable.append_plain Segment.noConfusion fun _ => Segment.noConfusion
  refine .fills fillable' (tracks.append_plain Segment.noConfusion fun _ => Segment.noConfusion) fun rest => ?_
  rw [List.flatMap_singleton, Segment.pieces, fillPieces_chars, filledFrom_singleton, String.ofList_toList]
  rfl

theorem outcome_named (name : FieldName) : Outcome a before numbering [.named name] :=
  .of_fill_ok rfl (fill_name a numbering name)
    (fillable.append_plain Segment.noConfusion fun _ => Segment.noConfusion)
    (tracks.append_plain Segment.noConfusion fun _ => Segment.noConfusion)

/-- A field that counts by itself is mixed in, has no group to take, or takes the next one. -/
theorem outcome_automatic : Outcome a before numbering [.automatic] := by
  have next (unnumbered : ∀ digits, .numbered digits ∉ before)
      (filled : fill a numbering [] =
        (a.group (before.count .automatic)).map (·, .automatic (before.count .automatic + 1))) :
      Outcome a before numbering [.automatic] := by
    by_cases near : before.count .automatic < a.groups.length
    · rw [Arguments.group_of_lt near] at filled
      have unnumbered' : ∀ digits, .numbered digits ∉ before ++ [.automatic] := fun digits there =>
        unnumbered digits (mem_of_mem_append_segment there Segment.noConfusion)
      have tracks' := Tracks.automatic unnumbered' (List.mem_append_right _ (List.mem_singleton_self _))
      rw [List.count_append, List.count_singleton_self] at tracks'
      exact .of_fill_ok rfl filled (fillable.append_automatic unnumbered near) tracks'
    · rw [Arguments.group_of_le (Nat.not_lt.mp near)] at filled
      exact .of_fill_error rfl filled fillable (.automaticOutOfRange unnumbered (Nat.not_lt.mp near))
  cases tracks with
  | undecided unnumbered none =>
      apply next unnumbered
      rw [List.count_eq_zero.mpr none]
      rfl
  | automatic unnumbered some => exact next unnumbered rfl
  | manual some none => exact .of_fill_error rfl rfl fillable (.mixedAutomatic some)

/-- A numbered field is mixed in, has no group to take, or takes the one with its number. -/
theorem outcome_numbered (digits : Digits) : Outcome a before numbering [.numbered digits] := by
  have next (unmixed : .automatic ∉ before)
      (filled : fill a numbering digits.text.toList =
        if digits.index < UInt64.size then (a.group digits.index).map (·, .manual)
        else .error (.unsupported digits.text)) :
      Outcome a before numbering [.numbered digits] := by
    by_cases fits : digits.index < UInt64.size
    · rw [if_pos fits] at filled
      by_cases near : digits.index < a.groups.length
      · rw [Arguments.group_of_lt near] at filled
        have unmixed' : .automatic ∉ before ++ [.numbered digits] := fun there =>
          unmixed (mem_of_mem_append_segment there Segment.noConfusion)
        exact .of_fill_ok rfl filled (fillable.append_numbered unmixed fits near)
          (.manual (List.mem_append_right _ (List.mem_singleton_self _)) unmixed')
      · rw [Arguments.group_of_le (Nat.not_lt.mp near)] at filled
        exact .of_fill_error rfl filled fillable
          (.numberedOutOfRange digits unmixed fits (Nat.not_lt.mp near))
    · rw [if_neg fits] at filled
      exact .of_fill_error rfl filled fillable (.tooLarge digits unmixed (Nat.not_lt.mp fits))
  have filled := fill_digits a numbering digits
  cases tracks with
  | undecided unnumbered none => exact next none filled
  | automatic unnumbered some => exact .of_fill_error rfl filled fillable (.mixedNumbered digits some)
  | manual some none => exact next none filled

theorem outcome_segment (segment : Segment) : Outcome a before numbering [segment] := by
  cases segment with
  | literal text => exact outcome_literal tracks fillable text
  | automatic => exact outcome_automatic tracks fillable
  | numbered digits => exact outcome_numbered tracks fillable digits
  | named name => exact outcome_named tracks fillable name

end Steps

/-- Segments are filled in one after the other, up to the first that offends. -/
theorem outcome (tracks : Tracks before numbering) (fillable : Fillable a before)
    (segments : List Segment) : Outcome a before numbering segments := by
  induction segments generalizing before numbering with
  | nil =>
      rw [← List.append_nil before] at tracks fillable
      refine .fills fillable tracks fun rest => ?_
      rw [List.flatMap_nil, List.nil_append]
      cases fillPieces a numbering rest with
      | error e => rfl
      | ok text => simp [Except.map]
  | cons segment segments inductionHypothesis =>
      have pieces (rest : List Piece) : (segment :: segments).flatMap Segment.pieces ++ rest =
          [segment].flatMap Segment.pieces ++ (segments.flatMap Segment.pieces ++ rest) := by
        simp
      have onwards (later : List Segment) : before ++ segment :: later = before ++ [segment] ++ later := by
        simp
      cases outcome_segment tracks fillable segment with
      | @offends front after offender e whole fillable' offends failed =>
          have whole' : segment :: segments = front ++ offender :: (after ++ segments) := by
            rw [← List.singleton_append, whole, List.append_assoc, List.cons_append]
          refine .offends whole' fillable' offends fun rest => ?_
          rw [pieces, failed]
      | fills fillable' tracks' filled =>
          cases inductionHypothesis tracks' fillable' with
          | @offends front after offender e whole fillable'' offends failed =>
              have whole' : segment :: segments = (segment :: front) ++ offender :: after := by
                rw [whole, List.cons_append]
              rw [← onwards] at fillable'' offends
              refine .offends whole' fillable'' offends fun rest => ?_
              rw [pieces, filled, failed]
              rfl
          | @fills numbering'' fillable'' tracks'' filled' =>
              rw [← onwards] at fillable'' tracks''
              refine .fills fillable'' tracks'' fun rest => ?_
              rw [pieces, filled, filled', filledFrom_singleton, filledFrom, List.count_append]
              cases fillPieces a numbering'' rest with
              | error e => rfl
              | ok text => simp [Except.map, String.append_assoc]

/-! ## Cutting -/

attribute [local simp] cut

theorem cut_doubled (c : Char) (rest : List Char) :
    cut none (doubled c ++ rest) = .char c :: cut none rest := by
  unfold doubled
  by_cases brace : c = '{' ∨ c = '}'
  · rcases brace with rfl | rfl <;> simp
  · rw [not_or] at brace
    simp [brace]

theorem cut_literal (text rest : List Char) :
    cut none (text.flatMap doubled ++ rest) = text.map .char ++ cut none rest := by
  induction text with
  | nil => rfl
  | cons c text inductionHypothesis =>
      rw [List.flatMap_cons, List.append_assoc, cut_doubled, inductionHypothesis, List.map_cons,
        List.cons_append]

theorem cut_open {cs : List Char} (single : cs.head? ≠ some '{') :
    cut none ('{' :: cs) = cut (some []) cs := by
  cases cs with
  | nil => simp
  | cons c cs =>
      have notBrace : c ≠ '{' := by simpa using single
      simp [notBrace]

theorem cut_inside {text : List Char} (inside : '}' ∉ text) (read later : List Char) :
    cut (some read) (text ++ '}' :: later) = .field (read.reverse ++ text) :: cut none later := by
  induction text generalizing read with
  | nil => simp
  | cons c text inductionHypothesis =>
      rw [List.mem_cons, not_or] at inside
      rw [List.cons_append, cut, if_neg (by simpa using Ne.symm inside.1), inductionHypothesis inside.2]
      simp

theorem cut_unclosed {text : List Char} (unclosed : '}' ∉ text) (read : List Char) :
    cut (some read) text = [.unbalanced '{'] := by
  induction text generalizing read with
  | nil => rfl
  | cons c text inductionHypothesis =>
      rw [List.mem_cons, not_or] at unclosed
      rw [cut, if_neg (by simpa using Ne.symm unclosed.1), inductionHypothesis unclosed.2]

/-- A field is cut out as it stands. -/
theorem cut_field {text : List Char} (single : text.head? ≠ some '{') (inside : '}' ∉ text)
    (later : List Char) : cut none ('{' :: (text ++ '}' :: later)) = .field text :: cut none later := by
  rw [cut_open, cut_inside inside]
  · rfl
  · cases text with
    | nil => simp
    | cons c text => simpa using single

theorem cut_segment (segment : Segment) (rest : List Char) :
    cut none (segment.print ++ rest) = segment.pieces ++ cut none rest := by
  cases segment with
  | literal text => exact cut_literal text.toList rest
  | automatic => exact cut_field (by simp) List.not_mem_nil rest
  | numbered digits =>
      have plain : ∀ c ∈ digits.text.toList, c ≠ '{' ∧ c ≠ '}' := by
        intro c there
        have digit := digits.decimal c there
        constructor <;>
        · rintro rfl
          exact absurd digit (by decide)
      rw [Segment.print, List.cons_append, List.append_assoc, List.singleton_append, cut_field]
      · rfl
      · exact fun brace => (plain _ (List.mem_of_head? brace)).1 rfl
      · exact fun brace => (plain _ brace).2 rfl
  | named name =>
      rw [Segment.print, List.cons_append, List.append_assoc, List.singleton_append, cut_field]
      · rfl
      · intro brace
        exact absurd (name.plain _ (List.mem_of_head? brace)).1 (by decide)
      · exact fun brace => (name.plain _ brace).2 rfl

theorem cut_print (segments : List Segment) (rest : List Char) :
    cut none (print segments ++ rest) = segments.flatMap Segment.pieces ++ cut none rest := by
  induction segments with
  | nil => rfl
  | cons segment segments inductionHypothesis =>
      rw [print, List.flatMap_cons, List.append_assoc, cut_segment, List.flatMap_cons, List.append_assoc]
      exact congrArg (segment.pieces ++ ·) inductionHypothesis

/-- Whatever numbering came before, a fault ends in its error. -/
theorem Fault.fillPieces {rest : List Char} (fault : Fault rest e) (numbering : Numbering) :
    fillPieces a numbering (cut none rest) = .error e := by
  cases fault with
  | @closing later single =>
      have cutOff : cut none ('}' :: later) = [.unbalanced '}'] := by
        cases later with
        | nil => simp
        | cons c later =>
            have notBrace : c ≠ '}' := by simpa using single
            simp [notBrace]
      rw [cutOff]
      rfl
  | opening single unclosed =>
      rw [cut_open single, cut_unclosed unclosed]
      rfl
  | @reserved field later single inside reserved =>
      have unsupported : field.any isReserved = true := List.any_eq_true.mpr reserved
      rw [cut_field single inside]
      have refused : fill a numbering field = .error (.unsupported (String.ofList field)) := by
        unfold fill
        rw [if_pos unsupported]
      exact fillPieces_error refused _

/-- A field without reserved characters is one of a segment. -/
theorem exists_segment_of_field {field : List Char} (inside : '}' ∉ field)
    (plain : ∀ c ∈ field, ¬isReserved c = true) :
    ∃ segment : Segment, segment.print = '{' :: (field ++ ['}']) := by
  by_cases nonempty : field = []
  · exact ⟨.automatic, by rw [nonempty]; rfl⟩
  · by_cases decimal : ∀ c ∈ field, Text.isDecimal c = true
    · refine ⟨.numbered ⟨String.ofList field, ?_, ?_⟩, ?_⟩
      · simpa using nonempty
      · rwa [String.toList_ofList]
      · rw [Segment.print, String.toList_ofList]
    · have noNumber : ∃ c ∈ field, Text.isDecimal c = false := by
        simpa only [not_forall, exists_prop, Bool.not_eq_true] using decimal
      refine ⟨.named ⟨String.ofList field, ?_, ?_⟩, ?_⟩
      · rwa [String.toList_ofList]
      · rw [String.toList_ofList]
        refine fun c there => ⟨Bool.eq_false_iff.mpr (plain c there), ?_⟩
        rintro rfl
        exact inside there
      · rw [Segment.print, String.toList_ofList]

/-- A text that is not empty begins with a segment or with a fault. -/
theorem begins (c : Char) (later : List Char) :
    (∃ (segment : Segment) (rest : List Char), c :: later = segment.print ++ rest ∧
      rest.length ≤ later.length) ∨ ∃ e, Fault (c :: later) e := by
  have literal {c : Char} {text rest : List Char} (written : text = doubled c ++ rest)
      (shorter : rest.length ≤ later.length) :
      ∃ (segment : Segment) (rest : List Char), text = segment.print ++ rest ∧
        rest.length ≤ later.length := by
    refine ⟨.literal (String.singleton c), rest, ?_, shorter⟩
    rw [written, Segment.print, String.toList_singleton, List.flatMap_singleton]
  by_cases opens : c = '{'
  · subst opens
    by_cases twice : later.head? = some '{'
    · rcases List.head?_eq_some_iff.mp twice with ⟨rest, rfl⟩
      exact .inl (literal (c := '{') rfl (Nat.le_succ _))
    · by_cases closed : '}' ∈ later
      · rcases List.eq_append_cons_of_mem closed with ⟨field, rest, rfl, inside⟩
        have single : field.head? ≠ some '{' := by
          intro brace
          rcases List.head?_eq_some_iff.mp brace with ⟨more, rfl⟩
          exact twice rfl
        by_cases reserved : ∃ c ∈ field, isReserved c = true
        · exact .inr ⟨_, .reserved single inside reserved⟩
        · have plain : ∀ c ∈ field, ¬isReserved c = true := by simpa using reserved
          rcases exists_segment_of_field inside plain with ⟨segment, written⟩
          refine .inl ⟨segment, rest, ?_, ?_⟩
          · rw [written, List.cons_append, List.append_assoc, List.singleton_append]
          · rw [List.length_append, List.length_cons]
            omega
      · exact .inr ⟨_, .opening twice closed⟩
  · by_cases closes : c = '}'
    · subst closes
      by_cases twice : later.head? = some '}'
      · rcases List.head?_eq_some_iff.mp twice with ⟨rest, rfl⟩
        exact .inl (literal (c := '}') rfl (Nat.le_succ _))
      · exact .inr ⟨_, .closing twice⟩
    · have once : doubled c = [c] := by simp [doubled, opens, closes]
      exact .inl (literal (by rw [once, List.singleton_append]) (Nat.le_refl _))

/-- Every text is written by segments up to its first fault. -/
theorem exists_segments (cs : List Char) :
    ∃ segments rest, cs = print segments ++ rest ∧ (rest = [] ∨ ∃ e, Fault rest e) := by
  induction length : cs.length using Nat.strongRecOn generalizing cs with
  | ind n inductionHypothesis =>
      cases cs with
      | nil => exact ⟨[], [], rfl, .inl rfl⟩
      | cons c later =>
          rcases begins c later with ⟨segment, rest, written, shorter⟩ | fault
          · have less : rest.length < n := by
              rw [← length, List.length_cons]
              omega
            rcases inductionHypothesis _ less rest rfl with ⟨segments, rest', written', ends⟩
            refine ⟨segment :: segments, rest', ?_, ends⟩
            rw [written, written', print, print, List.flatMap_cons, List.append_assoc]
          · exact ⟨[], c :: later, rfl, .inr fault⟩

/-! ## Rendering -/

theorem render_eq (a : Arguments) {template : String} {rest : List Char}
    (written : template.toList = print segments ++ rest) :
    render a template =
      fillPieces a .undecided (segments.flatMap Segment.pieces ++ cut none rest) := by
  rw [render, pieces, written, cut_print]

theorem tracks_nil : Tracks [] .undecided :=
  .undecided (fun _ there => absurd there List.not_mem_nil) List.not_mem_nil

/-- What comes behind segments that can be filled in decides the outcome. -/
theorem render_of_fillable (fillable : Fillable a segments) {template : String} {rest : List Char}
    (written : template.toList = print segments ++ rest) :
    ∃ numbering, render a template =
      (fillPieces a numbering (cut none rest)).map (filled a segments ++ ·) := by
  rw [render_eq a written]
  cases outcome tracks_nil (fillable_nil a) segments with
  | @offends front after segment e whole fillable' offends failed =>
      have upTo : Fillable a (front ++ [segment]) := by
        rw [whole, ← List.singleton_append, ← List.append_assoc] at fillable
        exact fillable.of_append
      exact absurd upTo offends.not_fillable
  | fills fillable' tracks filled => exact ⟨_, filled _⟩

theorem render_print (fillable : Fillable a segments) :
    render a (String.ofList (print segments)) = .ok (filled a segments) := by
  have written : (String.ofList (print segments)).toList = print segments ++ [] := by simp
  rcases render_of_fillable fillable written with ⟨numbering, rendered⟩
  rw [rendered]
  simp [fillPieces, Except.map]

theorem render_of_fault (fillable : Fillable a segments) {template : String} {rest : List Char}
    (written : template.toList = print segments ++ rest) (fault : Fault rest e) :
    render a template = .error e := by
  rcases render_of_fillable fillable written with ⟨numbering, rendered⟩
  rw [rendered, fault.fillPieces]
  rfl

theorem Offends.unique {e' : Error} (offends : Offends a before segment e)
    (offends' : Offends a before segment e') : e = e' := by
  cases offends with
  | mixedAutomatic there =>
      cases offends' with
      | mixedAutomatic => rfl
      | automaticOutOfRange unmixed => exact absurd there (unmixed _)
  | automaticOutOfRange unmixed =>
      cases offends' with
      | mixedAutomatic there => exact absurd there (unmixed _)
      | automaticOutOfRange => rfl
  | mixedNumbered digits there =>
      cases offends' with
      | mixedNumbered => rfl
      | numberedOutOfRange digits unmixed | tooLarge digits unmixed => exact absurd there unmixed
  | numberedOutOfRange digits unmixed fits =>
      cases offends' with
      | mixedNumbered digits there => exact absurd there unmixed
      | numberedOutOfRange => rfl
      | tooLarge digits unmixed large => exact absurd fits (Nat.not_lt.mpr large)
  | tooLarge digits unmixed large =>
      cases offends' with
      | mixedNumbered digits there => exact absurd there unmixed
      | numberedOutOfRange digits unmixed fits => exact absurd fits (Nat.not_lt.mpr large)
      | tooLarge => rfl

/-- Of segments that cannot be filled in, the first one that offends gives the error. -/
theorem render_of_not_fillable (unfillable : ¬Fillable a segments) {template : String} {rest : List Char}
    (written : template.toList = print segments ++ rest) :
    ∃ front segment after e, segments = front ++ segment :: after ∧ Fillable a front ∧
      Offends a front segment e ∧ render a template = .error e := by
  rw [render_eq a written]
  cases outcome tracks_nil (fillable_nil a) segments with
  | offends whole fillable offends failed => exact ⟨_, _, _, _, whole, fillable, offends, failed _⟩
  | fills fillable tracks filled => exact absurd fillable unfillable

theorem render_of_offends (fillable : Fillable a before) (offends : Offends a before segment e)
    {template : String} {rest : List Char}
    (written : template.toList = print (before ++ [segment]) ++ rest) : render a template = .error e := by
  rcases render_of_not_fillable offends.not_fillable written with
    ⟨front, segment', after, e', whole, -, offends', failed⟩
  -- no earlier segment offends
  rcases List.eq_nil_or_concat after with rfl | ⟨after, last, rfl⟩
  · rcases List.append_inj' whole rfl with ⟨rfl, same⟩
    rw [List.singleton_inj.mp same] at offends
    rw [failed, offends.unique offends']
  · rw [List.concat_eq_append, ← List.cons_append, ← List.append_assoc] at whole
    rcases List.append_inj' whole rfl with ⟨rfl, -⟩
    rw [← List.singleton_append, ← List.append_assoc] at fillable
    exact absurd fillable.of_append offends'.not_fillable

/-- The first fault of a template, from the left. -/
inductive FirstFault (a : Arguments) (template : List Char) : Error → Prop where
  | offends {segments : List Segment} {segment : Segment} {e : Error} {later : List Char}
      (fillable : Fillable a segments) (offends : Offends a segments segment e)
      (written : template = print (segments ++ [segment]) ++ later) : FirstFault a template e
  | fault {segments : List Segment} {e : Error} {rest : List Char}
      (fillable : Fillable a segments) (fault : Fault rest e)
      (written : template = print segments ++ rest) : FirstFault a template e

theorem render_cases (a : Arguments) (template : String) :
    (∃ segments, Fillable a segments ∧ template = String.ofList (print segments)) ∨
      ∃ e, FirstFault a template.toList e := by
  rcases exists_segments template.toList with ⟨segments, rest, written, ends⟩
  by_cases fillable : Fillable a segments
  · rcases ends with rfl | ⟨e, fault⟩
    · refine .inl ⟨segments, fillable, String.toList_inj.mp ?_⟩
      rw [written, List.append_nil, String.toList_ofList]
    · exact .inr ⟨e, .fault fillable fault written⟩
  · rcases render_of_not_fillable fillable written with
      ⟨front, segment, after, e, rfl, fillable', offends, -⟩
    have upTo : template.toList = print (front ++ [segment]) ++ (print after ++ rest) := by
      rw [written, print, print, print, List.append_cons, List.flatMap_append, List.append_assoc]
    exact .inr ⟨e, .offends fillable' offends upTo⟩

theorem render_eq_error_iff {template : String} :
    render a template = .error e ↔ FirstFault a template.toList e := by
  have failed {e : Error} (first : FirstFault a template.toList e) : render a template = .error e := by
    cases first with
    | offends fillable offends written => exact render_of_offends fillable offends written
    | fault fillable fault written => exact render_of_fault fillable written fault
  refine ⟨fun rendered => ?_, failed⟩
  rcases render_cases a template with ⟨segments, fillable, rfl⟩ | ⟨e', first⟩
  · rw [render_print fillable] at rendered
    cases rendered
  · rw [failed first, Except.error.injEq] at rendered
    exact rendered ▸ first

theorem not_unbalanced_of_offends {brace : Char} : ¬Offends a before segment (.unbalancedBrace brace) := by
  intro offends
  cases offends

theorem fault_unbalanced_iff {rest : List Char} {brace : Char} :
    Fault rest (.unbalancedBrace brace) ↔ ∃ later, rest = brace :: later ∧
      (brace = '}' ∧ later.head? ≠ some '}' ∨
        brace = '{' ∧ later.head? ≠ some '{' ∧ '}' ∉ later) := by
  constructor
  · intro fault
    cases fault with
    | closing single => exact ⟨_, rfl, .inl ⟨rfl, single⟩⟩
    | opening single unclosed => exact ⟨_, rfl, .inr ⟨rfl, single, unclosed⟩⟩
  · rintro ⟨later, rfl, ⟨rfl, single⟩ | ⟨rfl, single, unclosed⟩⟩
    · exact .closing single
    · exact .opening single unclosed

/-- Segments that can be filled in are rendered as their texts, and other ones end in the error of the first
that offends. Whatever is rendered is written by such segments. A brace is found to be unbalanced where
segments that can be filled in are followed by a closing brace that is not doubled or by an opening one that
is never closed; and any error is that of the first fault from the left. -/
theorem render_follows_grammar (a : Arguments) :
    (∀ segments, Fillable a segments →
      render a (String.ofList (print segments)) = .ok (filled a segments)) ∧
    (∀ segments, ¬Fillable a segments → ∃ front segment after e,
      segments = front ++ segment :: after ∧ Fillable a front ∧ Offends a front segment e ∧
      render a (String.ofList (print segments)) = .error e) ∧
    (∀ template text, render a template = .ok text → ∃ segments,
      Fillable a segments ∧ template = String.ofList (print segments) ∧ text = filled a segments) ∧
    (∀ template brace, render a template = .error (.unbalancedBrace brace) ↔
      ∃ segments later, Fillable a segments ∧ template.toList = print segments ++ brace :: later ∧
        (brace = '}' ∧ later.head? ≠ some '}' ∨
          brace = '{' ∧ later.head? ≠ some '{' ∧ '}' ∉ later)) ∧
    ∀ template e, render a template = .error e ↔ FirstFault a template.toList e := by
  refine ⟨fun segments => render_print, fun segments unfillable => ?_, fun template text rendered => ?_,
    fun template brace => ?_, fun template e => render_eq_error_iff⟩
  · have written : (String.ofList (print segments)).toList = print segments ++ [] := by simp
    exact render_of_not_fillable unfillable written
  · rcases render_cases a template with ⟨segments, fillable, rfl⟩ | ⟨e, first⟩
    · rw [render_print fillable, Except.ok.injEq] at rendered
      exact ⟨segments, fillable, rfl, rendered.symm⟩
    · rw [render_eq_error_iff.mpr first] at rendered
      cases rendered
  · rw [render_eq_error_iff]
    constructor
    · intro first
      cases first with
      | offends fillable offends written => exact absurd offends not_unbalanced_of_offends
      | fault fillable fault written =>
          rcases fault_unbalanced_iff.mp fault with ⟨later, rfl, unbalanced⟩
          exact ⟨_, later, fillable, written, unbalanced⟩
    · rintro ⟨segments, later, fillable, written, unbalanced⟩
      exact .fault fillable (fault_unbalanced_iff.mpr ⟨later, rfl, unbalanced⟩) written

/-- Two groups and a value, to fill in. -/
def kickArguments : Arguments where
  groups := ["kick.wav", "kick"]
  named := Std.ExtTreeMap.ofList [("bpm", "120")]

def tempo : FieldName where
  text := "bpm"
  noNumber := ⟨'b', by decide, by decide⟩
  plain := by simp [isReserved]

def secondGroup : Digits where
  text := "01"
  nonempty := by decide
  decimal := List.all_eq_true.mp rfl

/-- Doubled braces around a field, and two fields that count. -/
def bracedTempo : List Segment :=
  [.literal "\x7b", .named tempo, .literal "\x7d ", .automatic, .literal "/", .automatic]

theorem bracedTempo_rendered :
    Fillable kickArguments bracedTempo ∧
    String.ofList (print bracedTempo) = "\x7b\x7b\x7bbpm\x7d\x7d\x7d \x7b\x7d/\x7b\x7d" ∧
    render kickArguments (String.ofList (print bracedTempo)) = .ok "\x7b120\x7d kick.wav/kick" ∧
    ¬Fillable kickArguments (bracedTempo ++ [.numbered secondGroup]) ∧
    render kickArguments (String.ofList (print (bracedTempo ++ [.numbered secondGroup]))) =
      .error .mixedNumbering ∧
    render kickArguments (String.ofList (print bracedTempo ++ "\x7dx".toList)) =
      .error (.unbalancedBrace '}') := by
  obtain ⟨rendered, -, -, unbalanced, failed⟩ := render_follows_grammar kickArguments
  have counted : Segment.automatic ∈ bracedTempo := by simp [bracedTempo]
  have fillable : Fillable kickArguments bracedTempo :=
    ⟨by simp [bracedTempo], by decide, by simp [bracedTempo]⟩
  have text : filled kickArguments bracedTempo = "\x7b120\x7d kick.wav/kick" := by decide +kernel
  refine ⟨fillable, by decide +kernel, text ▸ rendered _ fillable, ?_, ?_, ?_⟩
  · exact fun mixed => mixed.unmixed secondGroup (by simp) (List.mem_append_left _ counted)
  · have written : (String.ofList (print (bracedTempo ++ [.numbered secondGroup]))).toList =
        print (bracedTempo ++ [.numbered secondGroup]) ++ [] := by simp
    exact (failed _ _).mpr (.offends fillable (.mixedNumbered secondGroup counted) written)
  · rw [unbalanced]
    refine ⟨bracedTempo, ['x'], fillable, ?_, .inl ⟨rfl, by decide⟩⟩
    rw [String.toList_ofList]
    rfl

end SampleLibrary.Template
