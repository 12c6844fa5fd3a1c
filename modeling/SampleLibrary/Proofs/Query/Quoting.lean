import SampleLibrary.Proofs.Splitting
import SampleLibrary.Query.Words
import Mathlib.Data.List.Basic

/-!
# Quoted words are read as they were

A query is read character by character. Here reading is described by what a piece of it stands for
(`Spells`): plain text for itself, a quoted text for what is between the quotes, and pieces in a row for
what they stand for in a row. From this, a query that is put together from words with a space between
them is cut into the same words again (`splitLenient_join`).
-/

namespace SampleLibrary.Query

/-- The word with more text at its end. -/
def OpenWord.extend (w : OpenWord) (cs : List Char) : OpenWord :=
  { w with chars := cs.reverse ++ w.chars }

@[simp] theorem OpenWord.extend_nil (w : OpenWord) : w.extend [] = w := rfl

@[simp] theorem OpenWord.extend_extend (w : OpenWord) (cs ds : List Char) :
    (w.extend cs).extend ds = w.extend (cs ++ ds) := by
  simp [extend]

theorem OpenWord.extend_cons (w : OpenWord) (c : Char) (cs : List Char) :
    w.extend (c :: cs) = (w.push c).extend cs := by
  simp [extend, push]

/-- In a word, `written` stands for `word`, whatever comes before it and behind it. -/
def Spells (written word : List Char) : Prop :=
  ∀ (w : OpenWord) (pos : Nat) (rest : List Char),
    scanFrom (.bare (some w)) pos (written ++ rest) =
      scanFrom (.bare (some (w.extend word))) (pos + Text.byteLength written) rest

theorem Spells.nil : Spells [] [] := by
  intro w pos rest
  rfl

theorem Spells.append {written word written' word' : List Char} (first : Spells written word)
    (second : Spells written' word') : Spells (written ++ written') (word ++ word') := by
  intro w pos rest
  rw [List.append_assoc, first, second, OpenWord.extend_extend, Text.byteLength_append, Nat.add_assoc]

theorem Spells.plain {cs : List Char}
    (plain : ∀ c ∈ cs, isSeparator c = false ∧ isQuoting c = false) : Spells cs cs := by
  induction cs with
  | nil => exact .nil
  | cons c cs inductionHypothesis =>
      intro w pos rest
      rcases plain c List.mem_cons_self with ⟨separator, quoting⟩
      simp only [isQuoting, Bool.or_eq_false_iff] at quoting
      rw [List.cons_append, scanFrom]
      simp only [separator, quoting.1.1, quoting.1.2, quoting.2, Bool.false_eq_true, if_false,
        Option.getD_some]
      rw [inductionHypothesis (fun d membership => plain d (List.mem_cons_of_mem _ membership)),
        OpenWord.extend_cons, Text.byteLength, Nat.add_assoc]

theorem Spells.plainly {cs : List Char}
    (plain : (cs.all fun c => !isSeparator c && !isQuoting c) = true) : Spells cs cs :=
  .plain fun c membership => by simpa using List.all_eq_true.mp plain c membership

/-- Between double quotes, escaped characters are read as they were. -/
theorem scanFrom_double (w : OpenWord) (pos : Nat) (cs rest : List Char) :
    scanFrom (.double w) pos (cs.flatMap quotedChar ++ rest) =
      scanFrom (.double (w.extend cs)) (pos + Text.byteLength (cs.flatMap quotedChar)) rest := by
  induction cs generalizing w pos with
  | nil => rfl
  | cons c cs inductionHypothesis =>
      rw [List.flatMap_cons, Text.byteLength_append, List.append_assoc]
      by_cases escaped : (c == '"' || c == '\\') = true
      · have written : quotedChar c = ['\\', c] := if_pos escaped
        rw [written, List.cons_append, scanFrom.eq_def]
        have notQuote : ('\\' == '"') = false := by decide
        simp only [notQuote, Bool.false_eq_true, if_false, BEq.rfl, if_true, List.cons_append,
          List.nil_append, escaped]
        rw [inductionHypothesis, OpenWord.extend_cons]
        simp only [Text.byteLength]
        congr 1
        omega
      · have written : quotedChar c = [c] := if_neg escaped
        rw [Bool.not_eq_true, Bool.or_eq_false_iff] at escaped
        rw [written, List.cons_append, scanFrom.eq_def]
        simp only [escaped.1, escaped.2, Bool.false_eq_true, if_false, List.nil_append]
        rw [inductionHypothesis, OpenWord.extend_cons]
        simp only [Text.byteLength]
        congr 1
        omega

/-- A text, quoted if need be, stands for itself. -/
theorem spells_quote (part : String) : Spells (quote part).toList part.toList := by
  unfold quote
  dsimp only
  split
  · rw [String.toList_ofList]
    intro w pos rest
    rw [List.cons_append, List.cons_append, scanFrom]
    have notSeparator : isSeparator '"' = false := by decide
    have notSingle : ('"' == '\'') = false := by decide
    simp only [notSeparator, notSingle, Bool.false_eq_true, if_false, BEq.rfl, if_true,
      Option.getD_some]
    rw [List.append_assoc, scanFrom_double, List.cons_append, scanFrom.eq_def (.double _)]
    simp only [BEq.rfl, if_true, List.nil_append, Text.byteLength, Text.byteLength_append]
    congr 1
    omega
  · rename_i unquoted
    apply Spells.plain
    intro c membership
    rw [Bool.not_eq_true, Bool.or_eq_false_iff] at unquoted
    have plain := List.any_eq_false.mp unquoted.2 c membership
    simpa using plain

/-- `written` is one word of a query, and it stands for `word`. -/
structure WritesWord (written word : List Char) : Prop where
  spells : Spells written word
  starts : ∃ c, written.head? = some c ∧ isSeparator c = false

theorem WritesWord.append {written word written' word' : List Char} (first : WritesWord written word)
    (second : Spells written' word') : WritesWord (written ++ written') (word ++ word') := by
  rcases first.starts with ⟨c, head, notSeparator⟩
  exact ⟨first.spells.append second, c, by simp [List.head?_append, head], notSeparator⟩

theorem writesWord_quote (part : String) : WritesWord (quote part).toList part.toList := by
  refine ⟨spells_quote part, ?_⟩
  unfold quote
  dsimp only
  split
  · exact ⟨'"', by simp, by decide⟩
  · rename_i unquoted
    rw [Bool.not_eq_true, Bool.or_eq_false_iff] at unquoted
    cases cs : part.toList with
    | nil => simp [cs] at unquoted
    | cons c rest =>
        have plain := List.any_eq_false.mp unquoted.2 c (by simp [cs])
        exact ⟨c, rfl, by simpa using (by simpa using plain : _ ∧ _).1⟩

/-- A word begins where there was none before. -/
theorem WritesWord.scanFrom {written word : List Char} (writes : WritesWord written word) (pos : Nat)
    (rest : List Char) :
    scanFrom (.bare none) pos (written ++ rest) =
      scanFrom (.bare (some ⟨pos, word.reverse⟩)) (pos + Text.byteLength written) rest := by
  rcases writes.starts with ⟨c, head, notSeparator⟩
  have begun : Query.scanFrom (.bare none) pos (written ++ rest) =
      Query.scanFrom (.bare (some ⟨pos, []⟩)) pos (written ++ rest) := by
    cases written with
    | nil => cases head
    | cons d written =>
        cases head
        rw [List.cons_append, Query.scanFrom, Query.scanFrom]
        simp only [notSeparator, Bool.false_eq_true, if_false, Option.getD_none, Option.getD_some]
  rw [begun, writes.spells]
  simp [OpenWord.extend]

section

variable {α : Type} {written word : α → String}

/-- Words with a space between them are read one by one. -/
theorem scanFrom_join {as : List α}
    (writes : ∀ a ∈ as, WritesWord (written a).toList (word a).toList) (pos : Nat) :
    ∃ words, scanFrom (.bare none) pos (Text.join " " (as.map written)).toList = ⟨words, none⟩ ∧
      words.map (·.value) = as.map word := by
  induction as generalizing pos with
  | nil => exact ⟨[], rfl, rfl⟩
  | cons a as inductionHypothesis =>
      have first := writes a List.mem_cons_self
      have others := inductionHypothesis fun b membership => writes b (List.mem_cons_of_mem _ membership)
      cases as with
      | nil =>
          refine ⟨[⟨word a, pos⟩], ?_, rfl⟩
          have alone := first.scanFrom pos []
          rw [List.append_nil] at alone
          rw [List.map_singleton, Text.join, String.intercalate_singleton, alone]
          simp [Query.scanFrom, Scan.cons, OpenWord.toWord]
      | cons b as =>
          rcases others (pos + Text.byteLength (written a).toList + ' '.utf8Size) with
            ⟨words, scanned, values⟩
          have joined : (Text.join " " ((a :: b :: as).map written)).toList =
              (written a).toList ++ ' ' :: (Text.join " " ((b :: as).map written)).toList := by
            rw [List.map_cons, List.map_cons, Text.join, String.intercalate_cons_cons]
            simp [Text.join]
          have separator : isSeparator ' ' = true := by decide
          refine ⟨⟨word a, pos⟩ :: words, ?_, by simp [values]⟩
          rw [joined, first.scanFrom, Query.scanFrom]
          simp only [separator, if_true, scanned]
          simp [Scan.cons, OpenWord.toWord]

theorem split_join {as : List α}
    (writes : ∀ a ∈ as, WritesWord (written a).toList (word a).toList) :
    split (Text.join " " (as.map written)) = .ok (as.map word) := by
  rcases scanFrom_join writes 0 with ⟨words, scanned, values⟩
  simp [split, scan, scanned, values]

theorem splitLenient_join {as : List α}
    (writes : ∀ a ∈ as, WritesWord (written a).toList (word a).toList) :
    splitLenient (Text.join " " (as.map written)) = as.map word := by
  rw [splitLenient, split_join writes]

end

end SampleLibrary.Query
