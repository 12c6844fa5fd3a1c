import SampleLibrary.Text.Split

/-!
# Texts that are put together are cut alike
-/

namespace SampleLibrary.Text

theorem splitAtAll_ne_nil (p : Char → Bool) (cs : List Char) : splitAtAll p cs ≠ [] := by
  cases cs with
  | nil => simp [splitAtAll]
  | cons c cs =>
      unfold splitAtAll
      split
      · simp
      · split <;> simp

theorem splitAtAll_append_cons {p : Char → Bool} {c : Char} (isCut : p c = true)
    (front rest : List Char) :
    splitAtAll p (front ++ c :: rest) = splitAtAll p front ++ splitAtAll p rest := by
  induction front with
  | nil => simp [splitAtAll, isCut]
  | cons d front inductionHypothesis =>
      rw [List.cons_append, splitAtAll, inductionHypothesis, splitAtAll]
      by_cases cut : p d = true
      · simp [cut]
      · cases pieces : splitAtAll p front with
        | nil => exact absurd pieces (splitAtAll_ne_nil p front)
        | cons piece more => simp [cut]

theorem splitAtAll_of_forall {p : Char → Bool} {cs : List Char} (uncut : ∀ c ∈ cs, p c = false) :
    splitAtAll p cs = [cs] := by
  induction cs with
  | nil => rfl
  | cons c cs inductionHypothesis =>
      rw [splitAtAll,
        inductionHypothesis fun d membership => uncut d (List.mem_cons_of_mem _ membership)]
      simp [uncut c List.mem_cons_self]

theorem wordsBetween_append_cons {p : Char → Bool} {c : Char} (isCut : p c = true)
    (front rest : List Char) :
    wordsBetween p (front ++ c :: rest) = wordsBetween p front ++ wordsBetween p rest := by
  rw [wordsBetween, splitAtAll_append_cons isCut, List.filter_append]
  rfl

theorem wordsBetween_of_forall {p : Char → Bool} {cs : List Char} (nonempty : cs ≠ [])
    (uncut : ∀ c ∈ cs, p c = false) : wordsBetween p cs = [cs] := by
  rw [wordsBetween, splitAtAll_of_forall uncut]
  simp [nonempty]

/-- Every character separates pieces or stands in one of them. -/
theorem exists_piece_of_mem {p : Char → Bool} {c : Char} {cs : List Char} (membership : c ∈ cs) :
    p c = true ∨ ∃ piece ∈ splitAtAll p cs, c ∈ piece := by
  induction cs with
  | nil => exact absurd membership List.not_mem_nil
  | cons d cs inductionHypothesis =>
      unfold splitAtAll
      by_cases cut : p d = true
      · rcases List.mem_cons.mp membership with rfl | inRest
        · exact .inl cut
        · rcases inductionHypothesis inRest with separates | ⟨piece, isPiece, inPiece⟩
          · exact .inl separates
          · exact .inr ⟨piece, by simp [cut, isPiece], inPiece⟩
      · rw [if_neg cut]
        cases pieces : splitAtAll p cs with
        | nil => exact absurd pieces (splitAtAll_ne_nil p cs)
        | cons first more =>
            rw [pieces] at inductionHypothesis
            rcases List.mem_cons.mp membership with rfl | inRest
            · exact .inr ⟨c :: first, List.mem_cons_self, List.mem_cons_self⟩
            · rcases inductionHypothesis inRest with separates | ⟨piece, isPiece, inPiece⟩
              · exact .inl separates
              · rcases List.mem_cons.mp isPiece with rfl | later
                · exact .inr ⟨d :: piece, List.mem_cons_self, List.mem_cons_of_mem _ inPiece⟩
                · exact .inr ⟨piece, List.mem_cons_of_mem _ later, inPiece⟩

theorem splitAtAll_map {p : Char → Bool} {f : Char → Char} (kept : ∀ c, p (f c) = p c) (cs : List Char) :
    splitAtAll p (cs.map f) = (splitAtAll p cs).map (List.map f) := by
  induction cs with
  | nil => rfl
  | cons c cs inductionHypothesis =>
      rw [List.map_cons, splitAtAll, splitAtAll, kept, inductionHypothesis]
      by_cases cut : p c = true
      · simp [cut]
      · cases splitAtAll p cs with
        | nil => simp [cut]
        | cons piece pieces => simp [cut]

/-- No piece has a character at which texts are cut. -/
theorem not_of_mem_piece {p : Char → Bool} {cs piece : List Char} (isPiece : piece ∈ splitAtAll p cs) {c : Char}
    (inPiece : c ∈ piece) : p c = false := by
  induction cs generalizing piece with
  | nil =>
      rw [List.mem_singleton.mp isPiece] at inPiece
      exact absurd inPiece List.not_mem_nil
  | cons d cs inductionHypothesis =>
      unfold splitAtAll at isPiece
      split at isPiece
      · rcases List.mem_cons.mp isPiece with rfl | later
        · exact absurd inPiece List.not_mem_nil
        · exact inductionHypothesis later inPiece
      · rename_i uncut
        cases pieces : splitAtAll p cs with
        | nil => exact absurd pieces (splitAtAll_ne_nil p cs)
        | cons first more =>
            rw [pieces] at isPiece inductionHypothesis
            rcases List.mem_cons.mp isPiece with rfl | later
            · rcases List.mem_cons.mp inPiece with rfl | inFirst
              · exact Bool.eq_false_iff.mpr uncut
              · exact inductionHypothesis List.mem_cons_self inFirst
            · exact inductionHypothesis (List.mem_cons_of_mem _ later) inPiece

/-- Names without slashes that are joined by slashes are the pieces between these. -/
theorem splitAtAll_join {names : List String} (nonempty : names ≠ [])
    (uncut : ∀ name ∈ names, '/' ∉ name.toList) :
    splitAtAll (· == '/') (join "/" names).toList = names.map String.toList := by
  have alone {name : String} (noSlash : '/' ∉ name.toList) :
      splitAtAll (· == '/') name.toList = [name.toList] := by
    refine splitAtAll_of_forall fun c membership => beq_eq_false_iff_ne.mpr ?_
    rintro rfl
    exact noSlash membership
  induction names with
  | nil => exact absurd rfl nonempty
  | cons name names inductionHypothesis =>
      have first := alone (uncut name List.mem_cons_self)
      cases names with
      | nil => simpa [join] using first
      | cons next names =>
          have rest := inductionHypothesis (List.cons_ne_nil _ _) fun other membership =>
            uncut other (List.mem_cons_of_mem _ membership)
          have text : (join "/" (name :: next :: names)).toList =
              name.toList ++ '/' :: (join "/" (next :: names)).toList := by
            rw [join, String.intercalate_cons_cons]
            simp [join]
          rw [text, splitAtAll_append_cons (by decide), first, rest]
          rfl

theorem afterFront?_eq_some {front cs rest : List Char} :
    afterFront? front cs = some rest ↔ cs = front ++ rest := by
  induction front generalizing cs with
  | nil => simp [afterFront?, eq_comm]
  | cons c front inductionHypothesis =>
      cases cs with
      | nil => simp [afterFront?]
      | cons c' cs =>
          by_cases same : c = c'
          · simp [afterFront?, same, inductionHypothesis]
          · simp [afterFront?, same, Ne.symm same]

/-! ## Bytes -/

theorem byteLength_append (cs ds : List Char) :
    byteLength (cs ++ ds) = byteLength cs + byteLength ds := by
  induction cs with
  | nil => simp [byteLength]
  | cons c cs inductionHypothesis =>
      simp [byteLength, inductionHypothesis, Nat.add_assoc]

theorem dropBytes?_append (cs ds : List Char) : dropBytes? (byteLength cs) (cs ++ ds) = some ds := by
  induction cs with
  | nil => simp [byteLength, dropBytes?]
  | cons c cs inductionHypothesis =>
      have positive := c.utf8Size_pos
      rcases Nat.exists_eq_succ_of_ne_zero (Nat.ne_of_gt positive) with ⟨n, size⟩
      rw [byteLength, size, Nat.succ_add, List.cons_append, dropBytes?, if_pos (by omega)]
      rw [show n + byteLength cs + 1 - c.utf8Size = byteLength cs by omega]
      exact inductionHypothesis

theorem takeBytes?_append (cs ds : List Char) : takeBytes? (byteLength cs) (cs ++ ds) = some cs := by
  induction cs with
  | nil => simp [byteLength, takeBytes?]
  | cons c cs inductionHypothesis =>
      have positive := c.utf8Size_pos
      rcases Nat.exists_eq_succ_of_ne_zero (Nat.ne_of_gt positive) with ⟨n, size⟩
      rw [byteLength, size, Nat.succ_add, List.cons_append, takeBytes?, if_pos (by omega)]
      rw [show n + byteLength cs + 1 - c.utf8Size = byteLength cs by omega, inductionHypothesis]
      rfl

/-- A text is cut in one way only in front of a byte. -/
theorem append_inj_of_byteLength {front rest front' rest' : List Char}
    (same : front ++ rest = front' ++ rest') (bytes : byteLength front = byteLength front') :
    front = front' ∧ rest = rest' := by
  have first := takeBytes?_append front rest
  have second := dropBytes?_append front rest
  rw [same, bytes, takeBytes?_append] at first
  rw [same, bytes, dropBytes?_append] at second
  exact ⟨(Option.some.inj first).symm, (Option.some.inj second).symm⟩

/-- Of two parts at the start of a text, the one with no more bytes is at the start of the other one. -/
theorem prefix_of_byteLength_le {part rest part' rest' : List Char}
    (same : part ++ rest = part' ++ rest') (bytes : byteLength part ≤ byteLength part') :
    part <+: part' := by
  rcases List.append_eq_append_iff.mp same with ⟨more, rfl, -⟩ | ⟨more, rfl, -⟩
  · exact List.prefix_append part more
  · rw [byteLength_append] at bytes
    cases more with
    | nil => simp
    | cons c more =>
        rw [byteLength] at bytes
        have positive := c.utf8Size_pos
        omega

theorem exists_of_dropBytes? {n : Nat} {cs rest : List Char} (dropped : dropBytes? n cs = some rest) :
    ∃ front, cs = front ++ rest ∧ byteLength front = n := by
  fun_induction dropBytes? n cs with
  | case1 cs => exact ⟨[], by simpa using dropped, rfl⟩
  | case2 n => cases dropped
  | case3 n c cs fits inductionHypothesis =>
      rcases inductionHypothesis dropped with ⟨front, rfl, size⟩
      exact ⟨c :: front, rfl, by rw [byteLength, size]; omega⟩
  | case4 n c cs fits => cases dropped

theorem exists_of_takeBytes? {n : Nat} {cs front : List Char} (taken : takeBytes? n cs = some front) :
    ∃ rest, cs = front ++ rest ∧ byteLength front = n := by
  fun_induction takeBytes? n cs generalizing front with
  | case1 cs =>
      cases taken
      exact ⟨cs, rfl, rfl⟩
  | case2 n => cases taken
  | case3 n c cs fits inductionHypothesis =>
      rcases Option.map_eq_some_iff.mp taken with ⟨front', taken', rfl⟩
      rcases inductionHypothesis taken' with ⟨rest, rfl, size⟩
      exact ⟨rest, rfl, by rw [byteLength, size]; omega⟩
  | case4 n c cs fits => cases taken

/-- What is between two bytes is a part of the text. -/
theorem exists_of_slice? {cs part : List Char} {start stop : Nat}
    (cut : slice? cs start stop = some part) :
    ∃ front rest, cs = front ++ (part ++ rest) ∧ byteLength front = start ∧
      byteLength (front ++ part) = stop := by
  unfold slice? at cut
  split at cut
  · rcases Option.bind_eq_some_iff.mp cut with ⟨behind, dropped, taken⟩
    rcases exists_of_dropBytes? dropped with ⟨front, rfl, start_eq⟩
    rcases exists_of_takeBytes? taken with ⟨rest, rfl, size⟩
    exact ⟨front, rest, rfl, start_eq, by rw [byteLength_append]; omega⟩
  · cases cut

/-- The bytes of a part of a text are the part. -/
theorem slice?_append (front part rest : List Char) :
    slice? (front ++ (part ++ rest)) (byteLength front) (byteLength front + byteLength part) =
      some part := by
  rw [slice?, if_pos (Nat.le_add_right _ _), dropBytes?_append, Nat.add_sub_cancel_left]
  exact takeBytes?_append part rest

end SampleLibrary.Text
