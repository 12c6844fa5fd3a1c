import SampleLibrary.Proofs.Text.Lowercase
import SampleLibrary.Proofs.Verifier.Repair
import SampleLibrary.Proofs.Verifier.Telling

/-!
# Files with wrong content

The second stage comes to the file of an item if it lies in the directory for its checksum and has nothing but
word characters in its extension (`Visible`). If such a file has other content than it should have, this comes
up, unless the item has gone before together with another file (`Verified.corrupted`). Nothing
comes up for a file that is not visible (`verify_blind`).
-/

namespace SampleLibrary.Verifier

/-- The second stage comes to the file of an item. -/
structure Visible (lib : Library) (fs : Files) (i : Item) : Prop where
  word : ∀ c ∈ (Blob.extension (i.text? .format)).toList.tail, Text.isWord c = true
  laid : ∃ place md5 id, fs.stat lib.base true = .ok (place, .directory) ∧ i.cell .md5 = .text md5 ∧
    fs.nodes[place ++ [firstPart md5]]? = some .directory ∧
    fs.nodes[place ++ [firstPart md5, secondPart md5]]? = some .directory ∧
    fs.nodes[place ++ [firstPart md5, secondPart md5, Blob.fileName md5 (i.text? .format)]]? =
      some (.file id)

/-- The item has been deleted in a run, together with a file for its checksum that is checked before its own
one. -/
structure DeletedBefore (lib : Library) (w' : World) (events : List Event) (i : Item) : Prop where
  gone : ∀ t, lib.tables w'.files = .ok t → t.hasItem i.id = false
  agreed : ∃ md5 extension p a, i.cell .md5 = .text md5 ∧
    blobName md5 extension < Blob.fileName md5 (i.text? .format) ∧
    (p, a) ∈ questions events ∧ a.isYes = true ∧ p.IsInvalid i.id (blobPath lib md5 extension)

/-! ## Paths -/

section Paths

variable {lib : Library} {fs : Files} {place : Location} {i : Item} {md5 extension : String}

theorem exists_extension (format : Option String) :
    ∃ extension, Blob.extension format = "." ++ extension ∧ extension.toList ≠ [] := by
  unfold Blob.extension
  split
  · rename_i f
    split
    · exact ⟨"bin", rfl, by decide⟩
    · rename_i nonempty
      refine ⟨Text.lowercase f, rfl, ?_⟩
      unfold Text.lowercase
      rw [String.toList_ofList]
      cases cs : f.toList with
      | nil => simp [← String.toList_inj, cs] at nonempty
      | cons c rest =>
          rw [Text.lowerFrom_cons]
          exact List.append_ne_nil_of_left_ne_nil (Text.lowerAt_ne_nil _ _ _) _
  · exact ⟨"bin", rfl, by decide⟩

/-- The path of a directory, with the slash that names in it follow. -/
def slashed (base : String) : String :=
  if base == "" || base.toList.getLast? == some '/' then base else base ++ "/"

theorem below_eq_slashed (base : String) {name : String} (relative : Path.isAbsolute name = false) :
    Path.below base name = slashed base ++ name := by
  unfold Path.below slashed
  rw [if_neg (by simp [relative])]
  split <;> rfl

theorem slashed_append (base : String) {name : String} (isName : IsName name) :
    slashed (base ++ name) = base ++ name ++ "/" := by
  unfold slashed
  rw [if_neg]
  have nonempty : name.toList ≠ [] := by simpa using isName.nonempty
  intro ends
  rw [Bool.or_eq_true, beq_iff_eq, beq_iff_eq] at ends
  rcases ends with empty | slash
  · simp [isName.nonempty] at empty
  · rw [String.toList_append, List.getLast?_append_of_ne_nil _ nonempty] at slash
    exact isName.noSlash (List.mem_of_getLast? slash)

theorem isAbsolute_of_isHexName {length : Nat} {rest name : String} (positive : 0 < length)
    (digits : isHexName length name = true) : Path.isAbsolute (name ++ rest) = false := by
  rcases isHexName_iff.mp digits with ⟨size, digit⟩
  cases cs : name.toList with
  | nil =>
      rw [cs, List.length_nil] at size
      omega
  | cons c more =>
      have notSlash := ne_slash_of_isLowerHex (digit c (cs ▸ List.mem_cons_self))
      simp [Path.isAbsolute, cs, notSlash]

theorem blobPath_eq (digits : isHexName 32 md5 = true) :
    (blobPath lib md5 extension).toList = (slashed lib.base).toList ++
      ((firstPart md5).toList ++ '/' :: (secondPart md5).toList ++ '/' :: md5.toList ++ '.' ::
        extension.toList) := by
  have first := isName_firstPart digits
  have second := isName_secondPart digits
  have relative : Path.isAbsolute (blobName md5 extension) = false := by
    rw [blobName, String.append_assoc]
    exact isAbsolute_of_isHexName (by decide) digits
  rw [blobPath, below_eq_slashed _ relative, below_eq_slashed _ (Files.isAbsolute_of_isName second),
    below_eq_slashed _ (Files.isAbsolute_of_isName first), slashed_append _ first, slashed_append _ second]
  simp [toList_blobName]

/-- Files for different checksums or with different extensions have different paths. -/
theorem blobPath_injective {md5' extension' : String} (digits : isHexName 32 md5 = true)
    (digits' : isHexName 32 md5' = true)
    (same : blobPath lib md5 extension = blobPath lib md5' extension') :
    md5 = md5' ∧ extension = extension' := by
  have size (md5 : String) (digits : isHexName 32 md5 = true) :
      ((firstPart md5).toList ++ '/' :: (secondPart md5).toList ++ '/' :: md5.toList).length = 37 := by
    simp [(isHexName_iff.mp digits).1, (isHexName_iff.mp (isHexName_parts digits).1).1,
      (isHexName_iff.mp (isHexName_parts digits).2).1]
  have chars := congrArg String.toList same
  rw [blobPath_eq digits, blobPath_eq digits', List.append_cancel_left_eq] at chars
  rcases List.append_inj chars ((size md5 digits).trans (size md5' digits').symm) with ⟨names, rests⟩
  have sizes : md5.toList.length = md5'.toList.length :=
    (isHexName_iff.mp digits).1.trans (isHexName_iff.mp digits').1.symm
  have sums := List.append_inj_right' names (congrArg Nat.succ sizes)
  exact ⟨String.toList_inj.mp (List.cons.inj sums).2, String.toList_inj.mp (List.cons.inj rests).2⟩

theorem fileName_eq_blobName (md5 : String)
    (named : Blob.extension (i.text? .format) = "." ++ extension) :
    Blob.fileName md5 (i.text? .format) = blobName md5 extension := by
  rw [Blob.fileName, named, blobName, String.append_assoc]

/-- The second stage comes to the file of an item if there is one with its checksum and extension. -/
theorem visible_iff (leads : fs.stat lib.base true = .ok (place, .directory))
    (checksum : i.cell .md5 = .text md5) (digits : isHexName 32 md5 = true)
    (named : Blob.extension (i.text? .format) = "." ++ extension) (nonempty : extension.toList ≠ []) :
    Visible lib fs i ↔ ∃ id, BlobFile fs place md5 extension id := by
  have fileName := fileName_eq_blobName md5 named
  have tail : (Blob.extension (i.text? .format)).toList.tail = extension.toList := by
    simp [named]
  constructor
  · rintro ⟨word, place', md5', id, leads', checksum', first, second, file⟩
    rw [leads] at leads'
    rw [checksum] at checksum'
    cases leads'
    cases checksum'
    rw [fileName] at file
    exact ⟨id, ⟨digits, nonempty, tail ▸ word⟩, first, second, file⟩
  · rintro ⟨id, naming, first, second, file⟩
    rw [blobAt, ← fileName] at file
    exact ⟨tail ▸ naming.word, place, md5, id, leads, checksum, first, second, file⟩

end Paths

/-! ## What comes up -/

section Runs

variable {lib : Library} {observer : Observer} {t : Tables} {w w' : World} {report : Report}
  {events : List Event} {place location : Location} {r r' r₁ r₂ r₃ : Run} {v : Visit} {i : Item}
  {md5 extension : String} {id : Nat}

/-- The item has gone together with one of the files that have been visited. -/
structure Lost (lib : Library) (before : List Visit) (i : Item) (md5 : String) (r : Run) :
    Prop where
  gone : r.tables.hasItem i.id = false
  agreed : ∃ extension p a, .file md5 extension ∈ before ∧ (p, a) ∈ questions r.history ∧
    a.isYes = true ∧ p.IsInvalid i.id (blobPath lib md5 extension)

/-- An item that goes at a visit goes together with a file for its checksum, and somebody has agreed. -/
theorem Visit.step_row (done : v.step lib observer r = .ok r') (keyed : r.tables.Keyed)
    (row : i ∈ r.tables.libraryItems) (checksum : i.cell .md5 = .text md5) :
    i ∈ r'.tables.libraryItems ∨ Lost lib [v] i md5 r' := by
  rcases (Visit.step_taken done).effect with ⟨same, -⟩ | ⟨p, gone, found, cleared⟩
  · exact .inl (same ▸ row)
  · rcases Tables.mem_libraryItems.mp row with ⟨isRow, inLibrary⟩
    have left (spared : i.id ∉ gone) : i ∈ r'.tables.libraryItems := by
      rw [cleared.tables, Tables.mem_libraryItems, Tables.mem_deleteItems_items]
      exact ⟨⟨isRow, spared⟩, inLibrary⟩
    cases v with
    | progress | listing => cases found
    | stale name =>
        cases found
        exact .inl (left List.not_mem_nil)
    | file md5' extension =>
        rcases gone_of_finding? found with rfl | ⟨j, isItem, rfl, problem⟩
        · exact .inl (left List.not_mem_nil)
        · by_cases same : i.id = j.id
          · rcases libraryItem?_eq_some isItem with ⟨other, otherChecksum⟩
            obtain rfl := keyed.item_eq isRow (Tables.mem_libraryItems.mp other).1 same
            obtain rfl : md5 = md5' := by simpa [checksum] using otherChecksum
            have asks := Visit.step_questions done
            unfold Visit.Asks at asks
            rw [found] at asks
            rcases asks with ⟨a, questions, refused⟩
            cases answer : a.isYes with
            | false => exact .inl (refused answer ▸ row)
            | true =>
                refine .inr ⟨?_, extension, p, a, List.mem_singleton_self _,
                  questions ▸ List.mem_cons_self, answer, isInvalid_of_contentProblem? problem⟩
                rw [← Bool.not_eq_true, Tables.hasItem_iff, cleared.tables]
                rintro ⟨j, membership, sameId⟩
                exact (Tables.mem_deleteItems_items.mp membership).2
                  (sameId ▸ List.mem_singleton_self _)
          · exact .inl (left fun membership => same (List.mem_singleton.mp membership))

theorem Lost.step {before : List Visit} (lost : Lost lib before i md5 r)
    (passed : Passed observer r r') : Lost lib before i md5 r' := by
  rcases lost.agreed with ⟨extension, p, a, visited, asked, answer, invalid⟩
  refine ⟨?_, extension, p, a, visited, questions_of_suffix passed.later.said asked, answer, invalid⟩
  have gone := lost.gone
  rw [← Bool.not_eq_true, Tables.hasItem_iff] at gone ⊢
  rintro ⟨j, membership, same⟩
  exact gone ⟨j, passed.tables.items.subset membership, same⟩

/-- An item is there until it goes together with a file. -/
theorem row_or_lost {before : List Visit} (keyed : r.tables.Keyed) (row : i ∈ r.tables.libraryItems)
    (checksum : i.cell .md5 = .text md5) (done : runVisits lib observer before r = .ok r') :
    i ∈ r'.tables.libraryItems ∨ Lost lib before i md5 r' := by
  refine runVisits_steps (fun r => i ∈ r.tables.libraryItems ∨ Lost lib before i md5 r) (.inl row)
    (fun v membership q q' passed step soFar => ?_) done
  rcases soFar with here | lost
  · rcases Visit.step_row step (passed.tables.keyed keyed) here checksum with stays | ⟨gone, agreed⟩
    · exact .inl stays
    · rcases agreed with ⟨extension, p, a, visited, asked⟩
      rw [List.mem_singleton] at visited
      exact .inr ⟨gone, extension, p, a, visited ▸ membership, asked⟩
  · exact .inr (lost.step (Visit.step_taken step).passed)

/-- If a file has other content than it should have, this comes up at the visit to it, if its item is
there. -/
theorem asked_of_misleading (keyed : r.tables.Keyed) (row : i ∈ r.tables.libraryItems)
    (checksum : i.cell .md5 = .text md5) {fs₀ : Files}
    (leads : fs₀.stat lib.base true = .ok (place, .directory)) (within : r.files.Within fs₀)
    (sameData : r.files.data = fs₀.data) (misleading : Misleading lib fs₀ place md5 extension)
    (done : (Visit.file md5 extension).step lib observer r = .ok r') :
    ∃ p a, (p, a) ∈ questions r'.history ∧ p.IsInvalid i.id (blobPath lib md5 extension) := by
  have present := keyed.libraryItem?_of_mem row checksum
  rcases finding?_of_misleading leads within sameData misleading present with ⟨p, found⟩
  have asks := Visit.step_questions done
  unfold Visit.Asks at asks
  rw [found] at asks
  rcases asks with ⟨a, questions, -⟩
  refine ⟨p, a, questions ▸ List.mem_cons_self, ?_⟩
  rcases gone_of_finding? found with none | ⟨j, -, same, problem⟩
  · cases none
  · rw [(List.cons.inj same).1]
    exact isInvalid_of_contentProblem? problem

/-- A visible file with other content than it should have comes up, unless the item has gone before. -/
theorem Verified.corrupted (course : Verified lib observer t w w' report events place r₁ r₂ r₃)
    (keyed : t.Keyed) (row : i ∈ t.libraryItems) (checksum : i.cell .md5 = .text md5)
    (named : Blob.extension (i.text? .format) = "." ++ extension)
    (blob : BlobFile w.files place md5 extension id)
    (there : w.files.stat (blobPath lib md5 extension) true = .ok (location, .file id))
    (wrong : Md5.checksum (w.files.dataOf id).content.toBytes ≠ md5) :
    (∃ p a, (p, a) ∈ questions events ∧ p.IsInvalid i.id (blobPath lib md5 extension)) ∨
      DeletedBefore lib w' events i := by
  have exists' : w.files.exists? (itemPath lib i) = true := by
    rw [itemPath_eq_blobPath checksum named]
    exact Files.exists?_of_stat there
  have misleading : Misleading lib w.files place md5 extension :=
    ⟨id, ⟨blob, _, stat_blobPath_false course.leads blob there⟩, wrong⟩
  have startRow : i ∈ (r₁.nextStage "Checking files").tables.libraryItems :=
    course.checked.kept keyed i row exists'
  have startKeyed := course.beforeVisits.tables.keyed keyed
  have told {r : Run} (later : Later observer r r₃) {q : Problem × Answer}
      (asked : q ∈ questions r.history) : q ∈ questions events := by
    rw [← course.events, questions_reverse, List.mem_reverse]
    exact questions_of_suffix later.said asked
  have visited : Visit.file md5 extension ∈ Verifier.visits lib w.files place w.process :=
    file_mem_visits.mpr ⟨id, blob⟩
  rcases List.eq_append_cons_of_mem visited with ⟨before, after, all, -⟩
  have visits := course.visits
  rw [all] at visits
  rcases stepped visits with ⟨r, r', toHere, step, fromHere⟩
  have soFar := course.beforeVisits.trans (passed_runVisits toHere)
  have rest := (passed_runVisits fromHere).later.trans course.afterVisits
  rcases row_or_lost startKeyed startRow checksum toHere with here | lost
  · rcases asked_of_misleading (soFar.tables.keyed keyed) here checksum course.leads soFar.later.files
      soFar.later.data misleading step with ⟨p, a, asked, invalid⟩
    exact .inl ⟨p, a, told rest asked, invalid⟩
  · right
    have passed := (Visit.step_taken step).passed.trans (passed_runVisits fromHere)
    have lost' := lost.step passed
    rcases lost'.agreed with ⟨extension', p, a, isBefore, asked, answer, invalid⟩
    have less : blobName md5 extension' < Blob.fileName md5 (i.text? .format) :=
      fileName_eq_blobName md5 named ▸ ((mem_before_iff all).mp isBefore).2
    refine ⟨fun t' isOpen => ?_, md5, extension', p, a, checksum, less,
      told course.afterVisits asked, answer, invalid⟩
    rw [course.tables] at isOpen
    cases isOpen
    have gone := lost'.gone
    unfold Tables.hasItem at gone ⊢
    rw [course.items]
    exact gone

/-- Wrong content is found at the path of the file that is visited. -/
theorem path_of_finding? {fs : Files} {p : Problem} {gone : List Int} {item : Int} {path : String}
    (found : (Visit.file md5 extension).finding? lib t fs = some (p, gone))
    (invalid : p.IsInvalid item path) : path = blobPath lib md5 extension := by
  obtain ⟨repair, finds⟩ := Visit.finds_of_finding? found
  cases finds with
  | unknown | misnamed => cases invalid
  | invalid present problem =>
      have here := isInvalid_of_contentProblem? problem
      cases invalid <;> cases here <;> rfl

/-- Nothing comes up for the path of a file that the second stage does not come to. -/
theorem verify_blind (isOpen : lib.tables w.files = .ok t)
    (done : (verify lib observer w).1.outcome = .ok report)
    (leads : w.files.stat lib.base true = .ok (place, .directory))
    (digits : isHexName 32 md5 = true) (blind : ¬∃ id, BlobFile w.files place md5 extension id) :
    ∀ q ∈ questions (verify lib observer w).1.events, ∀ item,
      ¬q.1.IsInvalid item (blobPath lib md5 extension) := by
  have others (p : Problem) (other : p.kind ∉ removalKinds) (item : Int) :
      ¬p.IsInvalid item (blobPath lib md5 extension) := by
    intro invalid
    exact other (by simp [invalid.kind, removalKinds])
  have each : ∀ v ∈ visits lib w.files place w.process, ∀ t fs p gone,
      v.finding? lib t fs = some (p, gone) → ∀ item,
        ¬p.IsInvalid item (blobPath lib md5 extension) := by
    intro v membership t fs p gone found item invalid
    cases v with
    | progress | listing => cases found
    | stale name =>
        cases found
        cases invalid
    | file md5' extension' =>
        rcases file_mem_visits.mp membership with ⟨id, blob⟩
        rcases blobPath_injective digits blob.naming.digits (path_of_finding? found invalid) with
          ⟨rfl, rfl⟩
        exact blind ⟨id, blob⟩
  have all := verify_asked isOpen leads others each done
  exact all

end Runs

end SampleLibrary.Verifier
