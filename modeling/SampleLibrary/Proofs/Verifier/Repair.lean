import SampleLibrary.Proofs.Verifier.Judging

/-!
# What a full repair leaves

If all is agreed to and no removal fails, it can be told beforehand what a verification leaves: files
that are right at their visit, and items that have their files and are not taken along by a misleading
one (`Repaired.files`, `Repaired.mem_libraryItems_iff`).
-/

namespace SampleLibrary.Verifier

/-- A file is the one of an item, by its checksum, its content and its extension. -/
structure Own (lib : Library) (t : Tables) (fs : Files) (place : Location) (md5 extension : String)
    (i : Item) : Prop where
  row : i ∈ t.libraryItems
  checksum : i.cell .md5 = .text md5
  named : Blob.extension (i.text? .format) = "." ++ extension
  content : ∃ id, Reached lib fs place md5 extension id ∧
    Md5.checksum (fs.dataOf id).content.toBytes = md5

/-- A file is right when it is visited: no misleading file has come first. -/
structure Right (lib : Library) (t : Tables) (fs : Files) (place : Location)
    (md5 extension : String) : Prop where
  own : ∃ i, Own lib t fs place md5 extension i
  first : ∀ extension', Misleading lib fs place md5 extension' →
    ¬blobName md5 extension' < blobName md5 extension

/-- What a full repair takes away. -/
inductive Doomed (lib : Library) (t : Tables) (fs : Files) (place : Location) (process : Nat) :
    Location → Prop where
  | file {md5 extension : String} {id : Nat} : BlobFile fs place md5 extension id →
      ¬Right lib t fs place md5 extension →
      Doomed lib t fs place process (blobAt place md5 extension)
  | stale {name : String} {location : Location} : StaleDirectory fs place process name →
      place ++ [name] <+: location → Doomed lib t fs place process location

/-- An item stays in a full repair. -/
structure Kept (lib : Library) (t : Tables) (fs : Files) (place : Location) (i : Item) : Prop where
  row : i ∈ t.libraryItems
  there : fs.exists? (itemPath lib i) = true
  trusted : ∀ md5 extension, i.cell .md5 = .text md5 → ¬Misleading lib fs place md5 extension

/-- A verification in which all is agreed to and no removal fails, and after which the library is still
found. -/
structure Repaired (lib : Library) (observer : Observer) (t : Tables) (w w' : World)
    (report : Report) (events : List Event) (place : Location) (r₁ r₂ r₃ : Run) : Prop extends
    Verified lib observer t w w' report events place r₁ r₂ r₃ where
  keyed : t.Keyed
  agrees : ∀ history p, (observer history p).isYes = true
  succeeded : failures r₃ = 0
  stays : ∃ found, w'.files.stat lib.base true = .ok found

variable {lib : Library} {observer : Observer} {t : Tables} {w w' : World} {report : Report}
  {events : List Event} {place location : Location} {r₁ r₂ r₃ r r' : Run} {v : Visit}
  {md5 extension : String} {id : Nat} {i : Item}

theorem itemPath_eq_blobPath (checksum : i.cell .md5 = .text md5)
    (named : Blob.extension (i.text? .format) = "." ++ extension) :
    itemPath lib i = blobPath lib md5 extension := by
  have text : i.text? .md5 = some md5 := by simp [Item.text?, checksum, Cell.asText?]
  simp [itemPath, Blob.path, blobPath, Blob.fileName, blobName, text, named, String.append_assoc]

theorem Own.exists? (own : Own lib t w.files place md5 extension i)
    (leads : w.files.stat lib.base true = .ok (place, .directory)) :
    w.files.exists? (itemPath lib i) = true := by
  obtain ⟨id, ⟨blob, ⟨location, node⟩, opens⟩, -⟩ := own.content
  obtain ⟨rfl, rfl⟩ := stat_blobPath leads blob opens
  rw [itemPath_eq_blobPath own.checksum own.named]
  exact Files.exists?_of_stat (Files.stat_true_of_false opens (by simp))

namespace Repaired

/-- The library is found where it was. -/
theorem here (repaired : Repaired lib observer t w w' report events place r₁ r₂ r₃) :
    w'.files.stat lib.base true = .ok (place, .directory) := by
  obtain ⟨⟨location, node⟩, found⟩ := repaired.stays
  have before := (repaired.beforeVisits.trans (passed_runVisits repaired.visits)).later.files
  have same := (repaired.within.trans before).stat found
  rw [show (startOf t w).files = w.files from rfl, repaired.leads] at same
  cases same
  exact found

theorem leadsAt (repaired : Repaired lib observer t w w' report events place r₁ r₂ r₃)
    (after : Passed observer r r₂) : r.files.stat lib.base true = .ok (place, .directory) :=
  (repaired.within.trans after.later.files).stat repaired.here

theorem not_failed (repaired : Repaired lib observer t w w' report events place r₁ r₂ r₃)
    (before : Passed observer (startOf t w) r) (after : Passed observer r' r₂) :
    ¬failures r < failures r' := by
  have start : failures (startOf t w) = 0 := rfl
  have early := before.later.failures
  have late := (after.later.trans repaired.afterVisits).failures
  have last := repaired.succeeded
  omega

/-- Visits that have been made have their moments, seen from the whole run. -/
theorem momentOf (repaired : Repaired lib observer t w w' report events place r₁ r₂ r₃)
    {vs : List Visit} {last : Run}
    (listed : ∀ v ∈ vs, v ∈ Verifier.visits lib w.files place w.process)
    (done : runVisits lib observer vs (r₁.nextStage "Checking files") = .ok last)
    (rest : Passed observer last r₂) (membership : v ∈ vs) :
    ∃ before after r r', vs = before ++ v :: after ∧ v ∉ before ∧
      runVisits lib observer before (r₁.nextStage "Checking files") = .ok r ∧
      runVisits lib observer after r' = .ok last ∧
      Moment lib observer place w.process v (startOf t w) r r' r₂ := by
  have sameStart : (r₁.nextStage "Checking files").files = w.files := repaired.checked.files
  have leads := repaired.leads
  have stand : ∀ v ∈ vs, v.Stands w.files place w.process :=
    fun v isListed => stands_of_mem_visits (listed v isListed)
  rw [← sameStart] at leads stand
  obtain ⟨before, after, r, r', all, first, toHere, fromHere, moment⟩ :=
    Verifier.moment leads stand done membership
  exact ⟨before, after, r, r', all, first, toHere, fromHere,
    moment.extend repaired.beforeVisits rest⟩

theorem moment (repaired : Repaired lib observer t w w' report events place r₁ r₂ r₃)
    (membership : v ∈ Verifier.visits lib w.files place w.process) :
    ∃ before after r r', Verifier.visits lib w.files place w.process = before ++ v :: after ∧
      v ∉ before ∧ runVisits lib observer before (r₁.nextStage "Checking files") = .ok r ∧
      runVisits lib observer after r' = .ok r₂ ∧
      Moment lib observer place w.process v (startOf t w) r r' r₂ :=
  repaired.momentOf (fun _ isListed => isListed) repaired.visits (.refl r₂) membership

/-- What is wrong is cleared away. -/
theorem settled (repaired : Repaired lib observer t w w' report events place r₁ r₂ r₃)
    (moment : Moment lib observer place w.process v (startOf t w) r r' r₂) {p : Problem}
    {gone : List Int} (found : v.finding? lib r.tables r.files = some (p, gone)) :
    v.Cleared lib gone r r' := by
  have agreeable := moment.before.later.agreeable (agreeable_startOf repaired.agrees)
  rcases moment.taken.thorough agreeable p gone found with cleared | ⟨failed, -⟩
  · exact cleared
  · exact absurd failed (repaired.not_failed moment.before moment.after)

/-- After the visit to a misleading file, the item for its checksum is gone. -/
theorem gone_of_misleading (repaired : Repaired lib observer t w w' report events place r₁ r₂ r₃)
    (moment : Moment lib observer place w.process (.file md5 extension) (startOf t w) r r' r₂)
    (misleading : Misleading lib w.files place md5 extension)
    (checksum : i.cell .md5 = .text md5) : i ∉ r'.tables.libraryItems := by
  intro still
  have present := (moment.before.tables.keyed repaired.keyed).libraryItem?_of_mem
    (moment.taken.passed.tables.libraryItems still) checksum
  rcases finding?_of_misleading repaired.leads moment.before.later.files moment.before.later.data
    misleading present with ⟨p, found⟩
  have row := (Tables.mem_libraryItems.mp still).1
  rw [(repaired.settled moment found).tables, Tables.mem_deleteItems_items] at row
  exact row.2 (List.mem_singleton.mpr rfl)

section Order

variable {before after : List Visit}

theorem mem_visits_of_before
    (all : Verifier.visits lib w.files place w.process = before ++ .file md5 extension :: after) :
    ∀ v ∈ before, v ∈ Verifier.visits lib w.files place w.process := by
  intro v isBefore
  rw [all]
  exact List.mem_append_left _ isBefore

/-- As long as the item for a checksum is there, no misleading file has been visited. -/
theorem first_of_row (repaired : Repaired lib observer t w w' report events place r₁ r₂ r₃)
    (all : Verifier.visits lib w.files place w.process = before ++ .file md5 extension :: after)
    (toHere : runVisits lib observer before (r₁.nextStage "Checking files") = .ok r)
    (fromHere : Passed observer r r₂) (row : i ∈ r.tables.libraryItems)
    (checksum : i.cell .md5 = .text md5) {extension' : String}
    (misleading : Misleading lib w.files place md5 extension') :
    ¬blobName md5 extension' < blobName md5 extension := by
  intro less
  have isMisleading := misleading
  obtain ⟨id, reached, -⟩ := misleading
  have isBefore := (mem_before_iff all).mpr ⟨file_mem_visits.mpr ⟨id, reached.blob⟩, less⟩
  obtain ⟨-, after', q, q', -, -, -, fromThere, moment⟩ :=
    repaired.momentOf (mem_visits_of_before all) toHere fromHere isBefore
  have stillThere := (passed_runVisits fromThere).tables.libraryItems row
  exact repaired.gone_of_misleading moment isMisleading checksum stillThere

/-- As long as no misleading file has been visited, the item for a checksum is there. -/
theorem row_of_first (repaired : Repaired lib observer t w w' report events place r₁ r₂ r₃)
    (all : Verifier.visits lib w.files place w.process = before ++ .file md5 extension :: after)
    (toHere : runVisits lib observer before (r₁.nextStage "Checking files") = .ok r)
    (own : Own lib t w.files place md5 extension i)
    (first : ∀ extension', Misleading lib w.files place md5 extension' →
      ¬blobName md5 extension' < blobName md5 extension) : i ∈ r.tables.libraryItems := by
  apply runVisits_keeps (fun r => i ∈ r.tables.libraryItems) _ _ toHere
  · exact repaired.checked.kept repaired.keyed i own.row (own.exists? repaired.leads)
  · intro v isBefore q q' passed taken row
    have soFar := repaired.beforeVisits.trans passed
    have stands := stands_of_mem_visits (mem_visits_of_before all v isBefore)
    rcases taken.kept_or_misleading repaired.leads soFar.later.files soFar.later.data
      (soFar.tables.keyed repaired.keyed) stands row own.checksum
      with kept | ⟨extension', rfl, misleading⟩
    · exact kept
    · exact absurd ((mem_before_iff all).mp isBefore).2 (first extension' misleading)

end Order

/-- At its visit, a file is found to be right if and only if it is. -/
theorem finding?_eq_none_iff (repaired : Repaired lib observer t w w' report events place r₁ r₂ r₃)
    (blob : BlobFile w.files place md5 extension id) :
    ∃ before after r r',
      Verifier.visits lib w.files place w.process = before ++ .file md5 extension :: after ∧
      .file md5 extension ∉ before ∧
      runVisits lib observer before (r₁.nextStage "Checking files") = .ok r ∧
      runVisits lib observer after r' = .ok r₂ ∧
      Moment lib observer place w.process (.file md5 extension) (startOf t w) r r' r₂ ∧
      ((Visit.file md5 extension).finding? lib r.tables r.files = none ↔
        Right lib t w.files place md5 extension) := by
  rcases repaired.moment (file_mem_visits.mpr ⟨id, blob⟩) with
    ⟨before, after, r, r', all, first, toHere, fromHere, moment⟩
  refine ⟨before, after, r, r', all, first, toHere, fromHere, moment, ?_⟩
  have later := moment.before.later
  have rest := moment.taken.passed.trans moment.after
  constructor
  · intro fine
    obtain ⟨i, present, right, named⟩ := Visit.of_finding?_eq_none fine
    obtain ⟨row, checksum⟩ := libraryItem?_eq_some present
    refine ⟨⟨i, moment.before.tables.libraryItems row, checksum, named, id,
      reached_of_contentProblem? repaired.leads later.files later.data blob right⟩, ?_⟩
    intro extension' misleading
    exact repaired.first_of_row all toHere rest row checksum misleading
  · rintro ⟨⟨i, own⟩, noneFirst⟩
    have row := repaired.row_of_first all toHere own noneFirst
    obtain ⟨id', reached, right⟩ := own.content
    obtain ⟨id'', still⟩ := moment.stands
    have opens := (clear_of_reached reached repaired.leads (repaired.leadsAt rest) still).1
    have same : id' = id'' := by
      simpa using reached.blob.file.symm.trans (later.files.nodes _ _ still.file)
    subst same
    refine finding?_eq_none ((moment.before.tables.keyed repaired.keyed).libraryItem?_of_mem row
      own.checksum) (Files.stat_true_of_false opens (by simp)) ?_ own.named
    rw [Files.dataOf_congr later.data]
    exact right

/-! ## Files -/

/-- What is wrong at its visit is gone in the end. -/
theorem gone_of_found (repaired : Repaired lib observer t w w' report events place r₁ r₂ r₃)
    (moment : Moment lib observer place w.process v (startOf t w) r r' r₂)
    (stands : v.Stands w.files place w.process)
    (found : v.finding? lib r.tables r.files ≠ none) (takes : v.Takes place location) :
    r₂.files.nodes[location]? = none := by
  obtain ⟨⟨p, gone⟩, finding⟩ := Option.ne_none_iff_exists'.mp found
  have cleared := repaired.settled moment finding
  apply moment.after.later.files.nodes_none
  exact (stands.cleared repaired.leads moment.before.later.files cleared.files).gone location takes

/-- A file that is right stays, with the directories that it is in. -/
theorem stands_of_right (repaired : Repaired lib observer t w w' report events place r₁ r₂ r₃)
    (blob : BlobFile w.files place md5 extension id)
    (right : Right lib t w.files place md5 extension) :
    BlobFile r₂.files place md5 extension id := by
  have stands : (Visit.file md5 extension).Stands w.files place w.process := ⟨id, blob⟩
  rcases repaired.finding?_eq_none_iff blob with
    ⟨before, after, r, r', all, first, toHere, fromHere, moment, iff⟩
  have past : r'.files = r.files := by
    rcases moment.taken.effect with ⟨-, same⟩ | ⟨p, gone, found, -⟩
    · exact same
    · rw [iff.mpr right] at found
      cases found
  have stand : ∀ v ∈ after, v.Stands w.files place w.process :=
    fun v isAfter => stands_of_mem_visits (by rw [all]; simp [isAfter])
  have rest := (passed_runVisits fromHere).later.files
  have still : (Visit.file md5 extension).Stands r₂.files place w.process := by
    apply moment.stands.congr
    intro location rests
    rw [← past]
    apply nodes_of_runVisits repaired.leads
      (moment.before.trans moment.taken.passed).later.files stand _ fromHere
    intro v isAfter
    exact not_takes_of_ne stands (stand v isAfter)
      (fun same => not_mem_after all (same ▸ isAfter)) rests
  obtain ⟨id', still⟩ := still
  have same : id' = id := by
    have before := (rest.trans (moment.before.trans moment.taken.passed).later.files).nodes _ _
      still.file
    simpa using before.symm.trans blob.file
  exact same ▸ still

/-- A full repair takes away what is doomed, and nothing else. -/
theorem files (repaired : Repaired lib observer t w w' report events place r₁ r₂ r₃) :
    Files.Cleared (Doomed lib t w.files place w.process) w.files r₂.files := by
  have passed := repaired.beforeVisits.trans (passed_runVisits repaired.visits)
  refine ⟨?_, ?_, passed.later.files.working, passed.later.data⟩
  · intro location doomed
    cases doomed with
    | @file md5 extension id blob notRight =>
        obtain ⟨-, -, r, r', -, -, -, -, moment, iff⟩ := repaired.finding?_eq_none_iff blob
        exact repaired.gone_of_found moment ⟨id, blob⟩ (fun fine => notRight (iff.mp fine)) rfl
    | @stale name _ stale inside =>
        obtain ⟨-, -, r, r', -, -, -, -, moment⟩ := repaired.moment (stale_mem_visits.mpr stale)
        exact repaired.gone_of_found moment stale (by simp [Visit.finding?]) inside
  · intro location spared
    by_cases takes : ∃ v ∈ Verifier.visits lib w.files place w.process, v.Takes place location
    · obtain ⟨v, membership, takes⟩ := takes
      have stands := stands_of_mem_visits membership
      cases v with
      | progress | listing => exact takes.elim
      | file md5 extension =>
          obtain rfl : location = blobAt place md5 extension := takes
          obtain ⟨id, blob⟩ := stands
          by_cases right : Right lib t w.files place md5 extension
          · rw [(repaired.stands_of_right blob right).file, blob.file]
          · exact absurd (.file blob right) spared
      | stale name => exact absurd (.stale stands takes) spared
    · have sameStart : (r₁.nextStage "Checking files").files = w.files := repaired.checked.files
      rw [nodes_of_runVisits repaired.leads (by rw [sameStart]; exact .refl _)
        (fun v => stands_of_mem_visits) (fun v membership taken => takes ⟨v, membership, taken⟩)
        repaired.visits, sameStart]

/-! ## Items -/

/-- A full repair leaves the items that are kept, and no others. -/
theorem mem_libraryItems_iff
    (repaired : Repaired lib observer t w w' report events place r₁ r₂ r₃) :
    i ∈ r₂.tables.libraryItems ↔ Kept lib t w.files place i := by
  have passed := passed_runVisits repaired.visits
  constructor
  · intro row
    have before := passed.tables.libraryItems row
    refine ⟨repaired.beforeVisits.tables.libraryItems before,
      repaired.checked.thorough (agreeable_startOf repaired.agrees) i before, ?_⟩
    intro md5 extension checksum misleading
    have isMisleading := misleading
    obtain ⟨id, reached, -⟩ := misleading
    rcases repaired.moment (file_mem_visits.mpr ⟨id, reached.blob⟩) with
      ⟨-, -, r, r', -, -, -, -, moment⟩
    exact repaired.gone_of_misleading moment isMisleading checksum
      (moment.after.tables.libraryItems row)
  · intro kept
    apply runVisits_keeps (fun r => i ∈ r.tables.libraryItems) _ _ repaired.visits
    · exact repaired.checked.kept repaired.keyed i kept.row kept.there
    · intro v membership q q' passed taken row
      have soFar := repaired.beforeVisits.trans passed
      rcases repaired.keyed.checksumTexts i (Tables.mem_libraryItems.mp kept.row).1 with
        ⟨md5, checksum⟩
      rcases taken.kept_or_misleading repaired.leads soFar.later.files soFar.later.data
        (soFar.tables.keyed repaired.keyed) (stands_of_mem_visits membership) row checksum
        with stays | ⟨extension, -, misleading⟩
      · exact stays
      · exact absurd misleading (kept.trusted md5 extension checksum)

end Repaired

end SampleLibrary.Verifier
