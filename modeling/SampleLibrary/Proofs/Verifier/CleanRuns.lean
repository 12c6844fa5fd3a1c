import SampleLibrary.Proofs.Verifier.Judging

/-!
# A library with nothing wrong

A verification is clean if it finds nothing, asks nothing and changes nothing. It is clean if and only if
there is nothing wrong with the library (`clean_iff_faultless`), whoever is there to answer.
-/

namespace SampleLibrary.Verifier

/-- A verification that finds nothing and changes nothing. -/
structure Clean (lib : Library) (observer : Observer) (w : World) : Prop where
  done : ∃ report, (verify lib observer w).1.outcome = .ok report ∧ report.issues = 0
  plain : ∀ event ∈ (verify lib observer w).1.events, Plain event
  unchanged : (verify lib observer w).2 = w

/-- There is nothing wrong with a library. -/
structure Faultless (lib : Library) (t : Tables) (w : World) (place : Location) : Prop where
  leads : w.files.stat lib.base true = .ok (place, .directory)
  items : ∀ i ∈ t.libraryItems, w.files.exists? (itemPath lib i) = true
  visits : ∀ v ∈ visits lib w.files place w.process, v.finding? lib t w.files = none
  listings : ∀ path, .listing path ∈ Verifier.visits lib w.files place w.process →
    ∃ entries, w.files.list path = .ok entries
  anchored : t.Anchored
  counted : t.Counted

/-- From one moment to another nothing has happened and nothing was found. -/
structure Quiet (observer : Observer) (r r' : Run) : Prop where
  talk : Talk observer Plain r r'
  issues : r'.report.issues = r.report.issues
  metrics : r'.metrics = r.metrics

section Runs

variable {lib : Library} {observer : Observer} {t : Tables} {r r' r'' : Run}

namespace Quiet

theorem refl (r : Run) : Quiet observer r r := ⟨.refl r, rfl, rfl⟩

theorem trans (first : Quiet observer r r') (second : Quiet observer r' r'') :
    Quiet observer r r'' :=
  ⟨first.talk.trans second.talk, second.issues.trans first.issues,
    second.metrics.trans first.metrics⟩

theorem calm (quiet : Quiet observer r r') (calm : r.progress.error = none) :
    r'.progress.error = none :=
  quiet.talk.calm calm

theorem nextStage (r : Run) (name : String) : Quiet observer r (r.nextStage name) :=
  ⟨talk_nextStage observer r name, rfl, rfl⟩

theorem advance (percent : Nat) (calm : r.progress.error = none) :
    Quiet observer r (r.advance percent) := by
  refine ⟨talk_advance observer percent calm, by rw [advance_report], ?_⟩
  unfold Run.advance
  dsimp only
  split <;> rfl

theorem itemsRemoved (quiet : Quiet observer r r') :
    r'.report.itemsRemoved = r.report.itemsRemoved := by
  rw [quiet.talk.report]

end Quiet

theorem plain_of_suffix {said saidLater : List Event} (earlier : said <:+ saidLater)
    (plain : ∀ event ∈ saidLater, Plain event) : ∀ event ∈ said, Plain event :=
  fun event membership => plain event (earlier.subset membership)

theorem not_plain_of_ask_of_suffix {p : Problem} (earlier : (r.ask observer p).2.history <:+ r'.history)
    (plain : ∀ event ∈ r'.history, Plain event) : False := by
  obtain ⟨event, membership, notPlain⟩ := not_plain_of_ask observer p r
  exact notPlain (plain event (earlier.subset membership))

/-! ## The first stage -/

variable (observer) in
theorem quiet_foldl_checkItem (total : Nat) (removed : List Int) {entries : List (Item × Nat)}
    (there : ∀ entry ∈ entries, r.files.exists? (itemPath lib entry.1) = true)
    (calm : r.progress.error = none) :
    ∃ r', entries.foldl (checkItem lib observer total) (removed, r) = (removed, r') ∧
      Quiet observer r r' := by
  induction entries generalizing r with
  | nil => exact ⟨r, rfl, .refl r⟩
  | cons entry entries inductionHypothesis =>
      obtain ⟨i, number⟩ := entry
      have advanced : Quiet observer r (r.advance (100 * number / max total 1)) :=
        .advance _ calm
      have first := there (i, number) (by simp)
      rw [List.foldl_cons, checkItem, if_pos (by rw [advance_files]; exact first)]
      have rest : ∀ entry ∈ entries, (r.advance (100 * number / max total 1)).files.exists?
          (itemPath lib entry.1) = true := by
        intro entry membership
        rw [advance_files]
        exact there entry (by simp [membership])
      obtain ⟨r', result, quiet⟩ := inductionHypothesis rest (advanced.calm calm)
      exact ⟨r', result, advanced.trans quiet⟩

theorem exists?_of_plain_foldl {total : Nat} {entries : List (Item × Nat)} (removed : List Int)
    (calm : r.progress.error = none)
    (plain : ∀ event ∈ (entries.foldl (checkItem lib observer total) (removed, r)).2.history,
      Plain event) :
    ∀ entry ∈ entries, r.files.exists? (itemPath lib entry.1) = true := by
  induction entries generalizing r removed with
  | nil => simp
  | cons entry entries inductionHypothesis =>
      obtain ⟨i, number⟩ := entry
      have advanced : Quiet observer r (r.advance (100 * number / max total 1)) :=
        .advance _ calm
      rw [List.foldl_cons, checkItem] at plain
      by_cases there : (r.files.exists? (itemPath lib i)) = true
      · rw [if_pos (by rw [advance_files]; exact there)] at plain
        intro entry membership
        rcases List.mem_cons.mp membership with rfl | later
        · exact there
        · have rest := inductionHypothesis removed (advanced.calm calm) plain entry later
          rw [advance_files] at rest
          exact rest
      · rw [if_neg (by rw [advance_files]; exact there)] at plain
        exfalso
        have asked := talk_ask observer (r.advance (100 * number / max total 1))
          (.missingFile i.id ((i.text? .name).getD "") (itemPath lib i))
        have calmAfter := asked.calm (advanced.calm calm)
        -- whatever the answer is, the question has been asked
        split at plain
        · rename_i r₁ yes
          rw [yes] at calmAfter
          have later := (foldl_checkItem lib observer r.tables total entries (removed ++ [i.id])
            calmAfter).1.suffix
          exact not_plain_of_ask_of_suffix (by rw [yes]; exact later) plain
        · rename_i r₁ no
          rw [no] at calmAfter
          have later := (foldl_checkItem lib observer r.tables total entries removed calmAfter).1.suffix
          exact not_plain_of_ask_of_suffix (by rw [no]; exact later) plain

theorem exists_of_mem_zipIdx {i : Item} (membership : i ∈ r.tables.libraryItems) :
    ∃ entry ∈ (itemsInOrder r.tables).zipIdx 1, entry.1 = i := by
  have listed : i ∈ ((itemsInOrder r.tables).zipIdx 1).map Prod.fst := by
    rw [List.zipIdx_map_fst]
    exact mem_itemsInOrder.mpr membership
  exact List.mem_map.mp listed

theorem mem_of_mem_zipIdx {entry : Item × Nat} (listed : entry ∈ (itemsInOrder r.tables).zipIdx 1) :
    entry.1 ∈ r.tables.libraryItems := by
  apply mem_itemsInOrder.mp
  have membership := List.mem_map_of_mem (f := Prod.fst) listed
  rwa [List.zipIdx_map_fst] at membership

theorem quiet_afterRoot (observer : Observer) (found : (r.tables.tag? Tag.root).isSome = true) :
    Quiet observer r (afterRoot r) := by
  have silent : afterRoot r = r.nextStage "Checking items" := by
    apply if_neg
    simpa using Option.isSome_iff_ne_none.mp found
  rw [silent]
  exact .nextStage r _

theorem quiet_checkItems (observer : Observer) (counted : r.tables.Counted)
    (there : ∀ i ∈ r.tables.libraryItems, r.files.exists? (itemPath lib i) = true) :
    ∃ r', checkItems lib observer r = .ok r' ∧ Quiet observer r r' := by
  obtain ⟨root, found⟩ := Option.isSome_iff_exists.mp (Tables.tag?_isSome_iff.mpr counted.rooted)
  have right : root.count = r.tables.libraryItems.length := by
    obtain ⟨row, isRoot⟩ := Tables.tag?_eq_some found
    rw [counted.counts root row, Tables.actualCount_root isRoot]
  have rooted := quiet_afterRoot observer (Option.isSome_of_eq_some found)
  have each : ∀ entry ∈ (itemsInOrder r.tables).zipIdx 1,
      (afterRoot r).files.exists? (itemPath lib entry.1) = true := by
    intro entry listed
    rw [rooted.talk.files]
    exact there entry.1 (mem_of_mem_zipIdx listed)
  rcases quiet_foldl_checkItem observer (itemsInOrder r.tables).length [] each (afterRoot_calm r) with
    ⟨r₁, checked, quiet⟩
  let r₂ := r₁.note fun report => { report with itemsChecked := r.tables.libraryItems.length }
  have noted : Quiet observer r₁ r₂ := ⟨talk_note_itemsChecked observer r₁ _, rfl, rfl⟩
  have calm : r₂.progress.error = none := noted.calm (quiet.calm (afterRoot_calm r))
  refine ⟨r₂.advance 100, ?_, ((rooted.trans quiet).trans noted).trans (.advance 100 calm)⟩
  have items : afterItems lib observer r = ([], r₁) := checked
  have counter : afterCounter lib observer r = r₂ := by
    simp [afterCounter, items, found, checkCounter, right, r₂]
  rw [checkItems_bind, items, counter]
  rfl

/-- If the first stage finds nothing, every item has its file and there is the tag for the whole
library. -/
theorem of_plain_checkItems (done : checkItems lib observer r = .ok r')
    (plain : ∀ event ∈ r'.history, Plain event) :
    Tag.root ∈ r.tables.tags.map (·.name) ∧
      ∀ i ∈ r.tables.libraryItems, r.files.exists? (itemPath lib i) = true := by
  have begun := talk_afterRoot observer r
  rw [checkItems_bind] at done
  obtain ⟨r₁, removed, last⟩ := ok_of_bind done
  cases last
  -- what is said later on leaves what was said before as it is
  have rest := (talk_afterCounter lib observer r).suffix.trans
    ((removeItems_ok observer removed).1.later.trans (.advance r₁ 100)).said
  have upToItems := plain_of_suffix rest plain
  constructor
  · by_contra missing
    have each := (foldl_checkItem lib observer r.tables (itemsInOrder r.tables).length
      ((itemsInOrder r.tables).zipIdx 1) [] (afterRoot_calm r)).1
    have remarked : afterRoot r = (r.nextStage "Checking items").remark .missingRootTag := by
      unfold afterRoot
      exact if_pos (by simpa using Tables.tag?_eq_none_iff.mpr missing)
    have early := plain_of_suffix each.suffix upToItems
    rw [remarked] at early
    cases early _ List.mem_cons_self with
    | progress silent => cases silent
  · intro i membership
    obtain ⟨entry, listed, rfl⟩ := exists_of_mem_zipIdx membership
    rw [← begun.files]
    exact exists?_of_plain_foldl [] (afterRoot_calm r) upToItems entry listed

/-- Where every item has its file, the first stage leaves them all. -/
theorem checkItems_of_there (done : checkItems lib observer r = .ok r')
    (there : ∀ i ∈ r.tables.libraryItems, r.files.exists? (itemPath lib i) = true) :
    r'.tables = r.tables ∧ r'.files = r.files ∧
      r'.report.itemsRemoved = r.report.itemsRemoved := by
  obtain ⟨r₁, gone, talk, -, -, sub, -, equation⟩ := checkItems_eq lib observer r
  have none' : withoutFile lib r.files (itemsInOrder r.tables) = [] := by
    rw [withoutFile, List.filter_eq_nil_iff]
    intro i membership
    simp [there i (mem_itemsInOrder.mp membership)]
  rw [none', List.map_nil, List.sublist_nil] at sub
  rw [equation, sub] at done
  cases done
  rw [advance_tables, advance_files, advance_report, talk.report]
  exact ⟨talk.tables, talk.files, rfl⟩

/-! ## The second stage -/

/-- A visit that finds nothing does nothing. -/
theorem quiet_step (observer : Observer) {v : Visit} (calm : r.progress.error = none)
    (fine : v.finding? lib r.tables r.files = none)
    (listed : ∀ path, v = .listing path → ∃ entries, r.files.list path = .ok entries) :
    ∃ r', v.step lib observer r = .ok r' ∧ Quiet observer r r' := by
  cases v with
  | progress percent => exact ⟨_, rfl, .advance percent calm⟩
  | listing path =>
      obtain ⟨entries, ok⟩ := listed path rfl
      refine ⟨r, ?_, .refl r⟩
      simp [Visit.step, entriesOf, ok, Except.map]
  | file md5 extension =>
      obtain ⟨i, present, right, named⟩ := Visit.of_finding?_eq_none fine
      refine ⟨r, ?_, .refl r⟩
      simp [Visit.step, checkBlob, present, right, named]
  | stale name => cases fine

theorem quiet_runVisits (observer : Observer) {vs : List Visit} (calm : r.progress.error = none)
    (fine : ∀ v ∈ vs, v.finding? lib r.tables r.files = none)
    (listed : ∀ path, .listing path ∈ vs → ∃ entries, r.files.list path = .ok entries) :
    ∃ r', runVisits lib observer vs r = .ok r' ∧ Quiet observer r r' := by
  induction vs generalizing r with
  | nil => exact ⟨r, rfl, .refl r⟩
  | cons v vs inductionHypothesis =>
      rcases quiet_step observer calm (fine v (by simp))
        (fun path same => listed path (by simp [same])) with ⟨r₁, first, quiet⟩
      rcases inductionHypothesis (quiet.calm calm)
        (fun v membership => by
          rw [quiet.talk.tables, quiet.talk.files]
          exact fine v (by simp [membership]))
        (fun path membership => by
          rw [quiet.talk.files]
          exact listed path (by simp [membership])) with ⟨r', rest, more⟩
      refine ⟨r', ?_, quiet.trans more⟩
      rw [runVisits_cons, first]
      exact rest

/-- If visits find nothing, there is nothing wrong with what is visited. -/
theorem of_plain_runVisits {vs : List Visit} (calm : r.progress.error = none)
    (done : runVisits lib observer vs r = .ok r') (plain : ∀ event ∈ r'.history, Plain event) :
    (∀ v ∈ vs, v.finding? lib r.tables r.files = none) ∧
      ∀ path, .listing path ∈ vs → ∃ entries, r.files.list path = .ok entries := by
  induction vs generalizing r with
  | nil => simp
  | cons v vs inductionHypothesis =>
      rw [runVisits_cons] at done
      obtain ⟨r₁, first, rest⟩ := ok_of_bind done
      have early := plain_of_suffix (passed_runVisits rest).later.said plain
      have fine : v.finding? lib r.tables r.files = none := by
        cases found : v.finding? lib r.tables r.files with
        | none => rfl
        | some finding =>
            obtain ⟨event, told, notPlain⟩ := (Visit.step_taken first).loud (by simp [found])
            exact absurd (early event told) notPlain
      have listed (path : String) (same : v = .listing path) :
          ∃ entries, r.files.list path = .ok entries := by
        subst same
        cases content : r.files.list path with
        | ok entries => exact ⟨entries, rfl⟩
        | error e => simp [Visit.step, entriesOf, content, Except.map] at first
      obtain ⟨r₂, same, quiet⟩ := quiet_step observer calm fine listed
      rw [first] at same
      cases same
      obtain ⟨others, paths⟩ := inductionHypothesis (quiet.calm calm) rest
      rw [quiet.talk.tables, quiet.talk.files] at others
      rw [quiet.talk.files] at paths
      constructor
      · intro v' membership
        rcases List.mem_cons.mp membership with rfl | later
        · exact fine
        · exact others v' later
      · intro path membership
        rcases List.mem_cons.mp membership with same | later
        · exact listed path same.symm
        · exact paths path later

/-! ## The third stage -/

theorem quiet_checkLinks (observer : Observer) (calm : r.progress.error = none)
    (fresh : r.report.itemsRemoved = 0) (anchored : r.tables.Anchored)
    (counts : ∀ row ∈ r.tables.tags, row.count = r.tables.actualCount row) :
    ∃ r', checkLinks lib observer r = .ok r' ∧ Quiet observer r r' := by
  have tags : r.tables.linksWithoutTag = [] :=
    List.filter_eq_nil_iff.mpr fun l membership => by simp [anchored.linkTags l membership]
  have items : r.tables.linksWithoutItem = [] :=
    List.filter_eq_nil_iff.mpr fun l membership => by simp [anchored.linkItems l membership]
  have customs : r.tables.strayCustoms = [] :=
    List.filter_eq_nil_iff.mpr fun c membership => by simp [anchored.customs c membership]
  have right : r.tables.wrongCounts = [] := by
    rw [Tables.wrongCounts, List.filter_eq_nil_iff]
    intro entry membership
    obtain ⟨row, listed, rfl⟩ := List.mem_map.mp membership
    have counted := counts row (by simpa [Tables.sortedTags] using listed)
    simp [counted]
  have first : Quiet observer r ((r.nextStage "Checking item tags").advance 25) :=
    (Quiet.nextStage r _).trans (.advance 25 rfl)
  have second := first.trans (.advance 50 (first.calm calm))
  have third := second.trans (.advance 75 (second.calm calm))
  have last := third.trans (.advance 100 (third.calm calm))
  refine ⟨_, ?_, last⟩
  have skipped (p : Problem) (change : Tables → Tables) (r : Run) :
      offerRemoval lib observer 0 p change r = .ok r := rfl
  have goesOn (r : Run) (rest : Step) : (Except.ok r >>= rest) = rest r := rfl
  have checked {r' : Run} (quiet : Quiet observer r r') : checkCounts lib observer r' = .ok r' := by
    simp [checkCounts, quiet.itemsRemoved, fresh, quiet.talk.tables, right]
  simp only [checkLinks, nextStage_tables, advance_tables, tags, items, customs, List.length_nil,
    skipped, goesOn, checked third]
  rfl

theorem not_plain_of_offer {p : Problem} {repair : Step}
    (done : r.offer observer p repair = .ok r')
    (later : ∀ r₁, repair r₁ = .ok r' → r₁.history <:+ r'.history) :
    ¬∀ event ∈ r'.history, Plain event := by
  intro plain
  suffices asked : (r.ask observer p).2.history <:+ r'.history from
    not_plain_of_ask_of_suffix asked plain
  rcases offer_cases done with ⟨-, repaired⟩ | ⟨-, rfl⟩
  · exact later _ repaired
  · exact List.suffix_rfl

theorem of_plain_offerRemoval {count : Nat} {p : Problem} {change : Tables → Tables}
    (done : offerRemoval lib observer count p change r = .ok r')
    (plain : ∀ event ∈ r'.history, Plain event) : count = 0 ∧ r' = r := by
  unfold offerRemoval at done
  by_cases none' : count = 0
  · rw [if_pos (by simp [none'])] at done
    exact ⟨none', (Except.ok.inj done).symm⟩
  · rw [if_neg (by simpa using none')] at done
    refine absurd plain (not_plain_of_offer done fun r₁ edited => ?_)
    exact (edited_of_ok observer (by rfl) edited).later.said

theorem of_plain_checkCounts (done : checkCounts lib observer r = .ok r')
    (fresh : r.report.itemsRemoved = 0) (plain : ∀ event ∈ r'.history, Plain event) :
    r.tables.wrongCounts = [] ∧ r' = r := by
  unfold checkCounts at done
  rw [if_neg (by omega)] at done
  by_cases right : r.tables.wrongCounts = []
  · rw [if_pos (by simp [right])] at done
    exact ⟨right, (Except.ok.inj done).symm⟩
  · rw [if_neg (by simpa using right)] at done
    refine absurd plain (not_plain_of_offer done fun r₁ edited => ?_)
    exact (edited_of_ok observer (by rfl) edited).later.said

/-- If the third stage finds nothing, nothing is astray and the counters are right. -/
theorem of_plain_checkLinks (done : checkLinks lib observer r = .ok r')
    (fresh : r.report.itemsRemoved = 0) (plain : ∀ event ∈ r'.history, Plain event) :
    r.tables.Anchored ∧ ∀ row ∈ r.tables.tags, row.count = r.tables.actualCount row := by
  obtain ⟨r₁, r₂, r₃, r₄, tags, items, customs, counts, rfl⟩ := checkLinks_parts done
  -- nothing was said at the end, so nothing was said before it either
  have back {r : Run} {percent : Nat} (plain : ∀ event ∈ (r.advance percent).history, Plain event) :
      ∀ event ∈ r.history, Plain event :=
    plain_of_suffix (Later.advance r percent : Later observer r _).said plain
  have upToLinks := plain_of_suffix (countsChecked counts).later.said (back plain)
  obtain ⟨noCustoms, rfl⟩ := of_plain_offerRemoval customs upToLinks
  obtain ⟨noItems, rfl⟩ := of_plain_offerRemoval items (back upToLinks)
  obtain ⟨noTags, rfl⟩ := of_plain_offerRemoval tags (back (back upToLinks))
  obtain ⟨right, -⟩ := of_plain_checkCounts counts (by simpa using fresh) (back plain)
  simp only [advance_tables, nextStage_tables, List.length_eq_zero_iff, Tables.linksWithoutTag,
    Tables.linksWithoutItem, Tables.strayCustoms, List.filter_eq_nil_iff, Bool.not_eq_true',
    Bool.not_eq_false] at noCustoms noItems noTags right
  exact ⟨⟨noItems, noTags, noCustoms⟩, Tables.wrongCounts_eq_nil_iff.mp right⟩

end Runs

/-! ## All stages -/

section Stages

variable {lib : Library} {observer : Observer} {t : Tables} {w : World} {place : Location}

theorem quiet_checkFiles {r : Run} (process : Nat) (observer : Observer)
    (leads : r.files.stat lib.base true = .ok (place, .directory))
    (fine : ∀ v ∈ visits lib r.files place process, v.finding? lib r.tables r.files = none)
    (listed : ∀ path, .listing path ∈ visits lib r.files place process →
      ∃ entries, r.files.list path = .ok entries) :
    ∃ r', checkFiles lib observer process r = .ok r' ∧ Quiet observer r r' := by
  have staged : Quiet observer r (r.nextStage "Checking files") := .nextStage r _
  rcases quiet_runVisits (r := r.nextStage "Checking files") observer rfl fine listed with
    ⟨r₁, done, quiet⟩
  have calm : r₁.progress.error = none := quiet.calm rfl
  refine ⟨r₁.advance 100, ?_, (staged.trans quiet).trans (.advance 100 calm)⟩
  rw [checkFiles_eq observer process leads, done]
  rfl

/-- Where nothing is wrong, a verification is clean. -/
theorem clean_of_faultless (isOpen : lib.tables w.files = .ok t)
    (faultless : Faultless lib t w place) : Clean lib observer w := by
  rcases quiet_checkItems (r := startOf t w) observer faultless.counted faultless.items with
    ⟨r₁, items, first⟩
  have leads : r₁.files.stat lib.base true = .ok (place, .directory) := by
    rw [first.talk.files]
    exact faultless.leads
  have fine : ∀ v ∈ visits lib r₁.files place w.process,
      v.finding? lib r₁.tables r₁.files = none := by
    rw [first.talk.files, first.talk.tables]
    exact faultless.visits
  have listed : ∀ path, .listing path ∈ visits lib r₁.files place w.process →
      ∃ entries, r₁.files.list path = .ok entries := by
    rw [first.talk.files]
    exact faultless.listings
  obtain ⟨r₂, files, second⟩ := quiet_checkFiles w.process observer leads fine listed
  have upToFiles := first.trans second
  have same : r₂.tables = t := upToFiles.talk.tables
  rcases quiet_checkLinks observer (upToFiles.calm rfl) upToFiles.itemsRemoved
    (same ▸ faultless.anchored) (same ▸ faultless.counted.counts) with ⟨r₃, links, third⟩
  have quiet := upToFiles.trans third
  have unedited : r₃.edited = false := quiet.talk.edited
  have stages : allStages lib observer w.process (startOf t w) = .ok r₃ := by
    unfold allStages
    rw [items]
    show checkFiles lib observer w.process r₁ >>= _ = _
    rw [files]
    exact links
  have verified := verify_of_stages isOpen stages
  rw [unedited, if_neg (by simp), quiet.talk.files, quiet.metrics] at verified
  constructor
  · rw [verified]
    exact ⟨r₃.report, rfl, quiet.issues⟩
  · rw [verified]
    obtain ⟨said, history, plain⟩ := quiet.talk.said
    intro event membership
    apply plain
    simpa [history, startOf] using membership
  · rw [verified]
    rfl

/-- Where a verification is clean, nothing is wrong. -/
theorem faultless_of_clean (isOpen : lib.tables w.files = .ok t) (clean : Clean lib observer w) :
    ∃ place, Faultless lib t w place := by
  obtain ⟨report, done, -⟩ := clean.done
  obtain ⟨r₃, stages⟩ := stages_of_ok isOpen done
  have said := clean.plain
  rw [verify_of_stages isOpen stages] at said
  have plain : ∀ event ∈ r₃.history, Plain event :=
    fun event membership => said event (by simpa using membership)
  obtain ⟨r₁, items, rest⟩ := ok_of_bind stages
  obtain ⟨r₂', files, links⟩ := ok_of_bind rest
  have upToFiles := plain_of_suffix (linksChecked links).later.said plain
  obtain ⟨place, leads⟩ := leads_of_checkFiles files
  rw [checkFiles_eq observer w.process leads] at files
  obtain ⟨r₂, visited, last⟩ := ok_of_bind files
  cases last
  have upToVisits := plain_of_suffix (Later.advance r₂ 100 : Later observer r₂ _).said upToFiles
  have upToItems := plain_of_suffix
    ((Later.nextStage r₁ _).trans (passed_runVisits visited).later).said upToVisits
  obtain ⟨rooted, there⟩ := of_plain_checkItems items upToItems
  obtain ⟨tables, sameFiles, unremoved⟩ := checkItems_of_there items there
  obtain ⟨fine, listed⟩ := of_plain_runVisits rfl visited upToVisits
  -- the second stage has done nothing, so the third one has found the tables as they were
  obtain ⟨r, again, quiet⟩ := quiet_runVisits observer rfl fine listed
  rw [visited] at again
  cases again
  have unchanged : (r₂.advance 100).tables = t := by
    rw [advance_tables, quiet.talk.tables, nextStage_tables, tables]
    rfl
  have fresh : (r₂.advance 100).report.itemsRemoved = 0 := by
    rw [advance_report, quiet.itemsRemoved, nextStage_report, unremoved]
    rfl
  obtain ⟨anchored, counts⟩ := of_plain_checkLinks links fresh plain
  rw [unchanged] at anchored counts
  rw [nextStage_tables, nextStage_files, tables, sameFiles] at fine
  rw [nextStage_files, sameFiles] at listed
  rw [sameFiles] at leads
  exact ⟨place, leads, there, fine, listed, anchored, rooted, counts⟩

/-- A verification is clean if and only if there is nothing wrong. -/
theorem clean_iff_faultless (isOpen : lib.tables w.files = .ok t) :
    Clean lib observer w ↔ ∃ place, Faultless lib t w place := by
  constructor
  · exact faultless_of_clean isOpen
  · rintro ⟨place, faultless⟩
    exact clean_of_faultless isOpen faultless

end Stages

end SampleLibrary.Verifier
