import SampleLibrary.Proofs.Verifier.Telling

/-!
# What was agreed to

The questions of a run with their answers tell what the run has done: what was agreed to has been tried in
the order of the questions, and nothing else (`carryOut`). So tables, files and the numbers in the report
are known from the questions at every moment between two steps (`Faithful`), and after the third stage as
well, but for counters that were counted anew (`Carried`).
-/

namespace SampleLibrary

namespace Tables

/-- Is this the number of an item that is there and among those that are to be deleted? -/
def isMeant (t : Tables) (ids : List Int) (id : Int) : Bool :=
  ids.contains id && t.items.any fun i => i.id == id

theorem deleteItems_eq (t : Tables) (ids : List Int) :
    t.deleteItems ids = { t with
      items := t.items.filter fun i => !t.isMeant ids i.id
      links := t.links.filter fun l => !t.isMeant ids l.item
      customs := t.customs.filter fun c => !t.isMeant ids c.item
      documents := t.documents.filter fun d => !t.isMeant ids d.item } := rfl

theorem isMeant_append (t : Tables) (first second : List Int) (id : Int) :
    t.isMeant (first ++ second) id =
      (t.isMeant first id || (t.deleteItems first).isMeant second id) := by
  have present : ((t.deleteItems first).items.any fun i => i.id == id) =
      (!first.contains id && t.items.any fun i => i.id == id) := by
    rw [Bool.eq_iff_iff]
    simp only [List.any_eq_true, mem_deleteItems_items, Bool.and_eq_true, Bool.not_eq_true',
      List.contains_eq_mem, decide_eq_false_iff_not, beq_iff_eq]
    constructor
    · rintro ⟨i, ⟨row, kept⟩, rfl⟩
      exact ⟨kept, i, row, rfl⟩
    · rintro ⟨kept, i, row, rfl⟩
      exact ⟨i, ⟨row, kept⟩, rfl⟩
  rw [isMeant, isMeant, isMeant, present, List.contains_append]
  cases first.contains id <;> simp

/-- Items that are deleted one after the other may as well be deleted together. -/
theorem deleteItems_append (t : Tables) (first second : List Int) :
    (t.deleteItems first).deleteItems second = t.deleteItems (first ++ second) := by
  rw [deleteItems_eq (t.deleteItems first), deleteItems_eq t (first ++ second)]
  simp only [isMeant_append, Bool.not_or, deleteItems_eq t first, List.filter_filter]
  simp only [Bool.and_comm]

/-- The number of links and custom values. -/
def references (t : Tables) : Nat := t.links.length + t.customs.length

theorem references_dropLinksWithoutTag (t : Tables) :
    t.dropLinksWithoutTag.references + t.linksWithoutTag.length = t.references := by
  have all := List.length_eq_length_filter_add (l := t.links) fun l => t.hasTag l.tag
  unfold references dropLinksWithoutTag linksWithoutTag
  dsimp only at all ⊢
  omega

theorem references_dropLinksWithoutItem (t : Tables) :
    t.dropLinksWithoutItem.references + t.linksWithoutItem.length = t.references := by
  have all := List.length_eq_length_filter_add (l := t.links) fun l => t.hasItem l.item
  unfold references dropLinksWithoutItem linksWithoutItem
  dsimp only at all ⊢
  omega

theorem references_dropStrayCustoms (t : Tables) :
    t.dropStrayCustoms.references + t.strayCustoms.length = t.references := by
  have all := List.length_eq_length_filter_add (l := t.customs) fun c => t.isAnchored c
  unfold references dropStrayCustoms strayCustoms
  dsimp only at all ⊢
  omega

end Tables

namespace Verifier

/-! ## Carrying out what was agreed to -/

namespace Problem

/-- The item whose row goes when the problem is repaired. -/
def item? : Problem → Option Int
  | missingFile item _ _ | wrongChecksum item _ | unreadable item _ => some item
  | _ => none

/-- The file that is removed when the problem is repaired. -/
def file? : Problem → Option String
  | unknownFile path | wrongExtension path _ | wrongChecksum _ path | unreadable _ path => some path
  | _ => none

/-- The directory that is removed when the problem is repaired. -/
def directory? : Problem → Option String
  | staleTmpDir path => some path
  | _ => none

/-- The files without what is removed when the problem is repaired. -/
def clear (p : Problem) (fs : Files) : Except FileError Files :=
  match p with
  | unknownFile path | wrongExtension path _ | wrongChecksum _ path | unreadable _ path =>
    fs.remove path
  | staleTmpDir path => fs.removeTree path
  | _ => .ok fs

/-- The tables after the repair. -/
def change (p : Problem) (t : Tables) : Tables :=
  match p with
  | missingFile item _ _ | wrongChecksum item _ | unreadable item _ => t.deleteItems [item]
  | linksWithoutTag _ => t.dropLinksWithoutTag
  | linksWithoutItem _ => t.dropLinksWithoutItem
  | strayCustomValues _ => t.dropStrayCustoms
  | wrongCounts _ => t.recount
  | _ => t

/-- The number of links and custom values that are dropped for lack of what they refer to. -/
def dropped (p : Problem) (t : Tables) : Nat :=
  match p with
  | linksWithoutTag _ => t.linksWithoutTag.length
  | linksWithoutItem _ => t.linksWithoutItem.length
  | strayCustomValues _ => t.strayCustoms.length
  | _ => 0

end Problem

/-- What repairs have come to, with the problems that have been settled and the number of links and
custom values that were dropped. -/
structure Work where
  tables : Tables
  files : Files
  settled : List Problem := []
  dropped : Nat := 0

/-- Settles a problem if that was agreed to and what has to be removed can be removed. -/
def Work.take (s : Work) (q : Problem × Answer) : Work :=
  if q.2.isYes then
    match q.1.clear s.files with
    | .ok files => ⟨q.1.change s.tables, files, s.settled ++ [q.1],
      s.dropped + q.1.dropped s.tables⟩
    | .error _ => s
  else s

/-- Settles one problem after the other, in the order of the questions. -/
def carryOut (t : Tables) (fs : Files) (qs : List (Problem × Answer)) : Work :=
  qs.foldl Work.take ⟨t, fs, [], 0⟩

/-- The numbers of items, files, directories and references that were removed. -/
def Report.removals (report : Report) : Nat × Nat × Nat × Nat :=
  (report.itemsRemoved, report.filesRemoved, report.dirsRemoved, report.linksRemoved)

/-- The numbers of items, files and directories that are removed with some problems. -/
def tally (ps : List Problem) : Nat × Nat × Nat :=
  ((ps.filterMap Problem.item?).length, (ps.filterMap Problem.file?).length,
    (ps.filterMap Problem.directory?).length)

theorem tally_append (ps ps' : List Problem) : tally (ps ++ ps') =
    ((tally ps).1 + (tally ps').1, (tally ps).2.1 + (tally ps').2.1,
      (tally ps).2.2 + (tally ps').2.2) := by
  simp [tally, List.filterMap_append]

theorem tally_append_singleton (ps : List Problem) (p : Problem) :
    tally (ps ++ [p]) = ((tally ps).1 + p.item?.toList.length,
      (tally ps).2.1 + p.file?.toList.length, (tally ps).2.2 + p.directory?.toList.length) := by
  rw [tally_append]
  cases p <;> rfl

/-- The numbers that belong into a report. -/
def Work.removals (s : Work) : Nat × Nat × Nat × Nat :=
  ((tally s.settled).1, (tally s.settled).2.1, (tally s.settled).2.2, s.dropped)

theorem carryOut_append_singleton (t : Tables) (fs : Files) (qs : List (Problem × Answer))
    (q : Problem × Answer) : carryOut t fs (qs ++ [q]) = (carryOut t fs qs).take q := by
  rw [carryOut, List.foldl_append]
  rfl

/-! ## A run and its questions -/

/-- What repairs should have come to in a run. -/
def Run.work (t : Tables) (fs : Files) (r : Run) : Work :=
  carryOut t fs (questions r.history).reverse

/-- A run has done what was agreed to since it had certain tables and files, and nothing else. -/
structure Faithful (t : Tables) (fs : Files) (r : Run) : Prop where
  tables : r.tables = (r.work t fs).tables
  files : r.files = (r.work t fs).files
  removals : r.report.removals = (r.work t fs).removals
  untouched : (r.work t fs).settled = [] → r.edited = false

/-- A repair has been tried. -/
structure Settles (p : Problem) (r r' : Run) : Prop where
  history : r'.history = r.history
  done : ∀ files, p.clear r.files = .ok files → r'.files = files ∧
    r'.tables = p.change r.tables ∧ r'.report.removals = (r.report.itemsRemoved + p.item?.toList.length,
      r.report.filesRemoved + p.file?.toList.length,
      r.report.dirsRemoved + p.directory?.toList.length, r.report.linksRemoved + p.dropped r.tables)
  failed : ∀ e, p.clear r.files = .error e → r' = r

section Runs

variable {lib : Library} {observer : Observer} {t : Tables} {fs : Files} {r r' : Run} {p : Problem}

variable (t fs) in
theorem Run.work_congr (asked : questions r'.history = questions r.history) :
    r'.work t fs = r.work t fs := by
  rw [Run.work, asked]
  rfl

theorem removals_of_talk {allowed : Event → Prop} (talk : Talk observer allowed r r') :
    r'.report.removals = r.report.removals := by
  rw [talk.report]
  rfl

namespace Faithful

theorem congr (faithful : Faithful t fs r) (asked : questions r'.history = questions r.history)
    (tables : r'.tables = r.tables) (files : r'.files = r.files)
    (removals : r'.report.removals = r.report.removals) (edited : r'.edited = r.edited) :
    Faithful t fs r' := by
  have work := Run.work_congr t fs asked
  refine ⟨?_, ?_, ?_, ?_⟩
  · rw [work, tables, faithful.tables]
  · rw [work, files, faithful.files]
  · rw [work, removals, faithful.removals]
  · rw [work, edited]
    exact faithful.untouched

theorem advance (faithful : Faithful t fs r) (percent : Nat) : Faithful t fs (r.advance percent) :=
  faithful.congr (questions_advance r percent) (advance_tables r percent) (advance_files r percent)
    (by rw [advance_report]) (advance_edited r percent)

theorem nextStage (faithful : Faithful t fs r) (name : String) : Faithful t fs (r.nextStage name) :=
  faithful.congr rfl rfl rfl rfl rfl

/-- A problem has come up, and if somebody has agreed, its repair has been tried. -/
theorem offer {repair : Step} (faithful : Faithful t fs r)
    (repairs : ∀ r₁ r₂, r₁.tables = r.tables → repair r₁ = .ok r₂ → Settles p r₁ r₂)
    (done : r.offer observer p repair = .ok r') : Faithful t fs r' := by
  have talk := talk_ask observer r p
  obtain ⟨a, answer, asked⟩ := questions_ask observer p r
  have next {r₁ : Run} (history : r₁.history = (r.ask observer p).2.history) :
      r₁.work t fs = (r.work t fs).take (p, a) := by
    rw [Run.work, history, asked, List.reverse_cons, carryOut_append_singleton]
    rfl
  rcases offer_cases done with ⟨yes, repaired⟩ | ⟨no, rfl⟩
  · rw [yes] at answer
    have settles := repairs _ r' talk.tables repaired
    have work := next settles.history
    have removals := removals_of_talk talk
    rw [Work.take, if_pos (show (p, a).2.isYes = true from answer.symm)] at work
    dsimp only at work
    rw [← faithful.files, ← talk.files] at work
    cases cleared : p.clear (r.ask observer p).2.files with
    | ok files =>
        obtain ⟨filesLeft, tablesLeft, counted⟩ := settles.done files cleared
        rw [cleared] at work
        dsimp only at work
        refine ⟨?_, ?_, ?_, ?_⟩
        · rw [work, tablesLeft, talk.tables, faithful.tables]
        · rw [work, filesLeft]
        · have before := removals.trans faithful.removals
          simp only [Report.removals, Work.removals, Prod.mk.injEq] at before
          obtain ⟨items, files', directories, links⟩ := before
          rw [work, counted, Work.removals, tally_append_singleton, items, files', directories, links,
            talk.tables, faithful.tables]
        · rw [work]
          intro none'
          simp at none'
    | error e =>
        rw [cleared] at work
        dsimp only at work
        rw [settles.failed e cleared] at work ⊢
        refine ⟨?_, ?_, ?_, ?_⟩
        · rw [work, talk.tables, faithful.tables]
        · rw [work, talk.files, faithful.files]
        · rw [work, removals, faithful.removals]
        · rw [work, talk.edited]
          exact faithful.untouched
  · rw [no] at answer
    have work := next rfl
    rw [Work.take, if_neg (by simp [← answer])] at work
    refine ⟨?_, ?_, ?_, ?_⟩
    · rw [work, talk.tables, faithful.tables]
    · rw [work, talk.files, faithful.files]
    · rw [work, removals_of_talk talk, faithful.removals]
    · rw [work, talk.edited]
      exact faithful.untouched

end Faithful

/-! ## The second stage -/

theorem Problem.IsInvalid.file? {item : Int} {path : String} (invalid : p.IsInvalid item path) :
    p.file? = some path := by
  cases invalid <;> rfl

/-- Removing a file settles every problem that is repaired by this alone. -/
theorem settles_removeUnknown {path : String} (clears : ∀ fs, p.clear fs = fs.remove path)
    (changes : ∀ t, p.change t = t ∧ p.dropped t = 0)
    (counts : p.item? = none ∧ p.file? = some path ∧ p.directory? = none)
    (done : removeUnknown path r = .ok r') : Settles p r r' := by
  cases done
  refine ⟨removeFile_history path r, ?_, ?_⟩
  · intro files cleared
    rw [clears] at cleared
    simp only [Run.removeFile, cleared, Run.note, changes, counts, Report.removals]
    simp
  · intro e failed
    rw [clears] at failed
    simp [Run.removeFile, failed]

theorem settles_removeDirectory (path : String) (r : Run) :
    Settles (.staleTmpDir path) r (r.removeDirectory path) := by
  refine ⟨removeDirectory_history path r, ?_, ?_⟩
  · intro files cleared
    change r.files.removeTree path = .ok files at cleared
    simp only [Run.removeDirectory, cleared, Run.note, Problem.change, Report.removals, Problem.item?,
      Problem.file?, Problem.directory?, Problem.dropped]
    simp
  · intro e failed
    change r.files.removeTree path = .error e at failed
    simp [Run.removeDirectory, failed]

/-- Removing a file with its item settles a problem with its content. -/
theorem settles_removeInvalid {item : Int} {path : String} (invalid : p.IsInvalid item path)
    (done : removeInvalid lib item path r = .ok r') : Settles p r r' := by
  refine ⟨(silent_removeInvalid item path).history done, ?_, ?_⟩
  · intro files cleared
    replace cleared : r.files.remove path = .ok files := by
      cases invalid <;> exact cleared
    unfold removeInvalid Run.removeFile at done
    rw [cleared] at done
    obtain rfl := edit_ok done
    cases invalid <;> exact ⟨rfl, rfl, rfl⟩
  · intro e failed
    replace failed : r.files.remove path = .error e := by
      cases invalid <;> exact failed
    unfold removeInvalid Run.removeFile at done
    rw [failed] at done
    cases done
    rfl

theorem Visit.Finds.settles {v : Visit} {gone : List Int} {repair : Step}
    (finds : v.Finds lib t fs p gone repair) (done : repair r = .ok r') : Settles p r r' := by
  cases finds with
  | stale =>
      cases done
      exact settles_removeDirectory _ r
  | unknown | misnamed =>
      exact settles_removeUnknown (fun _ => rfl) (fun _ => ⟨rfl, rfl⟩) ⟨rfl, rfl, rfl⟩ done
  | invalid present problem => exact settles_removeInvalid (isInvalid_of_contentProblem? problem) done

/-- At a visit nothing happens but talk if nothing is wrong. Otherwise there is one offer, and its repair
settles what is wrong. -/
theorem Visit.step_offers {v : Visit} (done : v.step lib observer r = .ok r') :
    (questions r'.history = questions r.history ∧ r'.tables = r.tables ∧ r'.files = r.files ∧
        r'.report = r.report ∧ r'.edited = r.edited) ∨
      ∃ p gone repair, v.finding? lib r.tables r.files = some (p, gone) ∧
        r.offer observer p repair = .ok r' ∧
        ∀ r₁ r₂, repair r₁ = .ok r₂ → Settles p r₁ r₂ := by
  rcases step_cases done with ⟨-, percent, rfl⟩ | ⟨p, gone, repair, found, finds, offered⟩
  · exact .inl ⟨questions_advance r percent, advance_tables r percent, advance_files r percent,
      advance_report r percent, advance_edited r percent⟩
  · exact .inr ⟨p, gone, repair, found, offered, fun r₁ r₂ => finds.settles⟩

theorem Faithful.step {v : Visit} (faithful : Faithful t fs r) (done : v.step lib observer r = .ok r') :
    Faithful t fs r' := by
  obtain ⟨asked, tables, files, report, edited⟩ | ⟨p, gone, repair, -, offered, settles⟩ :=
    Visit.step_offers done
  · exact faithful.congr asked tables files (by rw [report]) edited
  · exact faithful.offer (fun r₁ r₂ _ => settles r₁ r₂) offered

theorem Faithful.runVisits {vs : List Visit} (faithful : Faithful t fs r)
    (done : runVisits lib observer vs r = .ok r') : Faithful t fs r' :=
  runVisits_steps (Faithful t fs) faithful (fun _ _ _ _ _ step before => before.step step) done

/-! ## The first stage -/

/-- The items whose removal was agreed to. -/
def agreedItems (qs : List (Problem × Answer)) : List Int :=
  ((qs.filter (·.2.isYes)).map (·.1)).filterMap Problem.item?

/-- All questions are about items without a file. -/
def AreMissing (qs : List (Problem × Answer)) : Prop :=
  ∀ q ∈ qs, ∃ item name path, q.1 = .missingFile item name path

/-- Removals of items without a file always succeed. -/
theorem take_missing {qs : List (Problem × Answer)} (missing : AreMissing qs) (s : Work) :
    qs.foldl Work.take s = ⟨s.tables.deleteItems (agreedItems qs), s.files,
      s.settled ++ (qs.filter (·.2.isYes)).map (·.1), s.dropped⟩ := by
  induction qs generalizing s with
  | nil => simp [agreedItems, Visit.deleteItems_nil]
  | cons q qs inductionHypothesis =>
      obtain ⟨⟨item, name, path, about⟩, others⟩ := List.forall_mem_cons.mp missing
      obtain ⟨p, a⟩ := q
      obtain rfl : p = .missingFile item name path := about
      rw [List.foldl_cons, inductionHypothesis others]
      by_cases yes : a.isYes = true
      · simp [Work.take, yes, Problem.clear, Problem.change, Problem.item?, Problem.dropped,
          agreedItems, Tables.deleteItems_append]
      · simp [Work.take, yes, agreedItems]

theorem tally_missing {qs : List (Problem × Answer)} (missing : AreMissing qs) :
    tally ((qs.filter (·.2.isYes)).map (·.1)) = ((agreedItems qs).length, 0, 0) := by
  have only : ∀ p ∈ (qs.filter (·.2.isYes)).map (·.1), p.file? = none ∧ p.directory? = none := by
    intro p membership
    obtain ⟨q, isAgreed, rfl⟩ := List.mem_map.mp membership
    obtain ⟨item, name, path, about⟩ := missing q (List.mem_filter.mp isAgreed).1
    rw [about]
    exact ⟨rfl, rfl⟩
  simp [tally, agreedItems, List.filterMap_eq_nil_iff.mpr fun p membership => (only p membership).1,
    List.filterMap_eq_nil_iff.mpr fun p membership => (only p membership).2]

/-- Items are collected for which somebody has agreed. -/
theorem questions_foldl_checkItem (lib : Library) (observer : Observer) (total : Nat)
    (entries : List (Item × Nat)) (removed : List Int) (r : Run) :
    ∃ qs, AreMissing qs ∧
      questions (entries.foldl (checkItem lib observer total) (removed, r)).2.history =
        qs.reverse ++ questions r.history ∧
      (entries.foldl (checkItem lib observer total) (removed, r)).1 = removed ++ agreedItems qs := by
  induction entries generalizing removed r with
  | nil => exact ⟨[], by simp [AreMissing], rfl, by simp [agreedItems]⟩
  | cons entry entries inductionHypothesis =>
      obtain ⟨i, number⟩ := entry
      rw [List.foldl_cons, checkItem]
      split
      · obtain ⟨qs, missing, asked, agreed⟩ :=
          inductionHypothesis removed (r.advance (100 * number / max total 1))
        rw [questions_advance] at asked
        exact ⟨qs, missing, asked, agreed⟩
      · let p : Problem := .missingFile i.id ((i.text? .name).getD "") (itemPath lib i)
        obtain ⟨a, answer, question⟩ := questions_ask observer p
          (r.advance (100 * number / max total 1))
        rw [questions_advance] at question
        have goesOn (removed' : List Int) (r' : Run)
            (same : r' = ((r.advance (100 * number / max total 1)).ask observer p).2)
            (more : removed' = removed ++ agreedItems [(p, a)]) :
            ∃ qs, AreMissing qs ∧
              questions (entries.foldl (checkItem lib observer total) (removed', r')).2.history =
                qs.reverse ++ questions r.history ∧
              (entries.foldl (checkItem lib observer total) (removed', r')).1 =
                removed ++ agreedItems qs := by
          obtain ⟨qs, missing, asked, agreed⟩ := inductionHypothesis removed' r'
          refine ⟨(p, a) :: qs, List.forall_mem_cons.mpr ⟨⟨_, _, _, rfl⟩, missing⟩, ?_, ?_⟩
          · rw [asked, same, question]
            simp
          · rw [agreed, more, List.append_assoc]
            simp only [agreedItems, ← List.filterMap_append, ← List.map_append, ← List.filter_append]
            rfl
        split
        · rename_i r' yes
          rw [yes] at answer goesOn
          apply goesOn _ _ rfl
          simp [agreedItems, ← answer, p, Problem.item?]
        · rename_i r' no
          rw [no] at answer goesOn
          apply goesOn _ _ rfl
          simp [agreedItems, ← answer]

/-- The first stage asks about items without a file, and removes those for which somebody has agreed. -/
theorem questions_afterCounter (lib : Library) (observer : Observer) (r : Run) :
    ∃ qs, AreMissing qs ∧
      questions (afterCounter lib observer r).history = qs.reverse ++ questions r.history ∧
      (afterItems lib observer r).1 = agreedItems qs := by
  have rooted : questions (afterRoot r).history = questions r.history := by
    unfold afterRoot
    dsimp only
    split <;> rfl
  have counted (counter : Option Int) (items : Nat) (r : Run) :
      questions (checkCounter counter items r).history = questions r.history := by
    unfold checkCounter
    split
    · split <;> rfl
    · rfl
  obtain ⟨qs, missing, asked, agreed⟩ := questions_foldl_checkItem lib observer
    (itemsInOrder r.tables).length ((itemsInOrder r.tables).zipIdx 1) [] (afterRoot r)
  refine ⟨qs, missing, ?_, agreed⟩
  rw [rooted] at asked
  rw [afterCounter, counted]
  exact asked

theorem removeItems_eq_ok {ids : List Int} (done : removeItems lib ids r = .ok r') :
    r'.history = r.history ∧ r'.files = r.files ∧ r'.tables = r.tables.deleteItems ids ∧
      r'.report.removals = (r.report.itemsRemoved + ids.length, r.report.filesRemoved,
        r.report.dirsRemoved, r.report.linksRemoved) ∧
      (ids = [] → r'.edited = r.edited) := by
  unfold removeItems at done
  split at done
  · rename_i none'
    obtain rfl : ids = [] := by simpa using none'
    cases done
    exact ⟨rfl, rfl, (Visit.deleteItems_nil _).symm, rfl, fun _ => rfl⟩
  · rename_i some'
    obtain rfl := edit_ok done
    exact ⟨rfl, rfl, rfl, rfl, fun none' => absurd none' (by simpa using some')⟩

theorem Faithful.checkItems (faithful : Faithful t fs r)
    (done : checkItems lib observer r = .ok r') : Faithful t fs r' := by
  obtain ⟨qs, missing, asked, agreed⟩ := questions_afterCounter lib observer r
  have talk := (talk_afterRoot observer r).trans ((foldl_checkItem lib observer r.tables
    (itemsInOrder r.tables).length ((itemsInOrder r.tables).zipIdx 1) [] (afterRoot_calm r)).1.trans
      (talk_afterCounter lib observer r))
  have removals := removals_of_talk talk
  rw [checkItems_bind, agreed] at done
  obtain ⟨r₁, removed, last⟩ := ok_of_bind done
  cases last
  apply Faithful.advance
  obtain ⟨history, files, tables, counted, edited⟩ := removeItems_eq_ok removed
  have work : r₁.work t fs = ⟨(r.work t fs).tables.deleteItems (agreedItems qs), (r.work t fs).files,
      (r.work t fs).settled ++ (qs.filter (·.2.isYes)).map (·.1), (r.work t fs).dropped⟩ := by
    rw [Run.work, history, asked, List.reverse_append, List.reverse_reverse, carryOut,
      List.foldl_append, take_missing missing]
    rfl
  refine ⟨?_, ?_, ?_, ?_⟩
  · rw [work, tables, talk.tables, faithful.tables]
  · rw [work, files, talk.files, faithful.files]
  · have before := removals.trans faithful.removals
    simp only [Report.removals, Work.removals, Prod.mk.injEq] at before
    obtain ⟨items, files', directories, links⟩ := before
    rw [work, counted, Work.removals, tally_append, tally_missing missing, items, files', directories,
      links]
    rfl
  · rw [work]
    intro none'
    obtain ⟨before, now⟩ := List.append_eq_nil_iff.mp none'
    have unasked : agreedItems qs = [] := by rw [agreedItems, now, List.filterMap_nil]
    rw [edited unasked, talk.edited]
    exact faithful.untouched before

/-! ## The third stage -/

/-- Dropping rows that refer to something that is not there settles the problem. -/
theorem Faithful.offerRemoval {count : Nat} (faithful : Faithful t fs r)
    (reference : p.kind = .fixBrokenTagAssignments ∨ p.kind = .fixBrokenCustomValues)
    (counts : p.dropped r.tables = count)
    (done : offerRemoval lib observer count p p.change r = .ok r') : Faithful t fs r' := by
  unfold Verifier.offerRemoval at done
  split at done
  · cases done
    exact faithful
  · apply faithful.offer _ done
    intro r₁ r₂ same repaired
    obtain rfl := edit_ok repaired
    refine ⟨rfl, ?_, ?_⟩
    · intro files cleared
      rw [← same] at counts
      cases p <;> simp only [Problem.kind, reduceCtorEq, or_self] at reference <;>
        exact ⟨Except.ok.inj cleared, rfl, by rw [← counts]; rfl⟩
    · intro e failed
      cases p <;> simp only [Problem.kind, reduceCtorEq, or_self] at reference <;>
        cases failed

theorem recount_ok (done : recount lib r = .ok r') :
    r'.tables = r.tables.recount ∧ r'.files = r.files ∧ r'.history = r.history ∧
      r'.report = { r.report with tagCountsFixed := true } := by
  obtain rfl := edit_ok done
  exact ⟨rfl, rfl, rfl, rfl⟩

/-- What comes of checking the counters: they are counted anew without a question if items were removed,
and otherwise after a question that is asked if one of them is wrong. -/
inductive CountsTold (r r' : Run) : Prop where
  | counted : 0 < r.report.itemsRemoved → r'.tables = r.tables.recount →
      r'.report = { r.report with tagCountsFixed := true } → r'.history = r.history →
      CountsTold r r'
  | right : r.tables.wrongCounts = [] → r' = r → CountsTold r r'
  | agreed {a : Answer} : r.report.itemsRemoved = 0 → a.isYes = true →
      r'.tables = r.tables.recount → r'.report.tagCountsFixed = true →
      questions r'.history = (.wrongCounts r.tables.wrongCounts, a) :: questions r.history →
      CountsTold r r'
  | refused {a : Answer} : r.tables.wrongCounts ≠ [] → a.isYes = false → r'.tables = r.tables →
      r'.report.tagCountsFixed = r.report.tagCountsFixed →
      questions r'.history = (.wrongCounts r.tables.wrongCounts, a) :: questions r.history →
      CountsTold r r'

theorem countsTold (done : checkCounts lib observer r = .ok r') :
    CountsTold r r' ∧ r'.files = r.files ∧ r'.report.removals = r.report.removals := by
  let p : Problem := .wrongCounts r.tables.wrongCounts
  have talk := talk_ask observer r p
  obtain ⟨a, answer, asked⟩ := questions_ask observer p r
  unfold checkCounts at done
  split at done
  · rename_i removed
    obtain ⟨tables, files, history, report⟩ := recount_ok done
    exact ⟨.counted removed tables report history, files, by rw [report]; rfl⟩
  · rename_i unremoved
    split at done
    · rename_i right
      cases done
      exact ⟨.right (by simpa using right) rfl, rfl, rfl⟩
    · rename_i wrong
      rcases offer_cases done with ⟨yes, repaired⟩ | ⟨no, rfl⟩
      · rw [yes] at answer
        obtain ⟨tables, files, history, report⟩ := recount_ok repaired
        refine ⟨.agreed (by omega) answer.symm ?_ ?_ ?_, ?_, ?_⟩
        · rw [tables, talk.tables]
        · rw [report]
        · rw [history]
          exact asked
        · rw [files, talk.files]
        · rw [report, ← removals_of_talk talk]
          rfl
      · rw [no] at answer
        refine ⟨.refused ?_ answer.symm talk.tables ?_ asked, talk.files, removals_of_talk talk⟩
        · simpa using wrong
        · rw [talk.report]

/-- A run has done what was agreed to, and has counted anew if items were removed. -/
structure Carried (t : Tables) (fs : Files) (r : Run) : Prop where
  tables : r.tables = if r.report.itemsRemoved = 0 then (r.work t fs).tables
    else (r.work t fs).tables.recount
  files : r.files = (r.work t fs).files
  removals : r.report.removals = (r.work t fs).removals
  untouched : (r.work t fs).settled = [] → r.edited = false

theorem Faithful.carried (faithful : Faithful t fs r) (kept : r.report.itemsRemoved = 0) :
    Carried t fs r :=
  ⟨by rw [if_pos kept, faithful.tables], faithful.files, faithful.removals, faithful.untouched⟩

theorem Faithful.checkCounts (faithful : Faithful t fs r)
    (done : checkCounts lib observer r = .ok r') : Carried t fs r' := by
  have removals := (countsTold done).2.2
  unfold Verifier.checkCounts at done
  split at done
  · rename_i removed
    obtain ⟨tables, files, history, report⟩ := recount_ok done
    have work : r'.work t fs = r.work t fs := Run.work_congr t fs (by rw [history])
    refine ⟨?_, ?_, ?_, ?_⟩
    · rw [if_neg (by rw [report]; exact Nat.ne_of_gt removed), work, tables, faithful.tables]
    · rw [work, files, faithful.files]
    · rw [work, removals, faithful.removals]
    · rw [work]
      intro none'
      have counted := congrArg Prod.fst faithful.removals
      rw [Work.removals, none'] at counted
      change r.report.itemsRemoved = 0 at counted
      omega
  · rename_i unremoved
    have kept : r'.report.itemsRemoved = 0 := by
      have same := congrArg Prod.fst removals
      change r'.report.itemsRemoved = r.report.itemsRemoved at same
      omega
    split at done
    · cases done
      exact faithful.carried kept
    · refine (faithful.offer ?_ done).carried kept
      rintro r₁ r₂ - repaired
      obtain ⟨tables, files, history, report⟩ := recount_ok repaired
      refine ⟨history, ?_, ?_⟩
      · rintro files' ⟨⟩
        exact ⟨files, tables, by rw [report]; rfl⟩
      · rintro e ⟨⟩

theorem Carried.advance (carried : Carried t fs r) (percent : Nat) :
    Carried t fs (r.advance percent) := by
  have work := Run.work_congr t fs (questions_advance r percent)
  refine ⟨?_, ?_, ?_, ?_⟩
  · rw [work, advance_tables, advance_report, carried.tables]
  · rw [work, advance_files, carried.files]
  · rw [work, advance_report, carried.removals]
  · rw [work, advance_edited]
    exact carried.untouched

theorem Faithful.checkLinks (faithful : Faithful t fs r)
    (done : checkLinks lib observer r = .ok r') : Carried t fs r' := by
  obtain ⟨r₁, r₂, r₃, r₄, tags, items, customs, counts, rfl⟩ := checkLinks_parts done
  have first : Faithful t fs r₁ := by
    apply ((faithful.nextStage _).advance 25).offerRemoval (.inl rfl) _ tags
    rw [advance_tables]
    rfl
  have second : Faithful t fs r₂ := by
    apply (first.advance 50).offerRemoval (.inl rfl) _ items
    rw [advance_tables]
    rfl
  have third : Faithful t fs r₃ := by
    apply (second.advance 75).offerRemoval (.inr rfl) _ customs
    rw [advance_tables]
    rfl
  exact (third.checkCounts counts).advance 100

end Runs

/-! ## Which stage asks what -/

/-- What comes up in the first two stages. -/
def Problem.IsOfStore (p : Problem) : Prop := p.kind = .removeMissingItem ∨ p.kind ∈ removalKinds

/-- From one run to another, questions about certain problems have been asked. -/
def AsksOnly (expected : Problem → Prop) (r r' : Run) : Prop :=
  ∃ qs, questions r'.history = qs ++ questions r.history ∧ ∀ q ∈ qs, expected q.1

section Stages

variable {lib : Library} {observer : Observer} {t : Tables} {fs : Files} {r r' r'' : Run}
  {p : Problem} {expected : Problem → Prop}

theorem Problem.IsOfStore.change_eq (isOfStore : p.IsOfStore) (t : Tables) :
    p.change t = t.deleteItems p.item?.toList := by
  cases p <;> simp [IsOfStore, kind, removalKinds] at isOfStore <;>
    simp [change, item?, Visit.deleteItems_nil]

theorem Problem.IsOfStore.dropped_eq_zero (isOfStore : p.IsOfStore) (t : Tables) :
    p.dropped t = 0 := by
  cases p <;> simp [IsOfStore, kind, removalKinds] at isOfStore <;> rfl

/-- As long as only items and files come up, the tables have lost the items of what was settled. -/
theorem carryOut_of_isOfStore {qs : List (Problem × Answer)} (all : ∀ q ∈ qs, q.1.IsOfStore) :
    (carryOut t fs qs).tables =
        t.deleteItems ((carryOut t fs qs).settled.filterMap Problem.item?) ∧
      (carryOut t fs qs).dropped = 0 := by
  induction qs using List.reverseRecOn with
  | nil => exact ⟨(Visit.deleteItems_nil t).symm, rfl⟩
  | append_singleton qs q inductionHypothesis =>
      obtain ⟨tables, dropped⟩ := inductionHypothesis fun q earlier => all q (by simp [earlier])
      have isOfStore := all q (by simp)
      rw [carryOut_append_singleton, Work.take]
      split
      · split
        · dsimp only
          rw [isOfStore.change_eq, isOfStore.dropped_eq_zero, tables, Tables.deleteItems_append,
            List.filterMap_append, dropped]
          refine ⟨?_, rfl⟩
          cases found : q.1.item? <;> simp [found]
        · exact ⟨tables, dropped⟩
      · exact ⟨tables, dropped⟩

/-- Other problems take no item along. -/
theorem items_of_not_isOfStore {qs : List (Problem × Answer)} (none' : ∀ q ∈ qs, ¬q.1.IsOfStore)
    (s : Work) :
    (qs.foldl Work.take s).settled.filterMap Problem.item? = s.settled.filterMap Problem.item? := by
  induction qs generalizing s with
  | nil => rfl
  | cons q qs inductionHypothesis =>
      obtain ⟨other, others⟩ := List.forall_mem_cons.mp none'
      rw [List.foldl_cons, inductionHypothesis others, Work.take]
      have noItem : q.1.item? = none := by
        cases same : q.1 <;> rw [same] at other <;>
          simp [Problem.IsOfStore, Problem.kind, removalKinds] at other <;> rfl
      split
      · split
        · simp [noItem]
        · rfl
      · rfl

theorem AsksOnly.of_eq (same : questions r'.history = questions r.history) : AsksOnly expected r r' :=
  ⟨[], same, by simp⟩

theorem AsksOnly.of_question {a : Answer} (isExpected : expected p)
    (asked : questions r'.history = (p, a) :: questions r.history) : AsksOnly expected r r' :=
  ⟨[(p, a)], asked, by simpa using isExpected⟩

theorem AsksOnly.trans (first : AsksOnly expected r r') (second : AsksOnly expected r' r'') :
    AsksOnly expected r r'' := by
  obtain ⟨qs, asked, before⟩ := first
  obtain ⟨qs', asked', after⟩ := second
  refine ⟨qs' ++ qs, by rw [asked', asked, List.append_assoc], ?_⟩
  intro q membership
  obtain new | old := List.mem_append.mp membership
  · exact after q new
  · exact before q old

/-- What can be said of links and custom values in the course of the third stage. -/
structure Relinked (r r' : Run) : Prop where
  asks : AsksOnly (¬·.IsOfStore) r r'
  references : r'.tables.references + r'.report.linksRemoved =
    r.tables.references + r.report.linksRemoved
  removed : r'.report.itemsRemoved = r.report.itemsRemoved

namespace Relinked

theorem trans (first : Relinked r r') (second : Relinked r' r'') : Relinked r r'' :=
  ⟨first.asks.trans second.asks, second.references.trans first.references,
    second.removed.trans first.removed⟩

theorem nextStage (r : Run) (name : String) : Relinked r (r.nextStage name) :=
  ⟨.of_eq rfl, rfl, rfl⟩

theorem advance (r : Run) (percent : Nat) : Relinked r (r.advance percent) :=
  ⟨.of_eq (questions_advance r percent), by rw [advance_tables, advance_report],
    by rw [advance_report]⟩

theorem offerRemoval {count : Nat} {change : Tables → Tables} (other : ¬p.IsOfStore)
    (counts : (change r.tables).references + count = r.tables.references)
    (done : offerRemoval lib observer count p change r = .ok r') : Relinked r r' := by
  unfold Verifier.offerRemoval at done
  split at done
  · cases done
    exact ⟨.of_eq rfl, rfl, rfl⟩
  · have talk := talk_ask observer r p
    obtain ⟨a, answer, asked⟩ := questions_ask observer p r
    rcases offer_cases done with ⟨-, repaired⟩ | ⟨-, rfl⟩
    · obtain rfl := edit_ok repaired
      refine ⟨.of_question other asked, ?_, ?_⟩
      · rw [← talk.tables] at counts ⊢
        simp only [Run.note]
        rw [talk.report]
        dsimp only
        omega
      · simp only [Run.note]
        rw [talk.report]
    · exact ⟨.of_question other asked, by rw [talk.tables, talk.report], by rw [talk.report]⟩

theorem checkCounts (done : checkCounts lib observer r = .ok r') : Relinked r r' := by
  obtain ⟨told, -, removals⟩ := countsTold done
  have items : r'.report.itemsRemoved = r.report.itemsRemoved :=
    congrArg (fun counts => counts.1) removals
  have links : r'.report.linksRemoved = r.report.linksRemoved :=
    congrArg (fun counts => counts.2.2.2) removals
  have other (tags : List (String × Int × Nat)) : ¬(Problem.wrongCounts tags).IsOfStore := by
    simp [Problem.IsOfStore, Problem.kind, removalKinds]
  have recounted : r.tables.recount.references = r.tables.references := by
    simp [Tables.references]
  cases told with
  | counted _ tables _ history =>
      exact ⟨.of_eq (by rw [history]), by rw [tables, links, recounted], items⟩
  | right _ same => exact ⟨.of_eq (by rw [same]), by rw [same], items⟩
  | agreed _ _ tables _ asked =>
      exact ⟨.of_question (other _) asked, by rw [tables, links, recounted], items⟩
  | refused _ _ tables _ asked =>
      exact ⟨.of_question (other _) asked, by rw [tables, links], items⟩

theorem checkLinks (done : checkLinks lib observer r = .ok r') : Relinked r r' := by
  obtain ⟨r₁, r₂, r₃, r₄, tags, items, customs, counts, rfl⟩ := checkLinks_parts done
  have first := ((Relinked.nextStage r "Checking item tags").trans (.advance _ 25)).trans
    (.offerRemoval (by simp [Problem.IsOfStore, Problem.kind, removalKinds])
      (by rw [advance_tables]; exact r.tables.references_dropLinksWithoutTag) tags)
  have second := (Relinked.advance r₁ 50).trans
    (.offerRemoval (by simp [Problem.IsOfStore, Problem.kind, removalKinds])
      (by rw [advance_tables]; exact r₁.tables.references_dropLinksWithoutItem) items)
  have third := (Relinked.advance r₂ 75).trans
    (.offerRemoval (by simp [Problem.IsOfStore, Problem.kind, removalKinds])
      (by rw [advance_tables]; exact r₂.tables.references_dropStrayCustoms) customs)
  exact (((first.trans second).trans third).trans (.checkCounts counts)).trans (.advance r₄ 100)

end Relinked

theorem kind_of_finding? {v : Visit} {gone : List Int} (found : v.finding? lib t fs = some (p, gone)) :
    p.kind ∈ removalKinds := by
  obtain ⟨repair, finds⟩ := Visit.finds_of_finding? found
  exact finds.kind

/-- What comes up before the third stage is about items without a file, or is found at a visit. -/
theorem Parts.asked {w : World} {place : Location} {r₁ r₂ r₃ : Run}
    (parts : Parts lib observer t w place r₁ r₂ r₃)
    (missing : ∀ item name path, expected (.missingFile item name path))
    (found : ∀ p : Problem, p.kind ∈ removalKinds → expected p) :
    Asked expected (r₂.advance 100) := by
  have first : Asked expected r₁ := by
    have keeps : Keeps (Asked expected) (Verifier.checkItems lib observer) :=
      keeps_asked_checkItems missing
    have kept := keeps (startOf t w) (List.forall_mem_nil _)
    rw [parts.items] at kept
    exact kept
  have staged : Asked expected (r₁.nextStage "Checking files") := first
  apply Asked.advance
  exact asked_runVisits staged (fun v _ t fs p gone finds => found p (kind_of_finding? finds))
    parts.visits

end Stages

end Verifier

end SampleLibrary
