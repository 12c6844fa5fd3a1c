import SampleLibrary.Proofs.Files.Changes
import SampleLibrary.Proofs.Storage.Schema
import SampleLibrary.Proofs.Verifier.Outcome

/-!
# Verifying consistent tables

A verification that starts from consistent tables finds nothing wrong with them, whatever it finds among
the files. If it removes items, it counts anew at its end, so that it leaves consistent tables.
-/

namespace SampleLibrary.Verifier

/-- The kinds of problems that only tables can have. -/
def tableKinds : List Kind := [.fixBrokenTagAssignments, .fixBrokenCustomValues, .fixTagCounts]

/-- Something is said to be wrong with the tables: with the counter of the library, or with tags, links
or custom values. -/
inductive BlamesTables : Event → Prop where
  | remarked {q : Progress} (m : Remark) : q.error = some m.message → BlamesTables (.progress q)
  | asked {p : Problem} {a : Answer} : p.kind ∈ tableKinds → BlamesTables (.asked p a)
  | recalled {p : Problem} {a : Answer} : p.kind ∈ tableKinds → BlamesTables (.recalled p a)

/-- The text starts with these characters. -/
def Starts (front : List Char) (s : String) : Prop := front <+: s.toList

theorem Starts.append {front : List Char} {s : String} (starts : Starts front s) (rest : String) :
    Starts front (s ++ rest) := by
  unfold Starts at *
  rw [String.toList_append]
  exact starts.trans (List.prefix_append _ _)

theorem starts_remark (m : Remark) :
    Starts ['M'] m.message ∨ Starts ['I', 't', 'e', 'm', ' ', 'c'] m.message := by
  cases m with
  | missingRootTag =>
      left
      show _ <+: "Missing '/' tag for total item count".toList
      decide
  | wrongItemCounter said really =>
      have start : Starts ['I', 't', 'e', 'm', ' ', 'c'] "Item counter is wrong: says " := by
        show _ <+: "Item counter is wrong: says ".toList
        decide
      exact .inr (((start.append _).append _).append _)

theorem starts_problem {p : Problem} (ofFiles : p.kind ∉ tableKinds) :
    Starts ['U'] p.message ∨ Starts ['F'] p.message ∨
      Starts ['I', 't', 'e', 'm', ' ', '#'] p.message := by
  have file : Starts ['F'] "File " := by
    show _ <+: "File ".toList
    decide
  cases p with
  | missingFile item name path =>
      have start : Starts ['I', 't', 'e', 'm', ' ', '#'] "Item #" := by
        show _ <+: "Item #".toList
        decide
      exact .inr (.inr ((((((start.append _).append _).append _).append _).append _).append _))
  | staleTmpDir path =>
      have start : Starts ['U'] "Unexpected (stale?) temporary directory: " := by
        show _ <+: "Unexpected (stale?) temporary directory: ".toList
        decide
      exact .inl (start.append _)
  | unknownFile path => exact .inr (.inl ((file.append _).append _))
  | wrongExtension path format => exact .inr (.inl (((file.append _).append _).append _))
  | wrongChecksum item path => exact .inr (.inl ((file.append _).append _))
  | unreadable item path => exact .inr (.inl ((file.append _).append _))
  | linksWithoutTag => exact absurd (by simp [Problem.kind, tableKinds]) ofFiles
  | linksWithoutItem => exact absurd (by simp [Problem.kind, tableKinds]) ofFiles
  | strayCustomValues => exact absurd (by simp [Problem.kind, tableKinds]) ofFiles
  | wrongCounts => exact absurd (by simp [Problem.kind, tableKinds]) ofFiles

theorem message_ne {p : Problem} (ofFiles : p.kind ∉ tableKinds) (m : Remark) :
    p.message ≠ m.message := by
  intro same
  have remark := starts_remark m
  rw [← same] at remark
  -- one of two starts of a text starts with the other one
  rcases remark with remark | remark <;>
    rcases starts_problem ofFiles with problem | problem | problem <;>
      rcases List.prefix_or_prefix_of_prefix remark problem with longer | shorter <;>
        first
          | exact absurd longer (by decide)
          | exact absurd shorter (by decide)

theorem not_blames_of_about {p : Problem} (ofFiles : p.kind ∉ tableKinds) {event : Event}
    (about : About p event) : ¬BlamesTables event := by
  intro blames
  cases about with
  | progress error =>
      cases blames with
      | remarked m other =>
          rw [error] at other
          exact message_ne ofFiles m (Option.some.inj other)
  | asked a =>
      cases blames with
      | asked kind => exact ofFiles kind
  | recalled a =>
      cases blames with
      | recalled kind => exact ofFiles kind

theorem not_blames_of_plain {event : Event} (plain : Plain event) : ¬BlamesTables event := by
  intro blames
  cases plain with
  | progress error =>
      cases blames with
      | remarked m other =>
          rw [error] at other
          cases other

/-! ## What holds of a run -/

/-- What holds of a run that has started from consistent tables. -/
structure Sound (t : Tables) (data : Std.ExtTreeMap Nat FileData) (r : Run) : Prop where
  whole : r.tables.Whole
  consistent : r.report.itemsRemoved = 0 → r.tables.Consistent
  unedited : r.edited = false → r.tables = t
  data : r.files.data = data
  calm : r.progress.error = none
  quiet : ∀ event ∈ r.history, ¬BlamesTables event

section Stages

variable {t : Tables} {data : Std.ExtTreeMap Nat FileData} {lib : Library} {observer : Observer}
  {r r' : Run}

theorem Sound.talk (sound : Sound t data r) {allowed : Event → Prop}
    (talk : Talk observer allowed r r') (harmless : ∀ event, allowed event → ¬BlamesTables event) :
    Sound t data r' := by
  refine
    { whole := talk.tables ▸ sound.whole
      consistent := ?_
      unedited := ?_
      data := by rw [talk.files, sound.data]
      calm := talk.calm sound.calm
      quiet := ?_ }
  · rw [talk.report, talk.tables]
    exact sound.consistent
  · rw [talk.edited, talk.tables]
    exact sound.unedited
  · rcases talk.said with ⟨said, history, isAllowed⟩
    intro event membership
    rw [history] at membership
    rcases List.mem_append.mp membership with new | old
    · exact harmless event (isAllowed event new)
    · exact sound.quiet event old

theorem Sound.nextStage (sound : Sound t data r) (name : String) :
    Sound t data (r.nextStage name) :=
  sound.talk (talk_nextStage (fun _ _ => .no) r name) fun _ => not_blames_of_plain

theorem Sound.advance (sound : Sound t data r) (percent : Nat) :
    Sound t data (r.advance percent) :=
  sound.talk (talk_advance (fun _ _ => .no) percent sound.calm) fun _ => not_blames_of_plain

theorem Sound.ask (sound : Sound t data r) {p : Problem} (ofFiles : p.kind ∉ tableKinds) :
    Sound t data (r.ask observer p).2 :=
  sound.talk (talk_ask observer r p) fun _ => not_blames_of_about ofFiles

theorem Sound.deleteItems (sound : Sound t data r) {ids : List Int} (nonempty : ids ≠ []) :
    Sound t data (Run.deleteItems ids r) where
  whole := sound.whole.deleteItems ids
  consistent none' := by
    have some' : 0 < ids.length := List.length_pos_iff.mpr nonempty
    simp only [Run.deleteItems, Run.note] at none'
    omega
  unedited edited := Bool.noConfusion edited
  data := sound.data
  calm := sound.calm
  quiet := sound.quiet

theorem Sound.removeFile (sound : Sound t data r) (path : String) :
    Sound t data (r.removeFile path).2 := by
  unfold Run.removeFile
  split
  · rename_i files removed
    exact ⟨sound.whole, sound.consistent, sound.unedited,
      (Files.remove_data removed).trans sound.data, sound.calm, sound.quiet⟩
  · exact sound

theorem Sound.removeDirectory (sound : Sound t data r) (path : String) :
    Sound t data (r.removeDirectory path) := by
  unfold Run.removeDirectory
  split
  · rename_i files removed
    exact ⟨sound.whole, sound.consistent, sound.unedited,
      (Files.removeTree_data removed).trans sound.data, sound.calm, sound.quiet⟩
  · exact sound

/-- The second stage keeps tables sound. -/
theorem keeps_sound_checkFiles (lib : Library) (observer : Observer) (process : Nat) :
    Keeps (Sound t data) (checkFiles lib observer process) := by
  have apart : ∀ kind ∈ removalKinds, kind ∉ tableKinds := by decide
  exact keeps_checkFiles (fun _ name sound => sound.nextStage name)
    (fun _ percent sound => sound.advance percent)
    (fun _ p ofFiles sound => sound.ask (apart p.kind ofFiles))
    (fun _ path sound => sound.removeFile path) (fun _ path sound => sound.removeDirectory path)
    (fun _ _ nonempty sound => sound.deleteItems nonempty)

/-- The first stage finds the counter of the library right. -/
theorem sound_checkItems (lib : Library) (observer : Observer) (sound : Sound t data r)
    (consistent : r.tables.Consistent) :
    Sound t data (lastRun (checkItems lib observer r)) := by
  rcases checkItems_eq lib observer r with ⟨r', gone, talk, -, -, -, -, equation⟩
  have talked : Sound t data r' := by
    apply sound.talk talk
    intro event said
    cases said with
    | plain plain => exact not_blames_of_plain plain
    | missing about => exact not_blames_of_about (by simp [Problem.kind, tableKinds]) about
    | noRoot missing =>
        have present := Tables.tag?_isSome_iff.mpr consistent.counted.rooted
        simp [missing] at present
    | wrongCounter found wrong =>
        rcases Tables.tag?_eq_some found with ⟨membership, isRoot⟩
        rw [consistent.counted.counts _ membership, Tables.actualCount_root isRoot] at wrong
        exact absurd rfl wrong
  rw [equation]
  exact Keeps.bind (keeps_removeItems (fun _ _ nonempty sound => sound.deleteItems nonempty) gone)
    (.of_ok fun r before => before.advance 100) r' talked

theorem links_anchored (anchored : r.tables.Anchored) :
    r.tables.linksWithoutTag = [] ∧ r.tables.linksWithoutItem = [] ∧ r.tables.strayCustoms = [] := by
  refine ⟨?_, ?_, ?_⟩
  · exact List.filter_eq_nil_iff.mpr fun l membership => by simp [anchored.linkTags l membership]
  · exact List.filter_eq_nil_iff.mpr fun l membership => by simp [anchored.linkItems l membership]
  · exact List.filter_eq_nil_iff.mpr fun c membership => by simp [anchored.customs c membership]

theorem Sound.recount (sound : Sound t data r) :
    Sound t data ({ r with tables := r.tables.recount, edited := true }.note fun report =>
      { report with tagCountsFixed := true }) where
  whole := sound.whole.recount.whole
  consistent _ := sound.whole.recount
  unedited edited := Bool.noConfusion edited
  data := sound.data
  calm := sound.calm
  quiet := sound.quiet

/-- Where nothing is astray, the third stage comes down to the counters. -/
theorem checkLinks_of_anchored (anchored : r.tables.Anchored) :
    checkLinks lib observer r =
      checkCounts lib observer
        ((((r.nextStage "Checking item tags").advance 25).advance 50).advance 75) >>=
          fun r => .ok (r.advance 100) := by
  rcases links_anchored anchored with ⟨tags, items, customs⟩
  have nothing (r : Run) (p : Problem) (change : Tables → Tables) :
      offerRemoval lib observer 0 p change r = .ok r := rfl
  simp only [checkLinks, advance_tables, nextStage_tables, tags, List.length_nil, nothing, items,
    customs, bind, Except.bind, pure, Except.pure]

/-- The third stage finds no link or custom value astray. It counts anew if items are gone, and
otherwise finds every counter right. -/
theorem sound_checkLinks (lib : Library) (observer : Observer) (sound : Sound t data r) :
    Sound t data (lastRun (checkLinks lib observer r)) ∧
      ∀ r', checkLinks lib observer r = .ok r' → r'.tables.Consistent := by
  have before : Sound t data
      ((((r.nextStage "Checking item tags").advance 25).advance 50).advance 75) :=
    (((sound.nextStage _).advance 25).advance 50).advance 75
  rw [checkLinks_of_anchored sound.whole.anchored]
  generalize ((((r.nextStage "Checking item tags").advance 25).advance 50).advance 75) = middle at before
  unfold checkCounts
  split
  · refine ⟨Keeps.bind (Keeps.edit fun r before => before.recount)
      (.of_ok fun r before => before.advance 100) middle before, fun r' done => ?_⟩
    obtain ⟨last, counted, ended⟩ := ok_of_bind done
    cases ended
    rw [advance_tables, edit_ok counted]
    exact before.whole.recount
  · rename_i none'
    have consistent := before.consistent (by omega)
    rw [Tables.wrongCounts_eq_nil_iff.mpr consistent.counted.counts]
    refine ⟨before.advance 100, ?_⟩
    intro r' done
    cases done
    rw [advance_tables]
    exact consistent

theorem sound_allStages (lib : Library) (observer : Observer) (process : Nat)
    (sound : Sound t data r) (consistent : r.tables.Consistent) :
    Sound t data (lastRun (allStages lib observer process r)) ∧
      ∀ r', allStages lib observer process r = .ok r' → r'.tables.Consistent := by
  have first := sound_checkItems lib observer sound consistent
  unfold allStages
  cases items : checkItems lib observer r with
  | error stop =>
      rw [items] at first
      exact ⟨first, fun r' done => by cases done⟩
  | ok middle =>
      rw [items] at first
      have second := keeps_sound_checkFiles lib observer process middle first
      dsimp only [bind, Except.bind]
      cases files : checkFiles lib observer process middle with
      | error stop =>
          rw [files] at second
          exact ⟨second, fun r' done => by cases done⟩
      | ok last =>
          rw [files] at second
          exact sound_checkLinks lib observer second

/-- A verification of consistent tables blames nothing on them and leaves consistent tables. -/
theorem verify_consistent {w : World} (isOpen : lib.tables w.files = .ok t)
    (consistent : t.Consistent) :
    (∀ event ∈ (verify lib observer w).1.events, ¬BlamesTables event) ∧
      ∃ t', ((verify lib observer w).2.files.dataOf lib.database).content = .database t' ∧
        t'.Consistent := by
  have start : Sound t w.files.data (startOf t w) :=
    ⟨consistent.whole, fun _ => consistent, fun _ => rfl, rfl, rfl, by simp [startOf]⟩
  rcases sound_allStages lib observer w.process start consistent with ⟨sound, done⟩
  constructor
  · intro event membership
    rw [verify_events isOpen, List.mem_reverse] at membership
    exact sound.quiet event membership
  · refine verify_leaves isOpen consistent sound.data fun r stages => ?_
    rw [stages] at sound
    exact ⟨done r stages, sound.unedited⟩

end Stages

end SampleLibrary.Verifier
