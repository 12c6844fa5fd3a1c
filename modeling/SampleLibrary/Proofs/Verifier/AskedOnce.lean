import SampleLibrary.Proofs.Verifier.Corruption
import SampleLibrary.Proofs.Verifier.Settled

/-!
# Problems come up once

What has come up in a run and what is still to come have nothing in common (`Fresh`): each item and each
file or directory is looked at once, and everything else has its place in the third stage. So no problem
comes up twice, also in a run that fails (`problems_nodup`).
-/

namespace SampleLibrary.Verifier

/-- The problems that have come up so far, latest first. -/
def Run.problems (r : Run) : List Problem := (questions r.history).map (·.1)

/-- From one run to another at most one problem has come up, about a certain thing. -/
inductive AtMostOne (about : Problem → Prop) (r r' : Run) : Prop where
  | none : r'.problems = r.problems → AtMostOne about r r'
  | one {p : Problem} : about p → r'.problems = p :: r.problems → AtMostOne about r r'

/-- Nothing has come up twice, and nothing of what is still to come. -/
structure Fresh (coming : Problem → Prop) (r : Run) : Prop where
  once : r.problems.Nodup
  apart : ∀ p ∈ r.problems, ¬coming p

section Freshness

variable {lib : Library} {observer : Observer} {about coming later : Problem → Prop} {r r' : Run}
  {p : Problem}

theorem problems_of_history (same : r'.history = r.history) : r'.problems = r.problems := by
  rw [Run.problems, same, Run.problems]

theorem problems_advance (r : Run) (percent : Nat) : (r.advance percent).problems = r.problems := by
  rw [Run.problems, questions_advance, Run.problems]

namespace Fresh

theorem of_problems (fresh : Fresh coming r) (same : r'.problems = r.problems) : Fresh coming r' :=
  ⟨same ▸ fresh.once, same ▸ fresh.apart⟩

theorem mono (fresh : Fresh coming r) (fewer : ∀ p, later p → coming p) : Fresh later r :=
  ⟨fresh.once, fun p membership isLater => fresh.apart p membership (fewer p isLater)⟩

/-- What comes up now has been to come, and is not to come again. -/
theorem step (fresh : Fresh coming r) (atMostOne : AtMostOne about r r')
    (now : ∀ p, about p → coming p) (next : ∀ p, later p → coming p ∧ ¬about p) : Fresh later r' := by
  cases atMostOne with
  | none same => exact (fresh.of_problems same).mono fun p isLater => (next p isLater).1
  | one isAbout more =>
      refine ⟨?_, ?_⟩
      · rw [more]
        exact List.nodup_cons.mpr
          ⟨fun membership => fresh.apart _ membership (now _ isAbout), fresh.once⟩
      · rw [more]
        refine List.forall_mem_cons.mpr ⟨fun isLater => (next _ isLater).2 isAbout, ?_⟩
        exact fun p membership isLater => fresh.apart p membership (next p isLater).1

end Fresh

theorem silent_removeItems (ids : List Int) : Silent (removeItems lib ids) := by
  intro r
  have keeps : Keeps (·.history = r.history) (removeItems lib ids) :=
    keeps_removeItems (fun _ _ _ same => same) ids
  exact keeps r rfl

theorem problems_ask (observer : Observer) (p : Problem) (r : Run) :
    (r.ask observer p).2.problems = p :: r.problems := by
  obtain ⟨a, -, asked⟩ := questions_ask observer p r
  rw [Run.problems, asked, List.map_cons, Run.problems]

theorem atMostOne_offer {repair : Step} (silent : Silent repair) (isAbout : about p) :
    AtMostOne about r (lastRun (r.offer observer p repair)) := by
  have asked := problems_ask observer p r
  refine .one isAbout ?_
  unfold Run.offer
  split
  · rename_i r₁ yes
    rw [yes] at asked
    exact (problems_of_history (silent r₁)).trans asked
  · rename_i r₁ no
    rw [no] at asked
    exact asked

end Freshness

/-! ## The first stage -/

/-- The stages in which problems come up, and the parts of the third one. -/
def Problem.rank : Problem → Nat
  | missingFile .. => 0
  | staleTmpDir _ | unknownFile _ | wrongExtension .. | wrongChecksum .. | unreadable .. => 1
  | linksWithoutTag _ => 2
  | linksWithoutItem _ => 3
  | strayCustomValues _ => 4
  | wrongCounts _ => 5

/-- The problem is that an item has no file. -/
def Problem.Misses (item : Int) (p : Problem) : Prop := ∃ name path, p = .missingFile item name path

/-- What can come up while these items are checked, and afterwards. -/
def ComingOfItems (items : List Item) (p : Problem) : Prop :=
  (∃ i ∈ items, p.Misses i.id) ∨ 0 < p.rank

section Items

variable {lib : Library} {observer : Observer} {r : Run}

theorem atMostOne_checkItem (total : Nat) (removed : List Int) (entry : Item × Nat) :
    AtMostOne (Problem.Misses entry.1.id) r (checkItem lib observer total (removed, r) entry).2 := by
  obtain ⟨i, number⟩ := entry
  have before := problems_advance r (100 * number / max total 1)
  have asked := problems_ask observer (.missingFile i.id ((i.text? .name).getD "") (itemPath lib i))
    (r.advance (100 * number / max total 1))
  unfold checkItem
  dsimp only
  split
  · exact .none before
  · rw [before] at asked
    apply AtMostOne.one (p := .missingFile i.id ((i.text? .name).getD "") (itemPath lib i)) ⟨_, _, rfl⟩
    split
    · rename_i r₁ yes
      rwa [yes] at asked
    · rename_i r₁ no
      rwa [no] at asked

theorem fresh_foldl_checkItem (total : Nat) (entries : List (Item × Nat)) (state : List Int × Run)
    (distinct : (entries.map (·.1.id)).Nodup)
    (fresh : Fresh (ComingOfItems (entries.map (·.1))) state.2) :
    Fresh (0 < ·.rank) (entries.foldl (checkItem lib observer total) state).2 := by
  induction entries generalizing state with
  | nil => exact fresh.mono fun p isLater => .inr isLater
  | cons entry entries inductionHypothesis =>
      obtain ⟨others, distinct⟩ := List.nodup_cons.mp distinct
      apply inductionHypothesis _ distinct
      refine fresh.step (atMostOne_checkItem total state.1 entry)
        (fun p misses => .inl ⟨entry.1, by simp, misses⟩) ?_
      rintro p (⟨i, membership, misses⟩ | isLater)
      · refine ⟨.inl ⟨i, List.mem_cons_of_mem _ membership, misses⟩, fun again => others ?_⟩
        obtain ⟨e, listed, rfl⟩ := List.mem_map.mp membership
        obtain ⟨_, _, rfl⟩ := misses
        obtain ⟨_, _, same⟩ := again
        exact List.mem_map.mpr ⟨e, listed, (Problem.missingFile.inj same).1⟩
      · refine ⟨.inr isLater, ?_⟩
        rintro ⟨_, _, rfl⟩
        cases isLater

theorem problems_afterRoot (r : Run) : (afterRoot r).problems = r.problems := by
  unfold afterRoot
  dsimp only
  split <;> rfl

theorem problems_checkCounter (counter : Option Int) (items : Nat) (r : Run) :
    (checkCounter counter items r).problems = r.problems := by
  unfold checkCounter
  split
  · split <;> rfl
  · rfl

/-- The first stage asks about each item once. -/
theorem fresh_checkItems (keyed : r.tables.Keyed) (start : r.problems = []) :
    Fresh (0 < ·.rank) (lastRun (checkItems lib observer r)) := by
  have rooted : Fresh (ComingOfItems (itemsInOrder r.tables)) (afterRoot r) := by
    constructor <;> simp [problems_afterRoot, start]
  have each : Fresh (0 < ·.rank) (afterItems lib observer r).2 := by
    have numbered : ((itemsInOrder r.tables).zipIdx 1).map (·.1) = itemsInOrder r.tables :=
      List.zipIdx_map_fst ..
    have distinct := nodup_itemsInOrder keyed
    rw [← numbered, List.map_map] at distinct
    exact fresh_foldl_checkItem _ _ ([], afterRoot r) distinct (numbered.symm ▸ rooted)
  have counted : Fresh (0 < ·.rank) (afterCounter lib observer r) :=
    each.of_problems (problems_checkCounter _ _ _)
  rw [checkItems_bind]
  exact Keeps.after (.of_ok fun r fresh => fresh.of_problems (problems_advance r 100))
    (counted.of_problems (problems_of_history (silent_removeItems _ _)))

end Items

/-! ## The second stage -/

/-- The problem is about what is visited. -/
inductive Problem.IsAt (lib : Library) : Visit → Problem → Prop where
  | file {md5 extension : String} {p : Problem} : p.file? = some (blobPath lib md5 extension) →
      IsAt lib (.file md5 extension) p
  | stale {name : String} : IsAt lib (.stale name) (.staleTmpDir (Path.below lib.base name))

/-- Nothing is about both of two visits. -/
def Apart (lib : Library) (v v' : Visit) : Prop := ∀ p : Problem, p.IsAt lib v → ¬p.IsAt lib v'

/-- What can come up at these visits, and afterwards. -/
def ComingAt (lib : Library) (vs : List Visit) (p : Problem) : Prop :=
  (∃ v ∈ vs, p.IsAt lib v) ∨ 1 < p.rank

section Visits

variable {lib : Library} {observer : Observer} {r : Run} {fs : Files} {place : Location} {process : Nat}

theorem Problem.IsAt.rank {v : Visit} {p : Problem} (isAt : p.IsAt lib v) : p.rank = 1 := by
  cases isAt with
  | stale => rfl
  | file path => cases p <;> first | rfl | cases path

theorem Problem.IsAt.of_finds {t : Tables} {v : Visit} {p : Problem} {gone : List Int} {repair : Step}
    (finds : v.Finds lib t fs p gone repair) : p.IsAt lib v := by
  cases finds with
  | stale => exact .stale
  | unknown | misnamed => exact .file rfl
  | invalid present problem => exact .file (isInvalid_of_contentProblem? problem).file?

theorem atMostOne_step (v : Visit) :
    AtMostOne (Problem.IsAt lib v) r (lastRun (v.step lib observer r)) := by
  cases found : v.finding? lib r.tables r.files with
  | none =>
      obtain ⟨percent, last⟩ := Visit.step_of_fine observer found
      rw [last]
      exact .none (problems_advance r percent)
  | some finding =>
      obtain ⟨p, gone⟩ := finding
      obtain ⟨repair, finds⟩ := Visit.finds_of_finding? found
      rw [finds.step_eq]
      exact atMostOne_offer finds.silent (.of_finds finds)

theorem fresh_runVisits {vs : List Visit} (apart : vs.Pairwise (Apart lib))
    (fresh : Fresh (ComingAt lib vs) r) :
    Fresh (1 < ·.rank) (lastRun (runVisits lib observer vs r)) := by
  induction vs generalizing r with
  | nil => exact fresh.mono fun p isLater => .inr isLater
  | cons v vs inductionHypothesis =>
      obtain ⟨others, apart⟩ := List.pairwise_cons.mp apart
      have next : Fresh (ComingAt lib vs) (lastRun (v.step lib observer r)) := by
        refine fresh.step (atMostOne_step v) (fun p isAt => .inl ⟨v, List.mem_cons_self, isAt⟩) ?_
        rintro p (⟨v', membership, isAt⟩ | isLater)
        · exact ⟨.inl ⟨v', List.mem_cons_of_mem _ membership, isAt⟩,
            fun here => others v' membership p here isAt⟩
        · exact ⟨.inr isLater, fun here => by have rank := here.rank; omega⟩
      rw [runVisits_cons]
      cases stepped : v.step lib observer r with
      | ok r₁ =>
          rw [stepped] at next
          exact inductionHypothesis apart next
      | error stop =>
          rw [stepped] at next
          exact next.mono fun p isLater => .inr isLater

/-- A directory for aliases is all that is visited under its name. -/
theorem topVisits_of_stale {name : String} {entry : String × Node}
    (membership : .stale name ∈ topVisits lib fs place process entry) :
    topVisits lib fs place process entry = [.stale entry.1] ∧ name = entry.1 := by
  unfold topVisits at membership ⊢
  split at membership
  · cases membership
  · split at membership
    · simp [mem_secondVisits, mem_fileVisits] at membership
    · split at membership
      · split at membership
        · cases membership
        · simp_all
      · cases membership

/-- Directories for aliases have different names. -/
theorem stale_names : (visits lib fs place process).Pairwise fun v v' => ∀ name name',
    v = .stale name → v' = .stale name' → name ≠ name' := by
  unfold visits
  rw [List.pairwise_flatMap]
  refine ⟨fun entry _ => ?_, (fs.children_ordered place).imp fun {a b} before v isFirst v' isSecond => ?_⟩
  · by_cases some' : ∃ name, .stale name ∈ topVisits lib fs place process entry
    · obtain ⟨name, membership⟩ := some'
      rw [(topVisits_of_stale membership).1]
      exact List.pairwise_singleton _ _
    · refine List.pairwise_of_forall_mem_list fun v membership v' _ name name' isStale => ?_
      exact absurd ⟨name, isStale ▸ membership⟩ some'
  · rintro name name' rfl rfl rfl
    rw [← (topVisits_of_stale isFirst).2, ← (topVisits_of_stale isSecond).2] at before
    exact String.lt_irrefl _ before

theorem StaleDirectory.isAbsolute {name : String} (stale : StaleDirectory fs place process name) :
    Path.isAbsolute name = false := by
  obtain ⟨owner, owned, -⟩ := stale.owner
  exact Files.isAbsolute_of_isName (isName_of_tmpProcess? owned)

theorem apart_visits : (visits lib fs place process).Pairwise (Apart lib) := by
  refine (inOrder_visits.and stale_names).imp_of_mem ?_
  rintro v v' isVisit isVisit' ⟨inOrder, differ⟩ p here there
  have stands := stands_of_mem_visits isVisit
  have stands' := stands_of_mem_visits isVisit'
  cases here with
  | file path =>
      cases there with
      | stale => cases path
      | file path' =>
          obtain ⟨id, blob⟩ := stands
          obtain ⟨id', blob'⟩ := stands'
          obtain ⟨rfl, rfl⟩ := blobPath_injective blob.naming.digits blob'.naming.digits
            (Option.some.inj (path.symm.trans path'))
          exact String.lt_irrefl _ (inOrder _ _ _ rfl rfl)
  | stale =>
      generalize same : Problem.staleTmpDir _ = p at there
      cases there with
      | file path' =>
          subst same
          cases path'
      | stale =>
          have paths := Problem.staleTmpDir.inj same
          rw [below_eq_slashed _ stands.isAbsolute, below_eq_slashed _ stands'.isAbsolute] at paths
          exact differ _ _ rfl rfl ((String.append_right_inj _).mp paths)

/-- The second stage asks about each file and each directory once. -/
theorem fresh_checkFiles (fresh : Fresh (0 < ·.rank) r) :
    Fresh (1 < ·.rank) (lastRun (checkFiles lib observer process r)) := by
  have staged : Fresh (0 < ·.rank) (r.nextStage "Checking files") := fresh.of_problems rfl
  cases listed : entriesOf lib.base (r.nextStage "Checking files") with
  | error stop =>
      unfold checkFiles
      dsimp only
      rw [listed]
      exact (entriesOf_error listed ▸ staged).mono fun p isLater => Nat.lt_trans Nat.zero_lt_one isLater
  | ok entries =>
      obtain ⟨place, leads, -⟩ := entriesOf_ok listed
      rw [nextStage_files] at leads
      rw [checkFiles_eq observer process leads]
      refine Keeps.after (.of_ok fun r fresh => fresh.of_problems (problems_advance r 100)) ?_
      refine fresh_runVisits apart_visits (staged.mono ?_)
      rintro p (⟨v, -, isAt⟩ | isLater)
      · rw [isAt.rank]
        exact Nat.zero_lt_one
      · exact Nat.lt_trans Nat.zero_lt_one isLater

end Visits

/-! ## The third stage -/

section Links

variable {lib : Library} {observer : Observer} {r : Run}

/-- What comes up next comes up at most once. -/
theorem fresh_after {first : Except Stop Run} {second : Step} {n m : Nat} (upTo : n ≤ m)
    (fresh : Fresh (n < ·.rank) (lastRun first))
    (next : ∀ r, Fresh (n < ·.rank) r → Fresh (m < ·.rank) (lastRun (second r))) :
    Fresh (m < ·.rank) (lastRun (first >>= second)) := by
  cases first with
  | ok r => exact next r fresh
  | error stop => exact fresh.mono fun p isLater => Nat.lt_of_le_of_lt upTo isLater

theorem Fresh.offer {n : Nat} {p : Problem} {repair : Step} (fresh : Fresh (n < ·.rank) r)
    (silent : Silent repair) (rank : p.rank = n + 1) :
    Fresh (n + 1 < ·.rank) (lastRun (r.offer observer p repair)) := by
  have asked : AtMostOne (· = p) r (lastRun (r.offer observer p repair)) := atMostOne_offer silent rfl
  refine fresh.step asked ?_ fun q isLater => ⟨?_, ?_⟩
  · rintro q rfl
    omega
  · omega
  · rintro rfl
    omega

theorem Fresh.offerRemoval {n : Nat} (fresh : Fresh (n < ·.rank) r) (count : Nat) (p : Problem)
    (change : Tables → Tables) (rank : p.rank = n + 1) :
    Fresh (n + 1 < ·.rank) (lastRun (offerRemoval lib observer count p change r)) := by
  unfold Verifier.offerRemoval
  split
  · exact fresh.mono fun p isLater => Nat.lt_of_succ_lt isLater
  · exact fresh.offer (silent_edit _ _) rank

theorem Fresh.checkCounts (fresh : Fresh (4 < ·.rank) r) :
    Fresh (5 < ·.rank) (lastRun (checkCounts lib observer r)) := by
  have less : Fresh (5 < ·.rank) r := fresh.mono fun p isLater => Nat.lt_of_succ_lt isLater
  have silent : Silent (recount lib) := silent_edit _ _
  unfold Verifier.checkCounts
  split
  · exact less.of_problems (problems_of_history (silent r))
  · split
    · exact less
    · exact fresh.offer silent rfl

theorem Fresh.advance {coming : Problem → Prop} (fresh : Fresh coming r) (percent : Nat) :
    Fresh coming (r.advance percent) :=
  fresh.of_problems (problems_advance r percent)

/-- The third stage asks about each of its subjects once. -/
theorem fresh_checkLinks (fresh : Fresh (1 < ·.rank) r) :
    Fresh (5 < ·.rank) (lastRun (checkLinks lib observer r)) := by
  have staged : Fresh (1 < ·.rank) (r.nextStage "Checking item tags") := fresh.of_problems rfl
  unfold checkLinks
  refine fresh_after (by decide) ((staged.advance 25).offerRemoval _ _ _ rfl) fun r fresh => ?_
  refine fresh_after (by decide) ((fresh.advance 50).offerRemoval _ _ _ rfl) fun r fresh => ?_
  refine fresh_after (by decide) ((fresh.advance 75).offerRemoval _ _ _ rfl) fun r fresh => ?_
  exact fresh_after (Nat.le_refl 5) fresh.checkCounts fun r fresh => fresh.advance 100

end Links

/-- No problem comes up twice in a verification. -/
theorem problems_nodup {lib : Library} {t : Tables} {w : World} (keyed : t.Keyed)
    (observer : Observer) :
    (lastRun (allStages lib observer w.process (startOf t w))).problems.Nodup := by
  have items : Fresh (0 < ·.rank) (lastRun (checkItems lib observer (startOf t w))) :=
    fresh_checkItems keyed rfl
  have all : Fresh (5 < ·.rank) (lastRun (allStages lib observer w.process (startOf t w))) :=
    fresh_after (by decide) items fun r fresh =>
      fresh_after (by decide) (fresh_checkFiles fresh) fun r fresh => fresh_checkLinks fresh
  exact all.once

end SampleLibrary.Verifier
