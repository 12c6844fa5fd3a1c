import Mathlib.Data.List.Chain
import Mathlib.Data.Prod.Lex
import SampleLibrary.Proofs.Verifier.Effects
import SampleLibrary.Proofs.Verifier.SideBySide

/-!
# How far a verification has come

Within a stage a run reports a higher percentage each time or something that is wrong (`Pace`), whatever it
does (`InStage`). A verification that goes well goes through all three stages from the beginning to the end,
and so it never falls back (`progression`).
-/

namespace SampleLibrary.Verifier

def Event.report? : Event → Option Progress
  | .progress q => some q
  | _ => none

/-- The reports among what was said. -/
def reports (events : List Event) : List Progress := events.filterMap Event.report?

/-- The stage and the percentage, which come one after the other in comparisons. -/
def Progress.position (q : Progress) : Nat ×ₗ Nat := toLex (q.stage, q.percent)

/-- A report that comes right after another one has come further or says what is wrong. -/
structure Progress.Follows (q q' : Progress) : Prop where
  le : q.position ≤ q'.position
  loud : q'.position = q.position → q'.error.isSome = true

theorem Progress.Follows.of_lt {q q' : Progress}
    (less : q.stage < q'.stage ∨ q.stage = q'.stage ∧ q.percent < q'.percent) : q.Follows q' := by
  have before : q.position < q'.position := Prod.Lex.toLex_lt_toLex.mpr less
  exact ⟨before.le, fun same => absurd before (by rw [same]; exact lt_irrefl _)⟩

/-- The reports of a stage so far, latest first, up to a percentage. -/
inductive Pace (stage : Nat) (name : String) : Nat → List Progress → Prop where
  | start : Pace stage name 0 [⟨stage, name, 0, none⟩]
  | further {n n' : Nat} {told : List Progress} : Pace stage name n told → n < n' → n' ≤ 100 →
      Pace stage name n' (⟨stage, name, n', none⟩ :: told)
  | wrong {n : Nat} {told : List Progress} {message : String} : Pace stage name n told →
      Pace stage name n (⟨stage, name, n, some message⟩ :: told)

/-- All reports of a stage. -/
structure StageReports (stage : Nat) (name : String) (reports : List Progress) : Prop where
  starts : reports.head? = some ⟨stage, name, 0, none⟩
  ends : reports.getLast?.map (·.percent) = some 100
  within : ∀ q ∈ reports, q.stage = stage ∧ q.stageName = name ∧ q.percent ≤ 100

section Paces

variable {stage n : Nat} {name : String} {told : List Progress}

namespace Pace

theorem head? (pace : Pace stage name n told) :
    ∃ error, told.head? = some ⟨stage, name, n, error⟩ := by
  cases pace <;> exact ⟨_, rfl⟩

theorem le (pace : Pace stage name n told) : n ≤ 100 := by
  induction pace with
  | start => exact Nat.zero_le _
  | further _ _ le => exact le
  | wrong _ le => exact le

theorem within (pace : Pace stage name n told) :
    ∀ q ∈ told, q.stage = stage ∧ q.stageName = name ∧ q.percent ≤ 100 := by
  induction pace with
  | start => simp
  | further _ _ le before => exact List.forall_mem_cons.mpr ⟨⟨rfl, rfl, le⟩, before⟩
  | wrong pace before => exact List.forall_mem_cons.mpr ⟨⟨rfl, rfl, pace.le⟩, before⟩

theorem getLast? (pace : Pace stage name n told) :
    told.getLast? = some ⟨stage, name, 0, none⟩ := by
  induction pace with
  | start => rfl
  | further _ _ _ before | wrong _ before => rw [List.getLast?_cons, before, Option.getD_some]

theorem isChain (pace : Pace stage name n told) : told.IsChain fun q' q => q.Follows q' := by
  induction pace with
  | start => exact .singleton _
  | further pace less _ before =>
      obtain ⟨error, head⟩ := pace.head?
      refine List.isChain_cons.mpr ⟨fun q isHead => ?_, before⟩
      obtain rfl := Option.some.inj (head.symm.trans isHead)
      exact .of_lt (.inr ⟨rfl, less⟩)
  | wrong pace before =>
      obtain ⟨error, head⟩ := pace.head?
      refine List.isChain_cons.mpr ⟨fun q isHead => ?_, before⟩
      obtain rfl := Option.some.inj (head.symm.trans isHead)
      exact ⟨le_refl _, fun _ => rfl⟩

theorem stageReports (pace : Pace stage name 100 told) : StageReports stage name told.reverse := by
  obtain ⟨error, head⟩ := pace.head?
  refine ⟨?_, ?_, fun q membership => pace.within q (List.mem_reverse.mp membership)⟩
  · rw [List.head?_reverse, pace.getLast?]
  · rw [List.getLast?_reverse, head]
    rfl

end Pace

end Paces

/-! ## Runs in a stage -/

/-- A run is in a stage, after earlier reports, latest first. -/
inductive InStage (stage : Nat) (name : String) (earlier : List Progress) (r : Run) : Prop where
  | there {n : Nat} {told : List Progress} : r.progress = ⟨stage, name, n, none⟩ →
      reports r.history = told ++ earlier → Pace stage name n told → InStage stage name earlier r

section Stages

variable {lib : Library} {observer : Observer} {stage : Nat} {name : String} {earlier : List Progress}
  {r r' : Run}

theorem reports_ask (observer : Observer) (p : Problem) (r : Run) :
    reports (r.ask observer p).2.history =
      { r.progress with error := some p.message } :: reports r.history := by
  obtain ⟨a, event, -, rfl | rfl, history⟩ := ask_history observer p r <;> rw [history] <;> rfl

theorem progress_ask (observer : Observer) (p : Problem) (r : Run) :
    (r.ask observer p).2.progress = r.progress := by
  unfold Run.ask
  dsimp only
  split <;> rfl

namespace InStage

/-- Where a run moves on to the next stage, it tells so. -/
theorem start (r : Run) (name : String) :
    InStage (r.progress.stage + 1) name (reports r.history) (r.nextStage name) :=
  .there rfl List.singleton_append.symm .start

theorem congr (inStage : InStage stage name earlier r) (history : r'.history = r.history)
    (progress : r'.progress = r.progress) : InStage stage name earlier r' := by
  obtain ⟨place, said, pace⟩ := inStage
  exact .there (progress.trans place) (by rw [history, said]) pace

theorem advance (inStage : InStage stage name earlier r) (percent : Nat) :
    InStage stage name earlier (r.advance percent) := by
  obtain ⟨place, said, pace⟩ := inStage
  unfold Run.advance
  dsimp only
  split
  · rename_i less
    rw [place] at less ⊢
    refine .there rfl ?_ (.further pace less (min_le_right _ _))
    exact congrArg (_ :: ·) said
  · exact .there place said pace

/-- A report of something that is wrong, whatever else changes. -/
theorem loud (inStage : InStage stage name earlier r) (message : String)
    (history : reports r'.history = { r.progress with error := some message } :: reports r.history)
    (progress : r'.progress = r.progress) : InStage stage name earlier r' := by
  obtain ⟨place, said, pace⟩ := inStage
  rw [place, said] at history
  exact .there (progress.trans place) history (.wrong pace)

theorem alone (observer : Observer) (stage : Nat) (name : String) (earlier : List Progress) :
    SideBySide observer observer (Alone (InStage stage name earlier)) :=
  .alone (fun percent _ inStage => inStage.advance percent)
    (fun p r inStage => inStage.loud _ (reports_ask observer p r) (progress_ask observer p r))
    fun inStage history _ progress _ => inStage.congr history progress

theorem stage_eq (inStage : InStage stage name earlier r) : r.progress.stage = stage := by
  obtain ⟨place, -, -⟩ := inStage
  rw [place]

theorem remark (m : Remark) (beside : Alone (InStage stage name earlier) r r') :
    Alone (InStage stage name earlier) (r.remark m) (r'.remark m) :=
  ⟨by rw [beside.1], beside.2.loud m.message rfl rfl⟩

/-- At its end a stage has made all its reports. -/
theorem stageReports (inStage : InStage stage name earlier (r.advance 100)) :
    ∃ told, reports (r.advance 100).history = told ++ earlier ∧
      StageReports stage name told.reverse ∧ told.reverse.IsChain Progress.Follows := by
  obtain @⟨n, told, place, said, pace⟩ := inStage
  have reached : 100 ≤ (r.advance 100).progress.percent := by
    unfold Run.advance
    dsimp only
    split
    · exact le_refl _
    · rename_i far
      simpa using far
  rw [place] at reached
  obtain rfl : n = 100 := le_antisymm pace.le reached
  exact ⟨told, said, pace.stageReports, List.isChain_reverse.mpr pace.isChain⟩

end InStage

theorem exists_eq_advance_checkItems (done : checkItems lib observer r = .ok r') :
    ∃ r₁ : Run, r' = r₁.advance 100 := by
  rw [checkItems_bind] at done
  obtain ⟨r₁, -, last⟩ := ok_of_bind done
  exact ⟨r₁, (Except.ok.inj last).symm⟩

theorem exists_eq_advance_checkFiles {process : Nat}
    (done : checkFiles lib observer process r = .ok r') : ∃ r₁ : Run, r' = r₁.advance 100 := by
  obtain ⟨place, leads⟩ := leads_of_checkFiles done
  rw [checkFiles_eq observer process leads] at done
  obtain ⟨r₁, -, last⟩ := ok_of_bind done
  exact ⟨r₁, (Except.ok.inj last).symm⟩

theorem exists_eq_advance_checkLinks (done : checkLinks lib observer r = .ok r') :
    ∃ r₁ : Run, r' = r₁.advance 100 := by
  obtain ⟨-, -, -, r₁, -, -, -, -, last⟩ := checkLinks_parts done
  exact ⟨r₁, last⟩

end Stages

/-! ## The whole verification -/

/-- How far a verification has come, told from its reports. -/
structure Progression (reports : List Progress) : Prop where
  /-- It never falls back. -/
  ordered : (reports.map Progress.position).Pairwise (· ≤ ·)
  /-- It stays where it is only to say what is wrong. -/
  repeated : reports.IsChain fun q q' => q'.position = q.position → q'.error.isSome = true
  stages : ∃ first second third, reports = first ++ second ++ third ∧
    StageReports 1 "Checking items" first ∧ StageReports 2 "Checking files" second ∧
    StageReports 3 "Checking item tags" third

section Whole

variable {lib : Library} {observer : Observer} {w : World} {report : Report}

/-- The reports of one stage follow those of an earlier one. -/
theorem follows_append {stage stage' : Nat} {name : String} {first second : List Progress}
    (earlier : ∀ q ∈ first, q.stage ≤ stage) (less : stage < stage')
    (later : StageReports stage' name second) (chain : first.IsChain Progress.Follows)
    (chain' : second.IsChain Progress.Follows) : (first ++ second).IsChain Progress.Follows := by
  refine List.isChain_append.mpr ⟨chain, chain', fun q isLast q' isHead => .of_lt (.inl ?_)⟩
  have before := earlier q (List.mem_of_getLast? isLast)
  have after := (later.within q' (List.mem_of_head? isHead)).1
  omega

theorem progression_of_stages {first second third : List Progress}
    (items : StageReports 1 "Checking items" first) (files : StageReports 2 "Checking files" second)
    (links : StageReports 3 "Checking item tags" third) (chain : first.IsChain Progress.Follows)
    (chain' : second.IsChain Progress.Follows) (chain'' : third.IsChain Progress.Follows) :
    Progression (first ++ second ++ third) := by
  have upToFiles := follows_append (fun q membership => (items.within q membership).1.le)
    (by decide) files chain chain'
  have beforeLinks : ∀ q ∈ first ++ second, q.stage ≤ 2 := fun q membership => by
    obtain isFirst | isSecond := List.mem_append.mp membership
    · have stage := (items.within q isFirst).1
      omega
    · exact (files.within q isSecond).1.le
  have all : (first ++ second ++ third).IsChain Progress.Follows :=
    follows_append beforeLinks (by decide) links upToFiles chain''
  refine ⟨?_, all.imp fun q q' follows => follows.loud, first, second, third, rfl, items, files, links⟩
  rw [← List.isChain_iff_pairwise, List.isChain_map]
  exact all.imp fun q q' follows => follows.le

/-- A verification that goes well goes through its stages from the beginning to the end, one after the
other. -/
theorem progression (done : (verify lib observer w).1.outcome = .ok report) :
    Progression (reports (verify lib observer w).1.events) := by
  obtain ⟨t, isOpen⟩ : ∃ t, lib.tables w.files = .ok t := by
    cases found : lib.tables w.files with
    | ok t => exact ⟨t, rfl⟩
    | error e =>
        unfold verify at done
        rw [found] at done
        cases done
  obtain ⟨r₃, stages⟩ := stages_of_ok isOpen done
  obtain ⟨r₁, items, rest⟩ := ok_of_bind stages
  obtain ⟨r₂, files, links⟩ := ok_of_bind rest
  have first : InStage 1 "Checking items" [] r₁ := by
    have staged := InStage.start (startOf t w) "Checking items"
    have kept := ((InStage.alone observer _ _ _).checkItems lib (fun m _ _ => InStage.remark m)
      ⟨rfl, staged⟩).alone
    rwa [items] at kept
  have second : InStage 2 "Checking files" (reports r₁.history) r₂ := by
    have staged := InStage.start r₁ "Checking files"
    rw [first.stage_eq] at staged
    have kept := ((InStage.alone observer _ _ _).checkFiles lib w.process ⟨rfl, staged⟩).alone
    rwa [files] at kept
  have third : InStage 3 "Checking item tags" (reports r₂.history) r₃ := by
    have staged := InStage.start r₂ "Checking item tags"
    rw [second.stage_eq] at staged
    have kept := ((InStage.alone observer _ _ _).checkLinks lib ⟨rfl, staged⟩).alone
    rwa [links] at kept
  obtain ⟨_, rfl⟩ := exists_eq_advance_checkItems items
  obtain ⟨_, rfl⟩ := exists_eq_advance_checkFiles files
  obtain ⟨_, rfl⟩ := exists_eq_advance_checkLinks links
  obtain ⟨told₁, said₁, reports₁, chain₁⟩ := first.stageReports
  obtain ⟨told₂, said₂, reports₂, chain₂⟩ := second.stageReports
  obtain ⟨told₃, said₃, reports₃, chain₃⟩ := third.stageReports
  have all : reports (verify lib observer w).1.events =
      told₁.reverse ++ told₂.reverse ++ told₃.reverse := by
    rw [verify_of_stages isOpen stages, reports, List.filterMap_reverse, ← reports, said₃, said₂, said₁]
    simp
  rw [all]
  exact progression_of_stages reports₁ reports₂ reports₃ chain₁ chain₂ chain₃

end Whole

/-- A verification that finds and removes what does not belong to a library goes through its stages as well. -/
theorem crowdedWorld_progression :
    ∃ report, (verify smallLibrary (fun _ _ => .yes) crowdedWorld).1.outcome = .ok report ∧
      report.removals = (1, 2, 1, 0) ∧
      Progression (reports (verify smallLibrary (fun _ _ => .yes) crowdedWorld).1.events) := by
  obtain ⟨report, outcome, removals⟩ := crowdedWorld_verified
  exact ⟨report, outcome, removals, progression outcome⟩

end SampleLibrary.Verifier
