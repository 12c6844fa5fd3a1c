import SampleLibrary.Proofs.Verifier.Judging

/-!
# What is asked in a run

The questions of a run are the problems that came up, with the answers to them, whether somebody was asked
or an earlier answer held. At each visit of the second stage there is one question if something is wrong
and none otherwise (`Visit.step_questions`); the questions of the other stages are about other things.
-/

namespace SampleLibrary.Verifier

def Event.question? : Event → Option (Problem × Answer)
  | .asked p a | .recalled p a => some (p, a)
  | .progress _ => none

def questions (events : List Event) : List (Problem × Answer) := events.filterMap Event.question?

section Questions

variable {lib : Library} {observer : Observer} {v : Visit} {r r' : Run} {p : Problem}

theorem questions_reverse (events : List Event) :
    questions events.reverse = (questions events).reverse :=
  List.filterMap_reverse

theorem questions_of_suffix {events events' : List Event} (said : events <:+ events')
    {q : Problem × Answer} (membership : q ∈ questions events) : q ∈ questions events' :=
  (said.filterMap _).subset membership

theorem questions_advance (r : Run) (percent : Nat) :
    questions (r.advance percent).history = questions r.history := by
  unfold Run.advance
  dsimp only
  split <;> rfl

theorem questions_ask (observer : Observer) (p : Problem) (r : Run) :
    ∃ a, (r.ask observer p).1 = a.isYes ∧
      questions (r.ask observer p).2.history = (p, a) :: questions r.history := by
  rcases ask_history observer p r with ⟨a, event, answer, rfl | rfl, history⟩ <;>
    exact ⟨a, answer, by rw [history]; rfl⟩

/-- The step says nothing. -/
def Silent (step : Step) : Prop := ∀ r, (lastRun (step r)).history = r.history

theorem Silent.history {step : Step} (silent : Silent step) (done : step r = .ok r') :
    r'.history = r.history := by
  have same := silent r
  rw [done] at same
  exact same

theorem removeFile_history (path : String) (r : Run) : (r.removeFile path).2.history = r.history := by
  unfold Run.removeFile
  split <;> rfl

theorem removeDirectory_history (path : String) (r : Run) :
    (r.removeDirectory path).history = r.history := by
  unfold Run.removeDirectory
  split <;> rfl

theorem silent_edit (change : Tables → Tables) (counting : Report → Report) :
    Silent fun r => (r.edit lib change).map fun r => r.note counting := by
  intro r
  dsimp only [Run.edit]
  split <;> rfl

theorem silent_removeInvalid (item : Int) (path : String) : Silent (removeInvalid lib item path) := by
  intro r
  have keeps : Keeps (·.history = r.history) (removeInvalid lib item path) :=
    keeps_removeInvalid (fun r₁ path same => (removeFile_history path r₁).trans same)
      (fun _ _ _ same => same) item path
  exact keeps r rfl

/-- What is offered at a visit goes on without a word. -/
theorem Visit.Finds.silent {t : Tables} {fs : Files} {gone : List Int} {repair : Step}
    (finds : v.Finds lib t fs p gone repair) : Silent repair := by
  cases finds with
  | stale => exact removeDirectory_history _
  | unknown | misnamed => exact removeFile_history _
  | invalid => exact silent_removeInvalid _ _

/-- With an offer there is one question, and nothing changes unless the answer is yes. -/
theorem offer_questions {repair : Step} (silent : Silent repair)
    (done : r.offer observer p repair = .ok r') :
    ∃ a, questions r'.history = (p, a) :: questions r.history ∧
      (a.isYes = false → r'.tables = r.tables) := by
  have talk := talk_ask observer r p
  rcases questions_ask observer p r with ⟨a, answer, asked⟩
  rcases offer_cases done with ⟨yes, repaired⟩ | ⟨-, rfl⟩
  · refine ⟨a, by rw [silent.history repaired, asked], fun no => ?_⟩
    rw [yes, no] at answer
    cases answer
  · exact ⟨a, asked, fun _ => talk.tables⟩

/-- What is asked at a visit, and that a refusal leaves the tables alone. -/
def Visit.Asks (lib : Library) (v : Visit) (r r' : Run) : Prop :=
  match v.finding? lib r.tables r.files with
  | none => questions r'.history = questions r.history
  | some (p, _) => ∃ a, questions r'.history = (p, a) :: questions r.history ∧
      (a.isYes = false → r'.tables = r.tables)

/-- There is a question at a visit if something is wrong, and none otherwise. -/
theorem Visit.step_questions (done : v.step lib observer r = .ok r') : v.Asks lib r r' := by
  unfold Visit.Asks
  rcases step_cases done with ⟨fine, percent, rfl⟩ | ⟨p, gone, repair, found, finds, offered⟩
  · rw [fine]
    exact questions_advance r percent
  · rw [found]
    exact offer_questions finds.silent offered

end Questions

/-! ## All questions -/

/-- All questions so far are about problems of a certain kind. -/
def Asked (expected : Problem → Prop) (r : Run) : Prop :=
  ∀ q ∈ questions r.history, expected q.1

section Stages

variable {lib : Library} {observer : Observer} {expected : Problem → Prop} {r r' : Run} {p : Problem}

theorem Asked.advance (asked : Asked expected r) (percent : Nat) :
    Asked expected (r.advance percent) := by
  unfold Asked
  rw [questions_advance]
  exact asked

theorem Asked.ask (asked : Asked expected r) (isExpected : expected p) :
    Asked expected (r.ask observer p).2 := by
  rcases questions_ask observer p r with ⟨a, -, questions⟩
  unfold Asked
  rw [questions]
  exact List.forall_mem_cons.mpr ⟨isExpected, asked⟩

theorem Asked.talk {allowed : Event → Prop} (asked : Asked expected r)
    (talk : Talk observer allowed r r')
    (isExpected : ∀ event, allowed event → ∀ q, event.question? = some q → expected q.1) :
    Asked expected r' := by
  rcases talk.said with ⟨said, history, isAllowed⟩
  intro q membership
  rw [history, questions, List.filterMap_append, List.mem_append] at membership
  rcases membership with new | old
  · rcases List.mem_filterMap.mp new with ⟨event, isSaid, question⟩
    exact isExpected event (isAllowed event isSaid) q question
  · exact asked q old

theorem keeps_asked_offerRemoval {count : Nat} {change : Tables → Tables} (isExpected : expected p) :
    Keeps (Asked expected) (offerRemoval lib observer count p change) :=
  keeps_offerRemoval (fun _ asked => asked.ask isExpected) fun _ asked => asked

theorem keeps_asked_checkCounts (others : ∀ p : Problem, p.kind ∉ removalKinds → expected p) :
    Keeps (Asked expected) (checkCounts lib observer) :=
  keeps_checkCounts
    (fun _ _ asked => asked.ask (others _ (by simp [Problem.kind, removalKinds])))
    (Keeps.edit fun _ asked => asked)

/-- In the third stage nothing comes up for which a file would be removed. -/
theorem keeps_asked_checkLinks (others : ∀ p : Problem, p.kind ∉ removalKinds → expected p) :
    Keeps (Asked expected) (checkLinks lib observer) :=
  keeps_checkLinks (fun _ _ asked => asked) (fun _ percent asked => asked.advance percent)
    (fun _ _ => keeps_asked_offerRemoval (others _ (by simp [Problem.kind, removalKinds])))
    (fun _ _ => keeps_asked_offerRemoval (others _ (by simp [Problem.kind, removalKinds])))
    (fun _ => keeps_asked_offerRemoval (others _ (by simp [Problem.kind, removalKinds])))
    (keeps_asked_checkCounts others)

/-- In the first stage nothing comes up but items without a file. -/
theorem keeps_asked_checkItems
    (missing : ∀ item name path, expected (.missingFile item name path)) :
    Keeps (Asked expected) (checkItems lib observer) := by
  intro r asked
  rcases checkItems_eq lib observer r with ⟨r', gone, talk, -, -, -, -, equation⟩
  have removing : Keeps (Asked expected) (removeItems lib gone) :=
    keeps_removeItems (fun _ _ _ asked => asked) gone
  have talked : Asked expected r' := by
    refine asked.talk talk fun event said q question => ?_
    cases said with
    | plain plain =>
        cases plain
        cases question
    | missing about =>
        cases about with
        | progress => cases question
        | asked a | recalled a =>
            cases question
            exact missing _ _ _
    | noRoot | wrongCounter => cases question
  rw [equation]
  exact Keeps.bind removing (.of_ok fun r asked => asked.advance 100) r' talked

/-- The second stage asks about what its visits find. -/
theorem asked_runVisits {vs : List Visit} (asked : Asked expected r)
    (each : ∀ v ∈ vs, ∀ t fs p gone, v.finding? lib t fs = some (p, gone) → expected p)
    (done : runVisits lib observer vs r = .ok r') : Asked expected r' := by
  refine runVisits_steps (Asked expected) asked (fun v membership r₁ r₂ _ step asked => ?_) done
  have asks := Visit.step_questions step
  unfold Visit.Asks at asks
  unfold Asked
  cases found : v.finding? lib r₁.tables r₁.files with
  | none =>
      rw [found] at asks
      rw [asks]
      exact asked
  | some finding =>
      rw [found] at asks
      rcases asks with ⟨a, questions, -⟩
      rw [questions]
      exact List.forall_mem_cons.mpr ⟨each v membership _ _ _ _ found, asked⟩

/-- Whatever comes up in a verification that goes well and has to do with a file is found at a visit. -/
theorem verify_asked {t : Tables} {w : World} {place : Location} {report : Report}
    (isOpen : lib.tables w.files = .ok t)
    (leads : w.files.stat lib.base true = .ok (place, .directory))
    (others : ∀ p : Problem, p.kind ∉ removalKinds → expected p)
    (each : ∀ v ∈ visits lib w.files place w.process, ∀ t fs p gone,
      v.finding? lib t fs = some (p, gone) → expected p)
    (done : (verify lib observer w).1.outcome = .ok report) :
    ∀ q ∈ questions (verify lib observer w).1.events, expected q.1 := by
  obtain ⟨place', r₁, r₂, r₃, ⟨leads', items, visits, links⟩, outcome⟩ := parts_of_ok isOpen done
  obtain rfl : place = place' := by simpa using leads.symm.trans leads'
  rw [outcome]
  have first : Asked expected r₁ := by
    have keeps : Keeps (Asked expected) (checkItems lib observer) :=
      keeps_asked_checkItems fun _ _ _ => others _ (by simp [Problem.kind, removalKinds])
    have kept := keeps (startOf t w) (List.forall_mem_nil _)
    rw [items] at kept
    exact kept
  have second : Asked expected (r₂.advance 100) :=
    (asked_runVisits (r := r₁.nextStage "Checking files") first each visits).advance 100
  have third : Asked expected r₃ := by
    have keeps : Keeps (Asked expected) (checkLinks lib observer) := keeps_asked_checkLinks others
    have kept := keeps _ second
    rw [links] at kept
    exact kept
  intro q membership
  dsimp only at membership
  rw [questions_reverse, List.mem_reverse] at membership
  exact third q membership

end Stages

end SampleLibrary.Verifier
