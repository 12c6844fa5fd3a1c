import SampleLibrary.Proofs.Verifier.AskedOnce
import SampleLibrary.Proofs.Verifier.SideBySide

/-!
# Answers that hold for later problems

An answer can hold for all later problems of its kind. What a run says shows which answer that is
(`keptAnswer`), and from then on nothing of that kind is asked (`Conversation`). Nobody is worse off without
such answers: whoever gives the same answer to every single problem comes to the same end
(`verify_patient`).
-/

namespace SampleLibrary.Verifier

/-- The answer that holds for all later problems of a kind after what was said, latest first. -/
def keptAnswer : List Event → Kind → Option Answer
  | [], _ => none
  | .asked p a :: said, kind =>
    if p.kind = kind ∧ a.isSaved = true then some a else keptAnswer said kind
  | _ :: said, kind => keptAnswer said kind

/-- Is this a report about something that is wrong? -/
def Event.isLoud : Event → Bool
  | .progress q => q.error.isSome
  | _ => false

/-- A run that talks as it should, latest first, and the remarks in it. A problem is told once, and then
somebody is asked about it once, unless an answer holds for its kind. Whoever is asked knows all that was
said. -/
inductive Conversation (observer : Observer) : List Remark → List Event → Prop where
  | start : Conversation observer [] []
  | further {remarks : List Remark} {said : List Event} {q : Progress} :
      Conversation observer remarks said → q.error = none →
      Conversation observer remarks (.progress q :: said)
  | remark {remarks : List Remark} {said : List Event} {q : Progress} {m : Remark} :
      Conversation observer remarks said → q.error = some m.message →
      Conversation observer (m :: remarks) (.progress q :: said)
  | asked {remarks : List Remark} {said : List Event} {q : Progress} {p : Problem} :
      Conversation observer remarks said → q.error = some p.message →
      keptAnswer said p.kind = none →
      Conversation observer remarks
        (.asked p (observer (.progress q :: said) p) :: .progress q :: said)
  | recalled {remarks : List Remark} {said : List Event} {q : Progress} {p : Problem} {a : Answer} :
      Conversation observer remarks said → q.error = some p.message →
      keptAnswer said p.kind = some a →
      Conversation observer remarks (.recalled p a :: .progress q :: said)

section Saying

variable {observer : Observer} {said earlier later : List Event} {kind : Kind} {a : Answer}
  {remarks : List Remark}

/-- An answer that holds was given to a question of its kind. -/
theorem asked_of_keptAnswer (stands : keptAnswer said kind = some a) :
    ∃ p, .asked p a ∈ said ∧ p.kind = kind ∧ a.isSaved = true := by
  induction said with
  | nil => cases stands
  | cons event said inductionHypothesis =>
      have before (stands : keptAnswer said kind = some a) :
          ∃ p, .asked p a ∈ event :: said ∧ p.kind = kind ∧ a.isSaved = true := by
        obtain ⟨p, membership, saves⟩ := inductionHypothesis stands
        exact ⟨p, List.mem_cons_of_mem event membership, saves⟩
      cases event with
      | progress | recalled => exact before stands
      | asked p b =>
          rw [keptAnswer] at stands
          split at stands
          · rename_i saves
            cases stands
            exact ⟨p, List.mem_cons_self, saves⟩
          · exact before stands

/-- An answer is kept exactly if it holds from now on. -/
theorem keptAnswer_asked (said : List Event) (p : Problem) (a : Answer) :
    keptAnswer (.asked p a :: said) =
      if a.isSaved = true then fun kind => if kind = p.kind then some a else keptAnswer said kind
      else keptAnswer said := by
  funext kind
  by_cases saves : a.isSaved = true
  · by_cases same : p.kind = kind
    · simp [keptAnswer, saves, same]
    · simp [keptAnswer, saves, same, Ne.symm same]
  · simp [keptAnswer, saves]

/-- The answer to a problem: the one that holds, or one that is given now. -/
def reply (observer : Observer) (said : List Event) (p : Problem) : Answer :=
  (keptAnswer said p.kind).getD (observer said p)

/-- What is said about a problem that has been told. -/
def answered (observer : Observer) (said : List Event) (p : Problem) : Event :=
  if (keptAnswer said p.kind).isSome then .recalled p (reply observer said p)
  else .asked p (reply observer said p)

/-- The run that has told about a problem. -/
def Run.raise (r : Run) (p : Problem) : Run := r.complain p.kind.toName p.message

/-- A run that has kept the answers that hold uses them, and keeps another one if it is given. -/
theorem ask_eq {r : Run} (observer : Observer) (p : Problem) (saved : r.saved = keptAnswer r.history) :
    r.ask observer p =
      ((reply observer (r.raise p).history p).isYes,
        { r.raise p with
          history := answered observer (r.raise p).history p ::
            (r.raise p).history
          saved := keptAnswer (answered observer (r.raise p).history p ::
            (r.raise p).history) }) := by
  have before : (r.raise p).saved =
      keptAnswer (r.raise p).history := saved
  unfold Run.ask answered reply
  dsimp only
  rw [← Run.raise, before]
  cases stands : keptAnswer (r.raise p).history p.kind with
  | some a =>
      have held : keptAnswer (.recalled p a :: (r.raise p).history) =
          keptAnswer (r.raise p).history := rfl
      dsimp only [Option.isSome_some, Option.getD_some]
      rw [if_pos rfl, held]
  | none =>
      dsimp only [Option.isSome_none, Option.getD_none]
      rw [if_neg Bool.false_ne_true, keptAnswer_asked]

/-- Without an answer that holds, somebody is asked. -/
theorem ask_once {observer : Observer} {p : Problem} {r : Run} (unsaved : r.saved p.kind = none)
    (once : (observer (r.raise p).history p).isSaved = false) :
    r.ask observer p =
      ((observer (r.raise p).history p).isYes,
        { r.raise p with
          history := .asked p (observer (r.raise p).history p) ::
            (r.raise p).history }) := by
  have before : (r.raise p).saved p.kind = none := unsaved
  unfold Run.ask
  dsimp only
  rw [← Run.raise, before, once]
  rfl

/-- A question or an answer that is not asked for has its place after what was said. -/
def Event.Fits (observer : Observer) (said : List Event) : Event → Prop
  | .progress _ => True
  | .asked p a => keptAnswer said p.kind = none ∧ a = observer said p
  | .recalled p a => keptAnswer said p.kind = some a

/-- Everything that was said, latest first, had its place. -/
def Fitting (observer : Observer) : List Event → Prop
  | [] => True
  | event :: said => event.Fits observer said ∧ Fitting observer said

theorem Conversation.fitting (talks : Conversation observer remarks said) : Fitting observer said := by
  induction talks with
  | start => trivial
  | further _ _ before | remark _ _ before => exact ⟨trivial, before⟩
  | asked _ _ none' before => exact ⟨⟨none', rfl⟩, trivial, before⟩
  | recalled _ _ stands before => exact ⟨stands, trivial, before⟩

theorem Fitting.of_append (fits : Fitting observer (later ++ earlier)) : Fitting observer earlier := by
  induction later with
  | nil => exact fits
  | cons event later inductionHypothesis => exact inductionHypothesis fits.2

/-- An answer that holds goes on to hold, and is the answer to everything of its kind. -/
theorem Fitting.lasting (fits : Fitting observer (later ++ earlier))
    (stands : keptAnswer earlier kind = some a) :
    keptAnswer (later ++ earlier) kind = some a ∧
      ∀ event ∈ later, ∀ q b, event.question? = some (q, b) → q.kind = kind →
        event = .recalled q a := by
  induction later with
  | nil => exact ⟨stands, by simp⟩
  | cons event later inductionHypothesis =>
      obtain ⟨still, answered⟩ := inductionHypothesis fits.2
      have fit := fits.1
      refine ⟨?_, List.forall_mem_cons.mpr ⟨?_, answered⟩⟩
      · cases event with
        | progress | recalled => exact still
        | asked p b =>
            have other : p.kind ≠ kind := by
              rintro rfl
              exact absurd (fit.1.symm.trans still) (by simp)
            exact (if_neg fun both => other both.1).trans still
      · intro q b question same
        subst same
        cases event with
        | progress => cases question
        | asked p b' =>
            cases question
            exact absurd (fit.1.symm.trans still) (by simp)
        | recalled p b' =>
            cases question
            exact congrArg _ (Option.some.inj (fit.symm.trans still))

theorem questions_progress (q : Progress) : questions (.progress q :: said) = questions said := rfl

theorem questions_cons {event : Event} {q : Problem × Answer} (asks : event.question? = some q) :
    questions (event :: said) = q :: questions said :=
  List.filterMap_cons_some asks

/-- Whatever is wrong is told once, and is asked about or only remarked on. -/
theorem Conversation.countP_isLoud (talks : Conversation observer remarks said) :
    said.countP Event.isLoud = (questions said).length + remarks.length := by
  induction talks with
  | start => rfl
  | further _ silent before => simpa [Event.isLoud, questions_progress, silent] using before
  | remark _ loud before =>
      simp [Event.isLoud, questions_progress, loud, before]
      omega
  | asked _ loud _ before | recalled _ loud _ before =>
      rw [questions_cons rfl, questions_progress]
      simp [Event.isLoud, loud, before]
      omega

end Saying

/-! ## The course of the talk -/

/-- A run has talked as it should, has kept the answers that hold, and has counted what is wrong. -/
structure Talked (observer : Observer) (remarks : List Remark) (r : Run) : Prop where
  conversation : Conversation observer remarks r.history
  saved : r.saved = keptAnswer r.history
  calm : r.progress.error = none
  counted : r.report.issues = (questions r.history).length + remarks.length

section Talking

variable {observer : Observer} {remarks : List Remark} {r : Run}

namespace Talked

theorem nextStage (talked : Talked observer remarks r) (name : String) :
    Talked observer remarks (r.nextStage name) :=
  ⟨.further talked.conversation rfl, talked.saved, rfl, talked.counted⟩

theorem advance (talked : Talked observer remarks r) (percent : Nat) :
    Talked observer remarks (r.advance percent) := by
  unfold Run.advance
  dsimp only
  split
  · exact ⟨.further talked.conversation talked.calm, talked.saved, talked.calm, talked.counted⟩
  · exact talked

theorem remark (talked : Talked observer remarks r) (m : Remark) :
    Talked observer (m :: remarks) (r.remark m) := by
  refine ⟨.remark talked.conversation rfl, talked.saved, talked.calm, ?_⟩
  exact congrArg (· + 1) talked.counted

theorem ask (talked : Talked observer remarks r) (p : Problem) :
    Talked observer remarks (r.ask observer p).2 := by
  let c := r.raise p
  have stands : keptAnswer c.history p.kind = keptAnswer r.history p.kind := rfl
  have asks : (answered observer c.history p).question? = some (p, reply observer c.history p) := by
    unfold answered
    split <;> rfl
  rw [ask_eq observer p talked.saved]
  refine ⟨?_, rfl, talked.calm, ?_⟩
  · dsimp only
    unfold answered reply
    cases held : keptAnswer r.history p.kind with
    | none =>
        rw [stands.trans held]
        exact .asked talked.conversation rfl held
    | some a =>
        rw [stands.trans held]
        exact .recalled talked.conversation rfl held
  · have counted : c.report.issues = r.report.issues + 1 := rfl
    have before : questions c.history = questions r.history := rfl
    dsimp only
    rw [questions_cons asks, before, List.length_cons, counted, talked.counted]
    omega

theorem congr {r' : Run} (talked : Talked observer remarks r) (history : r'.history = r.history)
    (saved : r'.saved = r.saved) (progress : r'.progress = r.progress)
    (issues : r'.report.issues = r.report.issues) : Talked observer remarks r' :=
  ⟨history ▸ talked.conversation, by rw [saved, history, talked.saved], progress ▸ talked.calm,
    by rw [issues, history, talked.counted]⟩

/-- Whatever a run does, it talks as it should. -/
theorem alone (observer : Observer) (remarks : List Remark) :
    SideBySide observer observer (Alone (Talked observer remarks)) :=
  .alone (fun percent _ talked => talked.advance percent) (fun p _ talked => talked.ask p)
    fun talked => talked.congr

end Talked

/-- What is only remarked on in certain tables. -/
def remarksOn (t : Tables) : List Remark :=
  match (t.tag? Tag.root).map (·.count) with
  | none => [.missingRootTag]
  | some said =>
    if said == (t.libraryItems.length : Int) then []
    else [.wrongItemCounter said t.libraryItems.length]

/-- The first stage remarks on the counter for the whole library, and on nothing else. -/
theorem talked_checkItems {lib : Library} (talked : Talked observer [] r) :
    Talked observer (remarksOn r.tables) (lastRun (checkItems lib observer r)) := by
  have staged : Talked observer [] (r.nextStage "Checking items") := talked.nextStage _
  rw [checkItems_bind]
  suffices counted : Talked observer (remarksOn r.tables) (afterCounter lib observer r) from
    (Alike.bind ((Talked.alone observer _).removeItems lib _)
      (.of_ok ((Talked.alone observer _).advance 100)) _ _ ⟨rfl, counted⟩).alone
  have each {remarks : List Remark} (rooted : Talked observer remarks (afterRoot r)) :
      Talked observer remarks ((afterItems lib observer r).2.note fun report =>
        { report with itemsChecked := r.tables.libraryItems.length }) := by
    have start : SideBySide.Checking (Alone (Talked observer remarks)) ([], afterRoot r) ([], afterRoot r) :=
      ⟨rfl, rfl, rooted⟩
    have checked := (Talked.alone observer remarks).foldl_checkItem lib
      (itemsInOrder r.tables).length ((itemsInOrder r.tables).zipIdx 1) start
    exact checked.2.2.congr rfl rfl rfl rfl
  have rootOf : afterRoot r = if ((r.tables.tag? Tag.root).map (·.count)).isNone
      then (r.nextStage "Checking items").remark .missingRootTag
      else r.nextStage "Checking items" := rfl
  unfold afterCounter checkCounter remarksOn
  cases counter : (r.tables.tag? Tag.root).map (·.count) with
  | none =>
      rw [counter] at rootOf
      exact each (rootOf ▸ staged.remark .missingRootTag)
  | some said =>
      rw [counter] at rootOf
      have checked : Talked observer [] _ := each (by rw [rootOf]; exact staged)
      dsimp only
      split
      · exact checked
      · exact checked.remark _

/-- Whatever comes of the stages, the run has talked as it should. -/
theorem talked_allStages (lib : Library) (observer : Observer) (t : Tables) (w : World) :
    Talked observer (remarksOn t) (lastRun (allStages lib observer w.process (startOf t w))) := by
  have alone := Talked.alone observer (remarksOn t)
  have start : Talked observer [] (startOf t w) := ⟨.start, rfl, rfl, rfl⟩
  have items : Talked observer (remarksOn t) (lastRun (checkItems lib observer (startOf t w))) :=
    talked_checkItems start
  refine Keeps.after (fun r talked => ?_) items
  refine Keeps.after (fun r talked => ?_) (alone.checkFiles lib w.process ⟨rfl, talked.nextStage _⟩).alone
  exact (alone.checkLinks lib ⟨rfl, talked.nextStage _⟩).alone

end Talking

/-! ## Whoever answers every single problem -/

/-- The answer to one problem only. -/
def Answer.once (a : Answer) : Answer := if a.isYes then .yes else .no

@[simp]
theorem Answer.isYes_once (a : Answer) : a.once.isYes = a.isYes := by cases a <;> rfl

@[simp]
theorem Answer.isSaved_once (a : Answer) : a.once.isSaved = false := by cases a <;> rfl

/-- An answer that is asked for, although an answer may hold already. -/
def Event.byHand : Event → Event
  | .progress q => .progress q
  | .asked p a | .recalled p a => .asked p a.once

theorem byHand_answered (observer : Observer) (said : List Event) (p : Problem) :
    (answered observer said p).byHand = .asked p (reply observer said p).once := by
  unfold answered
  split <;> rfl

/-- What would have been said with answers that hold. -/
def retell (observer : Observer) : List Event → List Event
  | [] => []
  | .progress q :: said => .progress q :: retell observer said
  | .asked p _ :: said | .recalled p _ :: said =>
    answered observer (retell observer said) p :: retell observer said

/-- Gives the same answers as somebody else, but to every single problem. -/
def patient (observer : Observer) : Observer := fun said p => (reply observer (retell observer said) p).once

/-- A run with answers that hold, and one in which every problem is asked about. -/
structure Retold (observer : Observer) (r r' : Run) : Prop where
  same : r' = { r with history := r.history.map Event.byHand, saved := fun _ => none }
  told : retell observer (r.history.map Event.byHand) = r.history
  saved : r.saved = keptAnswer r.history

namespace Retold

variable {observer : Observer} {r r' : Run}

theorem ask (retold : Retold observer r r') (p : Problem) :
    (r'.ask (patient observer) p).1 = (r.ask observer p).1 ∧
      Retold observer (r.ask observer p).2 (r'.ask (patient observer) p).2 := by
  obtain ⟨rfl, told, saved⟩ := retold
  rw [ask_eq observer p saved]
  let c := r.raise p
  have toldOf : retell observer (c.history.map Event.byHand) = c.history := congrArg _ told
  have given : patient observer (c.history.map Event.byHand) p = (reply observer c.history p).once := by
    rw [patient, toldOf]
  have once : (patient observer (c.history.map Event.byHand) p).isSaved = false := by
    rw [given, Answer.isSaved_once]
  have asked : Run.ask (patient observer) p
      { r with history := r.history.map Event.byHand, saved := fun _ => none } =
        ((reply observer c.history p).once.isYes,
          { c with
            history := .asked p (reply observer c.history p).once :: c.history.map Event.byHand
            saved := fun _ => none }) := by
    rw [← given]
    exact ask_once rfl once
  rw [asked, Answer.isYes_once]
  refine ⟨rfl, ⟨?_, ?_, rfl⟩⟩
  · dsimp only
    rw [List.map_cons, byHand_answered]
  · dsimp only
    rw [List.map_cons, byHand_answered, retell, toldOf]

theorem nextStage (retold : Retold observer r r') (name : String) :
    Retold observer (r.nextStage name) (r'.nextStage name) := by
  obtain ⟨rfl, told, saved⟩ := retold
  exact ⟨rfl, congrArg _ told, saved⟩

theorem remark (retold : Retold observer r r') (m : Remark) :
    Retold observer (r.remark m) (r'.remark m) := by
  obtain ⟨rfl, told, saved⟩ := retold
  exact ⟨rfl, congrArg _ told, saved⟩

variable (observer) in
theorem sideBySide : SideBySide observer (patient observer) (Retold observer) where
  tables retold := by rw [retold.same]
  files retold := by rw [retold.same]
  report retold := by rw [retold.same]
  advance percent r r' retold := by
    obtain ⟨rfl, told, saved⟩ := retold
    unfold Run.advance
    dsimp only
    split
    · exact ⟨rfl, congrArg _ told, saved⟩
    · exact ⟨rfl, told, saved⟩
  ask p r r' retold := retold.ask p
  edit tables r r' retold := by
    obtain ⟨rfl, told, saved⟩ := retold
    exact ⟨rfl, told, saved⟩
  clear files r r' retold := by
    obtain ⟨rfl, told, saved⟩ := retold
    exact ⟨rfl, told, saved⟩
  note counting r r' _ retold := by
    obtain ⟨rfl, told, saved⟩ := retold
    exact ⟨rfl, told, saved⟩

end Retold

/-! ## The whole verification -/

/-- What is only remarked on in a verification. -/
def remarksIn (lib : Library) (w : World) : List Remark :=
  match lib.tables w.files with
  | .ok t => remarksOn t
  | .error _ => []

/-- What becomes of the answers in a verification. -/
structure AnswersKept (lib : Library) (observer : Observer) (w : World) (run : Verification)
    (w' : World) : Prop where
  /-- A problem is told and then asked about, unless an answer for its kind is kept. -/
  conversation : Conversation observer (remarksIn lib w) run.events.reverse
  /-- After an answer for all of a kind nothing of that kind is asked any more, and the answer to it is that
  one. -/
  lasting : ∀ before p a after, run.events = before ++ .asked p a :: after → a.isSaved = true →
    ∀ event ∈ after, ∀ q b, event.question? = some (q, b) → q.kind = p.kind → event = .recalled q a
  /-- An answer that is not asked for has been given before to something of the kind. -/
  recalled : ∀ before q a after, run.events = before ++ .recalled q a :: after →
    ∃ p, .asked p a ∈ before ∧ p.kind = q.kind ∧ a.isSaved = true
  once : ∀ t, lib.tables w.files = .ok t → t.Keyed → ((questions run.events).map (·.1)).Nodup
  /-- It is as if somebody had said yes or no to every single problem. -/
  byHand : (∀ said p, (patient observer said p).isSaved = false) ∧
    verify lib (patient observer) w = (⟨run.outcome, run.events.map Event.byHand⟩, w')
  counted : ∀ report, run.outcome = .ok report →
    report.issues = (questions run.events).length + (remarksIn lib w).length ∧
      report.issues = run.events.countP Event.isLoud

section Whole

variable (lib : Library) (observer : Observer) (w : World)

/-- Answers that are kept are no more than answers to every single problem. -/
theorem verify_patient : verify lib (patient observer) w =
    (⟨(verify lib observer w).1.outcome, (verify lib observer w).1.events.map Event.byHand⟩,
      (verify lib observer w).2) := by
  unfold verify
  cases lib.tables w.files with
  | error e => rfl
  | ok t =>
      have start : Retold observer (startOf t w) (startOf t w) := ⟨rfl, rfl, rfl⟩
      have ended := (Retold.sideBySide observer).allStages lib
        (fun name _ _ retold => retold.nextStage name) (fun m _ _ retold => retold.remark m)
        w.process _ _ start
      unfold startOf at ended
      dsimp only
      generalize allStages lib observer w.process _ = last at ended ⊢
      generalize allStages lib (patient observer) w.process _ = last' at ended ⊢
      cases ended with
      | ok retold | error retold =>
          rw [retold.same]
          dsimp only
          rw [List.map_reverse]

/-- The talk of a verification is that of a run which has talked as it should. -/
theorem talked_verify : ∃ r, Talked observer (remarksIn lib w) r ∧
    (verify lib observer w).1.events = r.history.reverse ∧
    (∀ report, (verify lib observer w).1.outcome = .ok report → report = r.report) ∧
    ∀ t, lib.tables w.files = .ok t → t.Keyed → r.problems.Nodup := by
  unfold remarksIn verify
  cases isOpen : lib.tables w.files with
  | error e =>
      refine ⟨startOf .fresh w, ⟨.start, rfl, rfl, rfl⟩, rfl, ?_, ?_⟩
      · rintro report ⟨⟩
      · rintro t ⟨⟩
  | ok t =>
      have talked := talked_allStages lib observer t w
      have once : t.Keyed → (lastRun (allStages lib observer w.process (startOf t w))).problems.Nodup :=
        fun keyed => problems_nodup keyed observer
      unfold startOf at talked once
      dsimp only
      generalize allStages lib observer w.process _ = last at talked once ⊢
      cases last with
      | ok r =>
          refine ⟨r, talked, rfl, ?_, ?_⟩
          · rintro report ⟨⟩
            rfl
          · rintro t' ⟨⟩ keyed
            exact once keyed
      | error stop =>
          refine ⟨stop.run, talked, rfl, ?_, ?_⟩
          · rintro report ⟨⟩
          · rintro t' ⟨⟩ keyed
            exact once keyed

/-- An answer for all problems of a kind is kept, and stands for the answer to each of them. -/
theorem answers_kept :
    AnswersKept lib observer w (verify lib observer w).1 (verify lib observer w).2 := by
  obtain ⟨r, talked, events, outcome, once⟩ := talked_verify lib observer w
  have conversation : Conversation observer (remarksIn lib w) (verify lib observer w).1.events.reverse := by
    rw [events, List.reverse_reverse]
    exact talked.conversation
  have fits := conversation.fitting
  refine ⟨conversation, ?_, ?_, ?_, ⟨?_, verify_patient lib observer w⟩, ?_⟩
  · intro before p a after split saves event membership
    rw [split, List.reverse_append, List.reverse_cons, List.append_assoc] at fits
    have kept : keptAnswer ([.asked p a] ++ before.reverse) p.kind = some a := by
      simp [keptAnswer, saves]
    exact (fits.lasting kept).2 event (List.mem_reverse.mpr membership)
  · intro before q a after split
    rw [split, List.reverse_append, List.reverse_cons, List.append_assoc] at fits
    obtain ⟨p, membership, saves⟩ := asked_of_keptAnswer fits.of_append.1
    exact ⟨p, List.mem_reverse.mp membership, saves⟩
  · intro t isOpen keyed
    rw [events, questions_reverse, List.map_reverse, List.nodup_reverse]
    exact once t isOpen keyed
  · exact fun said p => Answer.isSaved_once _
  · intro report done
    rw [outcome report done, talked.counted, events, questions_reverse, List.length_reverse,
      List.countP_reverse, talked.conversation.countP_isLoud]
    exact ⟨rfl, rfl⟩

end Whole

end SampleLibrary.Verifier
