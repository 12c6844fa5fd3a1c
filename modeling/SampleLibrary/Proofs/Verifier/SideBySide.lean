import SampleLibrary.Proofs.Verifier.ItemStage

/-!
# Runs side by side

Two runs whose tables, files and reports agree take the same way as long as they get the same answers,
whatever else is different about them: who is asked, what was said, what is remembered. So a relation
between two runs that talk and silent changes keep up is kept up by the stages (`SideBySide`). With one run
on both sides this tells what holds throughout a run.
-/

namespace SampleLibrary.Verifier

/-- Two steps have come to runs that are related, or have failed alike. -/
inductive EndAlike (related : Run → Run → Prop) : Except Stop Run → Except Stop Run → Prop where
  | ok {r r' : Run} : related r r' → EndAlike related (.ok r) (.ok r')
  | error {e : LibraryError} {r r' : Run} : related r r' →
      EndAlike related (.error ⟨e, r⟩) (.error ⟨e, r'⟩)

/-- Two steps lead from runs that are related to runs that are related. -/
def Alike (related : Run → Run → Prop) (step step' : Step) : Prop :=
  ∀ r r', related r r' → EndAlike related (step r) (step' r')

/-- Runs that are related go side by side, each with somebody else to answer. -/
structure SideBySide (observer observer' : Observer) (related : Run → Run → Prop) : Prop where
  tables : ∀ {r r'}, related r r' → r'.tables = r.tables
  files : ∀ {r r'}, related r r' → r'.files = r.files
  report : ∀ {r r'}, related r r' → r'.report = r.report
  advance : ∀ percent {r r'}, related r r' → related (r.advance percent) (r'.advance percent)
  ask : ∀ p {r r'}, related r r' → (r'.ask observer' p).1 = (r.ask observer p).1 ∧
    related (r.ask observer p).2 (r'.ask observer' p).2
  edit : ∀ tables {r r'}, related r r' →
    related { r with tables, edited := true } { r' with tables, edited := true }
  clear : ∀ files {r r'}, related r r' → related { r with files } { r' with files }
  note : ∀ counting {r r'}, (∀ report, (counting report).issues = report.issues) → related r r' →
    related (r.note counting) (r'.note counting)

namespace Alike

variable {related : Run → Run → Prop} {next next' : Step}

theorem of_ok {change change' : Run → Run}
    (alike : ∀ {r r'}, related r r' → related (change r) (change' r')) :
    Alike related (fun r => .ok (change r)) fun r => .ok (change' r) :=
  fun _ _ before => .ok (alike before)

theorem after {first first' : Except Stop Run} (alike : Alike related next next')
    (before : EndAlike related first first') : EndAlike related (first >>= next) (first' >>= next') := by
  cases before with
  | ok before => exact alike _ _ before
  | error before => exact .error before

theorem bind {step step' : Step} (first : Alike related step step') (second : Alike related next next') :
    Alike related (fun r => step r >>= next) fun r => step' r >>= next' :=
  fun r r' before => after second (first r r' before)

theorem foldlM {α : Type} {step step' : Run → α → Except Stop Run} {entries : List α}
    (each : ∀ entry, Alike related (step · entry) (step' · entry)) :
    Alike related (fun r => entries.foldlM step r) fun r => entries.foldlM step' r := by
  induction entries with
  | nil => exact of_ok id
  | cons entry entries inductionHypothesis =>
      intro r r' before
      dsimp only
      rw [List.foldlM_cons, List.foldlM_cons]
      exact after inductionHypothesis (each entry r r' before)

end Alike

namespace SideBySide

variable {observer observer' : Observer} {related : Run → Run → Prop} {r r' : Run}
  {change : Tables → Tables} {counting : Report → Report}
  (together : SideBySide observer observer' related) (lib : Library)

include together

/-! ## Single steps -/

theorem asked (p : Problem) (before : related r r') :
    ∃ wanted r₁ r₁', r.ask observer p = (wanted, r₁) ∧ r'.ask observer' p = (wanted, r₁') ∧
      related r₁ r₁' := by
  obtain ⟨answer, after⟩ := together.ask p before
  exact ⟨_, (r.ask observer p).2, (r'.ask observer' p).2, rfl, Prod.ext answer rfl, after⟩

theorem offer {p : Problem} {repair repair' : Step} (repairs : Alike related repair repair') :
    Alike related (fun r => r.offer observer p repair) fun r => r.offer observer' p repair' := by
  intro r r' before
  obtain ⟨wanted, r₁, r₁', asked, asked', after⟩ := together.asked p before
  dsimp only [Run.offer]
  rw [asked, asked']
  cases wanted with
  | true => exact repairs r₁ r₁' after
  | false => exact .ok after

theorem editing (uncounted : ∀ report, (counting report).issues = report.issues) :
    Alike related (fun r => (r.edit lib change).map fun r => r.note counting)
      fun r => (r.edit lib change).map fun r => r.note counting := by
  intro r r' before
  dsimp only [Run.edit]
  by_cases writable : lib.isWritable r.files = true
  · rw [if_pos writable, if_pos (together.files before ▸ writable), together.tables before]
    exact .ok (together.note counting uncounted (together.edit (change r.tables) before))
  · rw [if_neg writable, if_neg (together.files before ▸ writable)]
    exact .error before

theorem removeFile (path : String) (before : related r r') :
    ∃ removed r₁ r₁', r.removeFile path = (removed, r₁) ∧ r'.removeFile path = (removed, r₁') ∧
      related r₁ r₁' := by
  unfold Run.removeFile
  rw [together.files before]
  cases r.files.remove path with
  | ok files =>
      exact ⟨true, _, _, rfl, rfl, together.note _ (fun _ => by rfl) (together.clear files before)⟩
  | error => exact ⟨false, r, r', rfl, rfl, before⟩

theorem removeDirectory (path : String) (before : related r r') :
    related (r.removeDirectory path) (r'.removeDirectory path) := by
  unfold Run.removeDirectory
  rw [together.files before]
  split
  · exact together.note _ (fun _ => rfl) (together.clear _ before)
  · exact before

theorem entriesOf {path : String} {step step' : List (String × Node) → Step}
    (each : ∀ entries, Alike related (step entries) (step' entries)) :
    Alike related (fun r => Verifier.entriesOf path r >>= fun entries => step entries r)
      fun r => Verifier.entriesOf path r >>= fun entries => step' entries r := by
  intro r r' before
  dsimp only [Verifier.entriesOf]
  rw [together.files before]
  split
  · exact each _ r r' before
  · exact .error before

theorem removeItems (ids : List Int) :
    Alike related (Verifier.removeItems lib ids) (Verifier.removeItems lib ids) := by
  intro r r' before
  unfold Verifier.removeItems
  split
  · exact .ok before
  · exact together.editing lib (fun _ => by rfl) r r' before

theorem removeInvalid (item : Int) (path : String) :
    Alike related (Verifier.removeInvalid lib item path) (Verifier.removeInvalid lib item path) := by
  intro r r' before
  obtain ⟨removed, r₁, r₁', removes, removes', after⟩ := together.removeFile path before
  unfold Verifier.removeInvalid
  rw [removes, removes']
  cases removed with
  | true => exact together.editing lib (fun _ => by rfl) r₁ r₁' after
  | false => exact .ok after

theorem removeUnknown (path : String) :
    Alike related (Verifier.removeUnknown path) (Verifier.removeUnknown path) := by
  intro r r' before
  obtain ⟨removed, r₁, r₁', removes, removes', after⟩ := together.removeFile path before
  unfold Verifier.removeUnknown
  rw [removes, removes']
  exact .ok after

/-! ## The first stage -/

/-- Items have been checked side by side, and the same ones are to be removed. -/
def Checking (related : Run → Run → Prop) (state state' : List Int × Run) : Prop :=
  state'.1 = state.1 ∧ related state.2 state'.2

theorem checkItem (total : Nat) (entry : Item × Nat) {state state' : List Int × Run}
    (before : Checking related state state') :
    Checking related (Verifier.checkItem lib observer total state entry)
      (Verifier.checkItem lib observer' total state' entry) := by
  obtain ⟨removed, r⟩ := state
  obtain ⟨removed', r'⟩ := state'
  obtain ⟨i, number⟩ := entry
  obtain ⟨rfl, before⟩ : removed' = removed ∧ related r r' := before
  have advanced := together.advance (100 * number / max total 1) before
  obtain ⟨wanted, r₁, r₁', asked, asked', after⟩ := together.asked
    (.missingFile i.id ((i.text? .name).getD "") (itemPath lib i)) advanced
  unfold Verifier.checkItem
  dsimp only
  rw [together.files advanced]
  split
  · exact ⟨rfl, advanced⟩
  · rw [asked, asked']
    cases wanted with
    | true => exact ⟨rfl, after⟩
    | false => exact ⟨rfl, after⟩

theorem foldl_checkItem (total : Nat) (entries : List (Item × Nat)) {state state' : List Int × Run}
    (before : Checking related state state') :
    Checking related (entries.foldl (Verifier.checkItem lib observer total) state)
      (entries.foldl (Verifier.checkItem lib observer' total) state') := by
  induction entries generalizing state state' with
  | nil => exact before
  | cons entry entries inductionHypothesis =>
      exact inductionHypothesis (together.checkItem lib total entry before)

/-- The first stage keeps up what remarks keep up as well. -/
theorem checkItems (remark : ∀ m {r r'}, related r r' → related (r.remark m) (r'.remark m))
    (staged : related (r.nextStage "Checking items") (r'.nextStage "Checking items")) :
    EndAlike related (Verifier.checkItems lib observer r) (Verifier.checkItems lib observer' r') := by
  have tables := together.tables staged
  rw [nextStage_tables, nextStage_tables] at tables
  have root : related (afterRoot r) (afterRoot r') := by
    unfold afterRoot
    dsimp only
    rw [together.tables staged]
    split
    · exact remark _ staged
    · exact staged
  have counter (said : Option Int) (items : Nat) {r r' : Run} (before : related r r') :
      related (checkCounter said items r) (checkCounter said items r') := by
    unfold checkCounter
    split
    · split
      · exact before
      · exact remark _ before
    · exact before
  have each : Checking related (afterItems lib observer r) (afterItems lib observer' r') := by
    unfold afterItems
    rw [tables]
    exact together.foldl_checkItem lib _ _ ⟨rfl, root⟩
  have counted : related (afterCounter lib observer r) (afterCounter lib observer' r') := by
    unfold afterCounter
    rw [tables]
    exact counter _ _ (together.note
      (fun report => { report with itemsChecked := r.tables.libraryItems.length }) (fun _ => rfl) each.2)
  rw [checkItems_bind, checkItems_bind, each.1]
  exact Alike.after (.of_ok (together.advance 100)) (together.removeItems lib _ _ _ counted)

/-! ## The second stage -/

theorem checkBlob (path md5 extension : String) :
    Alike related (Verifier.checkBlob lib observer path md5 extension)
      (Verifier.checkBlob lib observer' path md5 extension) := by
  intro r r' before
  unfold Verifier.checkBlob
  rw [together.tables before, together.files before]
  split
  · exact together.offer (together.removeUnknown path) r r' before
  · split
    · exact together.offer (together.removeInvalid lib _ path) r r' before
    · split
      · exact .ok before
      · exact together.offer (together.removeUnknown path) r r' before

theorem checkFiles (process : Nat)
    (staged : related (r.nextStage "Checking files") (r'.nextStage "Checking files")) :
    EndAlike related (Verifier.checkFiles lib observer process r)
      (Verifier.checkFiles lib observer' process r') := by
  have entry (first second : String) (e : String × Node) :
      Alike related (checkBlobEntry lib observer first second e)
        (checkBlobEntry lib observer' first second e) := by
    intro r r' before
    unfold checkBlobEntry
    split
    · split
      · exact together.checkBlob lib _ _ _ r r' before
      · exact .ok before
    · exact .ok before
  have second (first : String) (e : String × Node) :
      Alike related (checkSecondEntry lib observer first e)
        (checkSecondEntry lib observer' first e) := by
    intro r r' before
    unfold checkSecondEntry
    split
    · exact together.entriesOf (fun entries => .foldlM fun e' => entry first e.1 e') _ _
        (together.advance _ before)
    · exact .ok before
  have top (e : String × Node) :
      Alike related (checkTopEntry lib observer process e)
        (checkTopEntry lib observer' process e) := by
    intro r r' before
    unfold checkTopEntry
    dsimp only
    split
    · exact .ok before
    · split
      · exact together.entriesOf (fun entries => .foldlM fun e' => second e.1 e') r r' before
      · split
        · split
          · exact .ok before
          · exact together.offer (.of_ok (together.removeDirectory _)) r r' before
        · exact .ok before
  exact together.entriesOf
    (fun entries => Alike.bind (.foldlM top) (.of_ok (together.advance 100))) _ _ staged

/-! ## The third stage -/

theorem offerRemoval (count : Nat) (p : Problem) (change : Tables → Tables) :
    Alike related (Verifier.offerRemoval lib observer count p change)
      (Verifier.offerRemoval lib observer' count p change) := by
  intro r r' before
  unfold Verifier.offerRemoval
  split
  · exact .ok before
  · exact together.offer (together.editing lib fun _ => by rfl) r r' before

theorem checkCounts :
    Alike related (Verifier.checkCounts lib observer) (Verifier.checkCounts lib observer') := by
  have recounts : Alike related (recount lib) (recount lib) := together.editing lib fun _ => by rfl
  intro r r' before
  unfold Verifier.checkCounts
  rw [together.report before, together.tables before]
  split
  · exact recounts r r' before
  · split
    · exact .ok before
    · exact together.offer recounts r r' before

theorem checkLinks
    (staged : related (r.nextStage "Checking item tags") (r'.nextStage "Checking item tags")) :
    EndAlike related (Verifier.checkLinks lib observer r)
      (Verifier.checkLinks lib observer' r') := by
  unfold Verifier.checkLinks
  dsimp only
  rw [together.tables staged]
  refine Alike.after ?_ (together.offerRemoval lib _ _ _ _ _ (together.advance 25 staged))
  intro r r' before
  dsimp only
  rw [together.tables before]
  refine Alike.after ?_ (together.offerRemoval lib _ _ _ _ _ (together.advance 50 before))
  intro r r' before
  dsimp only
  rw [together.tables before]
  refine Alike.after ?_ (together.offerRemoval lib _ _ _ _ _ (together.advance 75 before))
  intro r r' before
  exact Alike.after (.of_ok (together.advance 100)) (together.checkCounts lib r r' before)

theorem allStages
    (nextStage : ∀ name {r r'}, related r r' → related (r.nextStage name) (r'.nextStage name))
    (remark : ∀ m {r r'}, related r r' → related (r.remark m) (r'.remark m)) (process : Nat) :
    Alike related (Verifier.allStages lib observer process)
      (Verifier.allStages lib observer' process) := by
  intro r r' before
  refine Alike.after ?_ (together.checkItems lib remark (nextStage _ before))
  intro r r' before
  refine Alike.after ?_ (together.checkFiles lib process (nextStage _ before))
  intro r r' before
  exact together.checkLinks lib (nextStage _ before)

end SideBySide

/-! ## One run on both sides -/

/-- A run beside itself. -/
def Alone (holds : Run → Prop) (r r' : Run) : Prop := r' = r ∧ holds r

/-- What talk keeps up, and what does not depend on tables, files and most numbers. -/
theorem SideBySide.alone {observer : Observer} {holds : Run → Prop}
    (advance : ∀ percent r, holds r → holds (r.advance percent))
    (ask : ∀ p r, holds r → holds (r.ask observer p).2)
    (congr : ∀ {r r' : Run}, holds r → r'.history = r.history → r'.saved = r.saved →
      r'.progress = r.progress → r'.report.issues = r.report.issues → holds r') :
    SideBySide observer observer (Alone holds) where
  tables beside := by rw [beside.1]
  files beside := by rw [beside.1]
  report beside := by rw [beside.1]
  advance percent _ _ beside := ⟨by rw [beside.1], advance percent _ beside.2⟩
  ask p _ _ beside := ⟨by rw [beside.1], by rw [beside.1], ask p _ beside.2⟩
  edit _ _ _ beside := ⟨by rw [beside.1], congr beside.2 rfl rfl rfl rfl⟩
  clear _ _ _ beside := ⟨by rw [beside.1], congr beside.2 rfl rfl rfl rfl⟩
  note _ _ _ uncounted beside := ⟨by rw [beside.1], congr beside.2 rfl rfl rfl (uncounted _)⟩

theorem EndAlike.alone {holds : Run → Prop} {last : Except Stop Run}
    (ended : EndAlike (Alone holds) last last) : holds (lastRun last) := by
  cases ended with
  | ok after => exact after.2
  | error after => exact after.2

end SampleLibrary.Verifier
