import SampleLibrary.Proofs.Files.Removing
import SampleLibrary.Proofs.Verifier.Visits

/-!
# The second stage as a list of visits

What the second stage comes to can be told from the files at its start (`visits`), because a visit clears
away nothing but what was visited. So the stage is one loop over this list (`checkFiles_eq`).
-/

namespace SampleLibrary.Verifier

/-! ## Where visits lead -/

/-- Where the file with a checksum and an extension is, in the directory of a library. -/
def blobAt (place : Location) (md5 extension : String) : Location :=
  place ++ [firstPart md5, secondPart md5, blobName md5 extension]

/-- There is a file with the name for a checksum and an extension, in the directory for it. -/
structure BlobFile (fs : Files) (place : Location) (md5 extension : String) (id : Nat) : Prop where
  naming : Naming md5 extension
  first : fs.nodes[place ++ [firstPart md5]]? = some .directory
  second : fs.nodes[place ++ [firstPart md5, secondPart md5]]? = some .directory
  file : fs.nodes[blobAt place md5 extension]? = some (.file id)

/-- There is a directory for the aliases of another process. -/
structure StaleDirectory (fs : Files) (place : Location) (process : Nat) (name : String) : Prop where
  owner : ∃ owner, tmpProcess? name = some owner ∧ owner ≠ process
  directory : fs.nodes[place ++ [name]]? = some .directory

namespace Visit

/-- There is what is to be visited. -/
def Stands (fs : Files) (place : Location) (process : Nat) : Visit → Prop
  | file md5 extension => ∃ id, BlobFile fs place md5 extension id
  | stale name => StaleDirectory fs place process name
  | _ => True

/-- The locations that are cleared if what is visited has to go. -/
def Takes (place : Location) : Visit → Location → Prop
  | file md5 extension, location => location = blobAt place md5 extension
  | stale name, location => place ++ [name] <+: location
  | _, _ => False

end Visit

section Paths

variable {lib : Library} {fs₀ fs fs' : Files} {place : Location} {process : Nat}

/-- The path of a directory for one or two digits leads to it. -/
theorem stat_below_digits {base name : String} {length : Nat} (digits : isHexName length name = true)
    (positive : 0 < length) (small : length ≤ 2) (leads : fs.stat base true = .ok (place, .directory))
    (usable : Files.Usable (Path.below base name))
    (there : fs.nodes[place ++ [name]]? = some .directory) :
    fs.stat (Path.below base name) true = .ok (place ++ [name], .directory) := by
  have short : ¬name.utf8ByteSize > Files.maxName := by
    rw [utf8ByteSize_of_isHexName digits, Files.maxName]
    omega
  exact Files.stat_below (isName_of_isHexName positive digits) leads usable short there (.inr (by simp))

/-- The path of a directory for checksums leads to it. -/
theorem stat_secondPart {md5 extension : String} {id : Nat}
    (leads : fs₀.stat lib.base true = .ok (place, .directory))
    (blob : BlobFile fs₀ place md5 extension id)
    (usable : Files.Usable (blobPath lib md5 extension)) :
    fs₀.stat (Path.below (Path.below lib.base (firstPart md5)) (secondPart md5)) true =
      .ok (place ++ [firstPart md5, secondPart md5], .directory) := by
  have isFirst := isName_firstPart blob.naming.digits
  have isSecond := isName_secondPart blob.naming.digits
  obtain ⟨oneDigit, twoDigits⟩ := isHexName_parts blob.naming.digits
  have inner := usable.of_below (Files.below_ne_empty _ isSecond) blob.naming.isName
  have outer := inner.of_below (Files.below_ne_empty _ isFirst) isSecond
  have first := stat_below_digits oneDigit Nat.one_pos (by omega) leads outer blob.first
  rw [List.append_cons]
  exact stat_below_digits twoDigits Nat.two_pos (Nat.le_refl 2) first inner (by simpa using blob.second)

/-- The path of a file for a checksum leads to it, if it leads anywhere. -/
theorem stat_blobPath {md5 extension : String} {id : Nat} {location : Location} {node : Node}
    {followLast : Bool} (leads : fs₀.stat lib.base true = .ok (place, .directory))
    (blob : BlobFile fs₀ place md5 extension id)
    (found : fs₀.stat (blobPath lib md5 extension) followLast = .ok (location, node)) :
    location = blobAt place md5 extension ∧ node = .file id := by
  have usable := Files.usable_of_resolve (Files.stat_eq_ok_iff.mp found)
  have there : fs₀.nodes[place ++ [firstPart md5, secondPart md5] ++ [blobName md5 extension]]? =
      some (.file id) := by
    simpa [blobAt] using blob.file
  rcases Files.stat_below_inv blob.naming.isName (stat_secondPart leads blob usable) found
    (.inr (by rw [there]; simp)) with ⟨same, entry, -⟩
  rw [there] at entry
  exact ⟨by simpa [blobAt] using same, (Option.some.inj entry).symm⟩

/-- A visit clears away what is visited, and nothing else. -/
theorem Visit.Stands.cleared {v : Visit}
    (leads : fs₀.stat lib.base true = .ok (place, .directory))
    (stands : v.Stands fs₀ place process) (within : fs.Within fs₀)
    (cleared : v.clear lib fs = .ok fs') : Files.Cleared (v.Takes place) fs fs' := by
  cases v with
  | progress | listing =>
      cases cleared
      exact ⟨fun _ never => never.elim, fun _ _ => rfl, rfl, rfl⟩
  | file md5 extension =>
      obtain ⟨id, blob⟩ := stands
      obtain ⟨location, node, found, -, result⟩ := Files.cleared_remove cleared
      obtain ⟨rfl, -⟩ := stat_blobPath leads blob (within.stat found)
      exact result
  | stale name =>
      obtain ⟨⟨owner, owned, -⟩, directory⟩ := stands
      have isName := isName_of_tmpProcess? owned
      unfold Visit.clear at cleared
      cases found : fs.stat (Path.below lib.base name) false with
      | error e => simp [Files.removeTree, found] at cleared
      | ok result =>
          obtain ⟨location, node⟩ := result
          obtain ⟨rfl, entry, -⟩ := Files.stat_below_inv isName leads (within.stat found) (.inl rfl)
          rw [directory] at entry
          cases entry
          exact Files.cleared_removeTree found cleared

end Paths

/-! ## What the second stage comes to -/

/-- The visits in a directory for files. -/
def fileVisits (first second : String) (entry : String × Node) : List Visit :=
  match entry.2, blobName? entry.1 with
  | .file _, some (md5, extension) =>
    if firstPart md5 == first && secondPart md5 == second then [.file md5 extension] else []
  | _, _ => []

/-- The visits in a directory for the first digit of checksums. -/
def secondVisits (lib : Library) (fs : Files) (place : Location) (first : String)
    (entry : String × Node) : List Visit :=
  if entry.2 == .directory && isHexName 2 entry.1 then
    .progress (100 * hexValue (first ++ entry.1) / blobDirectories) ::
      .listing (Path.below (Path.below lib.base first) entry.1) ::
      (fs.children (place ++ [first] ++ [entry.1])).flatMap (fileVisits first entry.1)
  else []

/-- The visits in the directory of the library. -/
def topVisits (lib : Library) (fs : Files) (place : Location) (process : Nat)
    (entry : String × Node) : List Visit :=
  if entry.2 != .directory then []
  else if isHexName 1 entry.1 then
    .listing (Path.below lib.base entry.1) ::
      (fs.children (place ++ [entry.1])).flatMap (secondVisits lib fs place entry.1)
  else match tmpProcess? entry.1 with
    | some owner => if owner == process then [] else [.stale entry.1]
    | none => []

/-- All visits, in order. -/
def visits (lib : Library) (fs : Files) (place : Location) (process : Nat) : List Visit :=
  (fs.children place).flatMap (topVisits lib fs place process)

/-- One visit after the other. -/
def runVisits (lib : Library) (observer : Observer) (vs : List Visit) : Step := fun r =>
  vs.foldlM (fun r v => v.step lib observer r) r

section Loops

variable {lib : Library} {observer : Observer} {process : Nat} {fs₀ : Files} {place : Location}
  {r r' : Run}

@[simp]
theorem runVisits_nil : runVisits lib observer [] r = .ok r := rfl

theorem runVisits_cons (v : Visit) (vs : List Visit) :
    runVisits lib observer (v :: vs) r =
      v.step lib observer r >>= fun r => runVisits lib observer vs r := by
  simp [runVisits]

theorem runVisits_append (vs vs' : List Visit) :
    runVisits lib observer (vs ++ vs') r =
      runVisits lib observer vs r >>= fun r => runVisits lib observer vs' r := by
  simp [runVisits]

/-- At and below a location, everything is as at the start. -/
def SameBelow (fs₀ : Files) (location : Location) (r : Run) : Prop :=
  ∀ l, location <+: l → r.files.nodes[l]? = fs₀.nodes[l]?

/-- A step does the same as some visits and loses names below a location only. -/
structure Does (lib : Library) (observer : Observer) (location : Location) (vs : List Visit)
    (r : Run) (step : Step) : Prop where
  equation : step r = runVisits lib observer vs r
  lost : ∀ r', step r = .ok r' → Files.LostBelow location r.files r'.files

theorem Does.append {location : Location} {vs vs' : List Visit} {first second : Step}
    (one : Does lib observer location vs r first)
    (two : ∀ r₁, first r = .ok r₁ → Does lib observer location vs' r₁ second) :
    Does lib observer location (vs ++ vs') r fun r => first r >>= second := by
  cases done : first r with
  | error stop =>
      constructor
      · rw [runVisits_append, ← one.equation, done]
        rfl
      · intro r' never
        rw [done] at never
        cases never
  | ok r₁ =>
      have rest := two r₁ done
      constructor
      · rw [runVisits_append, ← one.equation, done]
        exact rest.equation
      · intro r' ended
        rw [done] at ended
        exact (one.lost r₁ done).trans (rest.lost r' ended)

theorem Does.above {location : Location} {rest : List String} {vs : List Visit} {step : Step}
    (does : Does lib observer (location ++ rest) vs r step) :
    Does lib observer location vs r step :=
  ⟨does.equation, fun r' done => (does.lost r' done).above⟩

/-- A loop over the entries of a directory does what it does for each entry, because the names below the
later entries are still there. -/
theorem does_foldlM {location : Location} {entries : List (String × Node)}
    {check : String × Node → Step} {visitsOf : String × Node → List Visit}
    (ordered : entries.Pairwise fun a b => a.1 < b.1)
    (each : ∀ e ∈ entries, ∀ r, r.files.Within fs₀ → SameBelow fs₀ (location ++ [e.1]) r →
      Does lib observer (location ++ [e.1]) (visitsOf e) r (check e))
    (within : r.files.Within fs₀) (same : ∀ e ∈ entries, SameBelow fs₀ (location ++ [e.1]) r) :
    Does lib observer location (entries.flatMap visitsOf) r
      fun r => entries.foldlM (fun r e => check e r) r := by
  induction entries generalizing r with
  | nil =>
      refine ⟨rfl, ?_⟩
      intro r' done
      cases done
      exact .refl _
  | cons e entries inductionHypothesis =>
      obtain ⟨before, ordered⟩ := List.pairwise_cons.mp ordered
      have first := each e (by simp) r within (same e (by simp))
      rw [List.flatMap_cons]
      simp only [List.foldlM_cons]
      apply first.above.append
      intro r₁ done
      have lost := first.lost r₁ done
      apply inductionHypothesis ordered
      · intro e' membership
        exact each e' (List.mem_cons_of_mem _ membership)
      · exact lost.within.trans within
      · intro e' membership l below
        have apart : ¬location ++ [e.1] <+: l := by
          intro above
          have names := List.prefix_of_prefix_length_le above below (by simp)
          simp only [List.prefix_append_right_inj, List.cons_prefix_cons] at names
          exact String.ne_of_lt (before e' membership) names.1
        rw [lost.kept l apart]
        exact same e' (List.mem_cons_of_mem _ membership) l below

theorem does_nothing (location : Location) (r : Run) :
    Does lib observer location [] r fun r => .ok r := by
  refine ⟨rfl, ?_⟩
  intro r' done
  cases done
  exact .refl _

theorem does_visit {location : Location} {v : Visit}
    (leads : fs₀.stat lib.base true = .ok (place, .directory)) (within : r.files.Within fs₀)
    (stands : v.Stands fs₀ place process) (inside : ∀ l, v.Takes place l → location <+: l) :
    Does lib observer location [v] r (v.step lib observer) := by
  refine ⟨?_, fun r' done => ?_⟩
  · rw [runVisits_cons]
    cases v.step lib observer r <;> rfl
  · rcases (Visit.step_taken done).effect with ⟨-, same⟩ | ⟨p, gone, -, cleared⟩
    · rw [same]
      exact .refl _
    · exact (stands.cleared leads within cleared.files).lostBelow inside

theorem entriesOf_ok {path : String} {entries : List (String × Node)}
    (listed : entriesOf path r = .ok entries) :
    ∃ location, r.files.stat path true = .ok (location, .directory) ∧
      entries = r.files.children location := by
  unfold entriesOf Files.list at listed
  split at listed
  · rename_i entries' ok
    cases listed
    split at ok
    · rename_i location found
      cases ok
      exact ⟨location, found, rfl⟩
    · cases ok
    · cases ok
  · cases listed

/-- Listing a directory and going through it. -/
theorem does_listing {location : Location} {path : String} {check : String × Node → Step}
    {visitsOf : String × Node → List Visit}
    (leads : ∀ l, fs₀.stat path true = .ok (l, .directory) → l = location)
    (each : fs₀.stat path true = .ok (location, .directory) →
      ∀ e ∈ fs₀.children location, ∀ r, r.files.Within fs₀ → SameBelow fs₀ (location ++ [e.1]) r →
        Does lib observer (location ++ [e.1]) (visitsOf e) r (check e))
    (within : r.files.Within fs₀) (same : SameBelow fs₀ location r) :
    Does lib observer location (.listing path :: (fs₀.children location).flatMap visitsOf) r
      fun r => entriesOf path r >>= fun entries => entries.foldlM (fun r e => check e r) r := by
  have first : (Visit.listing path).step lib observer r = (entriesOf path r).map fun _ => r := rfl
  cases listed : entriesOf path r with
  | error stop =>
      constructor
      · rw [runVisits_cons, first, listed]
        rfl
      · intro r' never
        rw [listed] at never
        cases never
  | ok entries =>
      obtain ⟨l, found, isListing⟩ := entriesOf_ok listed
      have before := within.stat found
      obtain rfl := leads l before
      have isChildren : entries = fs₀.children l :=
        isListing.trans (Files.children_congr fun name => same _ (List.prefix_append _ _))
      subst isChildren
      have inner := does_foldlM (fs₀.children_ordered l) (each before) within
        fun e _ l' below => same l' ((List.prefix_append _ _).trans below)
      constructor
      · rw [runVisits_cons, first, listed]
        exact inner.equation
      · intro r' done
        rw [listed] at done
        exact inner.lost r' done

/-! ## The stage -/

theorem does_blobEntry (process : Nat) {first second : String} {e : String × Node}
    (leads : fs₀.stat lib.base true = .ok (place, .directory)) (within : r.files.Within fs₀)
    (isFirst : fs₀.nodes[place ++ [first]]? = some .directory)
    (isSecond : fs₀.nodes[place ++ [first] ++ [second]]? = some .directory)
    (entry : e ∈ fs₀.children (place ++ [first] ++ [second])) :
    Does lib observer (place ++ [first] ++ [second] ++ [e.1]) (fileVisits first second e) r
      (checkBlobEntry lib observer first second e) := by
  obtain ⟨name, node⟩ := e
  have there := Files.mem_children.mp entry
  unfold checkBlobEntry fileVisits
  cases node with
  | directory => exact does_nothing _ r
  | link target => exact does_nothing _ r
  | file id =>
      cases parts : blobName? name with
      | none => exact does_nothing _ r
      | some both =>
          obtain ⟨md5, extension⟩ := both
          obtain ⟨rfl, naming⟩ := blobName?_eq_some.mp parts
          dsimp only
          split
          · rename_i named
            simp only [Bool.and_eq_true, beq_iff_eq] at named
            obtain ⟨rfl, rfl⟩ := named
            have blob : BlobFile fs₀ place md5 extension id :=
              ⟨naming, isFirst, by simpa using isSecond, by simpa [blobAt] using there⟩
            have stands : (Visit.file md5 extension).Stands fs₀ place process := ⟨id, blob⟩
            apply does_visit leads within stands
            rintro l rfl
            simp [blobAt]
          · exact does_nothing _ r

theorem does_secondEntry (process : Nat) {first : String} {e : String × Node}
    (leads : fs₀.stat lib.base true = .ok (place, .directory)) (within : r.files.Within fs₀)
    (isFirst : fs₀.nodes[place ++ [first]]? = some .directory)
    (leadsFirst : fs₀.stat (Path.below lib.base first) true = .ok (place ++ [first], .directory))
    (entry : e ∈ fs₀.children (place ++ [first]))
    (same : SameBelow fs₀ (place ++ [first] ++ [e.1]) r) :
    Does lib observer (place ++ [first] ++ [e.1]) (secondVisits lib fs₀ place first e) r
      (checkSecondEntry lib observer first e) := by
  obtain ⟨second, node⟩ := e
  have there := Files.mem_children.mp entry
  unfold checkSecondEntry secondVisits
  dsimp only
  by_cases named : (node == .directory && isHexName 2 second) = true
  · simp only [if_pos named]
    simp only [Bool.and_eq_true, beq_iff_eq] at named
    obtain ⟨rfl, digits⟩ := named
    have isName := isName_of_isHexName Nat.two_pos digits
    let percent := 100 * hexValue (first ++ second) / blobDirectories
    have progress : Does lib observer (place ++ [first] ++ [second]) [.progress percent] r
        fun r => .ok (r.advance percent) :=
      does_visit leads within (show Visit.Stands fs₀ place process (.progress percent) from trivial)
        fun _ never => never.elim
    have listing : Does lib observer (place ++ [first] ++ [second])
        (.listing (Path.below (Path.below lib.base first) second) ::
          (fs₀.children (place ++ [first] ++ [second])).flatMap (fileVisits first second))
        (r.advance percent) fun r => entriesOf (Path.below (Path.below lib.base first) second) r >>=
          fun entries => entries.foldlM (fun r e => checkBlobEntry lib observer first second e r) r := by
      apply does_listing
      · intro l found
        exact (Files.stat_below_inv isName leadsFirst found (.inr (by rw [there]; simp))).1
      · intro _ e entry r within _
        exact does_blobEntry process leads within isFirst there entry
      · exact advance_files r percent ▸ within
      · unfold SameBelow
        rw [advance_files]
        exact same
    have both := progress.append fun r₁ done => Except.ok.inj done ▸ listing
    exact both
  · simp only [if_neg named]
    exact does_nothing _ r

theorem does_topEntry {e : String × Node}
    (leads : fs₀.stat lib.base true = .ok (place, .directory)) (within : r.files.Within fs₀)
    (entry : e ∈ fs₀.children place) (same : SameBelow fs₀ (place ++ [e.1]) r) :
    Does lib observer (place ++ [e.1]) (topVisits lib fs₀ place process e) r
      (checkTopEntry lib observer process e) := by
  obtain ⟨name, node⟩ := e
  have there := Files.mem_children.mp entry
  unfold checkTopEntry topVisits
  dsimp only
  by_cases other : (node != .directory) = true
  · simp only [if_pos other]
    exact does_nothing _ r
  · simp only [if_neg other]
    obtain rfl : node = .directory := by simpa using other
    by_cases digits : isHexName 1 name = true
    · simp only [if_pos digits]
      have isName := isName_of_isHexName Nat.one_pos digits
      apply does_listing
      · intro l found
        exact (Files.stat_below_inv isName leads found (.inr (by rw [there]; simp))).1
      · intro leadsFirst e entry r within same
        exact does_secondEntry process leads within there leadsFirst entry same
      · exact within
      · exact same
    · simp only [if_neg digits]
      cases owned : tmpProcess? name with
      | none => exact does_nothing _ r
      | some owner =>
          dsimp only
          split
          · exact does_nothing _ r
          · rename_i foreign
            have stands : (Visit.stale name).Stands fs₀ place process :=
              ⟨⟨owner, owned, by simpa using foreign⟩, there⟩
            exact does_visit leads within stands fun _ below => below

/-- The second stage goes through its visits. -/
theorem checkFiles_eq (observer : Observer) (process : Nat)
    (leads : r.files.stat lib.base true = .ok (place, .directory)) :
    checkFiles lib observer process r =
      runVisits lib observer (visits lib r.files place process) (r.nextStage "Checking files") >>=
        fun r => .ok (r.advance 100) := by
  have listing : entriesOf lib.base (r.nextStage "Checking files") =
      .ok (r.files.children place) := by
    simp only [entriesOf, nextStage_files, Files.list, leads]
  have loop : Does lib observer place (visits lib r.files place process)
      (r.nextStage "Checking files") fun r' =>
        (r.files.children place).foldlM (fun r e => checkTopEntry lib observer process e r) r' := by
    apply does_foldlM (r.files.children_ordered place)
    · intro e entry r₁ within same
      exact does_topEntry leads within entry same
    · exact .refl _
    · intro e _ l _
      rfl
  unfold checkFiles
  dsimp only
  rw [listing, ← loop.equation]
  rfl

/-- The second stage fails at once where the directory of the library cannot be found. -/
theorem leads_of_checkFiles (done : checkFiles lib observer process r = .ok r') :
    ∃ place, r.files.stat lib.base true = .ok (place, .directory) := by
  unfold checkFiles at done
  dsimp only at done
  cases listed : entriesOf lib.base (r.nextStage "Checking files") with
  | error stop =>
      rw [listed] at done
      cases done
  | ok entries =>
      obtain ⟨place, found, -⟩ := entriesOf_ok listed
      exact ⟨place, found⟩

end Loops

/-! ## Which visits there are -/

section Membership

variable {lib : Library} {fs : Files} {place : Location} {process : Nat}

theorem mem_fileVisits {first second : String} {entry : String × Node} {v : Visit} :
    v ∈ fileVisits first second entry ↔ ∃ md5 extension, v = .file md5 extension ∧
      (∃ id, entry = (blobName md5 extension, .file id)) ∧ Naming md5 extension ∧
      firstPart md5 = first ∧ secondPart md5 = second := by
  obtain ⟨name, node⟩ := entry
  unfold fileVisits
  dsimp only
  constructor
  · intro membership
    split at membership
    · rename_i node' both id md5 extension parts
      obtain ⟨rfl, naming⟩ := blobName?_eq_some.mp parts
      split at membership
      · rename_i named
        simp only [Bool.and_eq_true, beq_iff_eq] at named
        obtain rfl := List.mem_singleton.mp membership
        exact ⟨md5, extension, rfl, ⟨id, rfl⟩, naming, named⟩
      · cases membership
    · cases membership
  · rintro ⟨md5, extension, rfl, ⟨id, same⟩, naming, rfl, rfl⟩
    cases same
    simp [blobName?_eq_some.mpr ⟨rfl, naming⟩]

theorem mem_secondVisits {first : String} {entry : String × Node} {v : Visit} :
    v ∈ secondVisits lib fs place first entry ↔
      entry.2 = .directory ∧ isHexName 2 entry.1 = true ∧
        (v = .progress (100 * hexValue (first ++ entry.1) / blobDirectories) ∨
          v = .listing (Path.below (Path.below lib.base first) entry.1) ∨
          ∃ e ∈ fs.children (place ++ [first] ++ [entry.1]), v ∈ fileVisits first entry.1 e) := by
  unfold secondVisits
  by_cases named : (entry.2 == .directory && isHexName 2 entry.1) = true
  · rw [if_pos named]
    rw [Bool.and_eq_true, beq_iff_eq] at named
    simp only [named, true_and, List.mem_cons, List.mem_flatMap]
  · rw [if_neg named]
    rw [Bool.and_eq_true, beq_iff_eq] at named
    simp only [List.not_mem_nil, false_iff]
    rintro ⟨isDirectory, digits, -⟩
    exact named ⟨isDirectory, digits⟩

theorem mem_topVisits {entry : String × Node} {v : Visit} :
    v ∈ topVisits lib fs place process entry ↔
      entry.2 = .directory ∧
        (isHexName 1 entry.1 = true ∧
            (v = .listing (Path.below lib.base entry.1) ∨
              ∃ e ∈ fs.children (place ++ [entry.1]), v ∈ secondVisits lib fs place entry.1 e) ∨
          (∃ owner, tmpProcess? entry.1 = some owner ∧ owner ≠ process) ∧ v = .stale entry.1) := by
  unfold topVisits
  by_cases other : (entry.2 != .directory) = true
  · rw [if_pos other]
    have notDirectory : entry.2 ≠ .directory := by simpa using other
    simp [notDirectory]
  · rw [if_neg other]
    have isDirectory : entry.2 = .directory := by simpa using other
    by_cases digits : isHexName 1 entry.1 = true
    · rw [if_pos digits]
      simp [isDirectory, digits, tmpProcess?_of_isHexName digits]
    · rw [if_neg digits]
      cases owned : tmpProcess? entry.1 with
      | none => simp [digits]
      | some owner => by_cases same : owner = process <;> simp [isDirectory, digits, same]

/-- The files for a checksum are visited in the directories that the checksum says. -/
theorem parts_of_file_mem {first md5 extension : String} {entry : String × Node}
    (membership : .file md5 extension ∈ secondVisits lib fs place first entry) :
    firstPart md5 = first ∧ entry.1 = secondPart md5 := by
  obtain ⟨-, -, never | never | ⟨e, -, isFile⟩⟩ := mem_secondVisits.mp membership
  · cases never
  · cases never
  · obtain ⟨_, _, same, -, -, isFirst, isSecond⟩ := mem_fileVisits.mp isFile
    cases same
    exact ⟨isFirst, isSecond.symm⟩

/-- All files of items that are where they belong are visited. -/
theorem file_mem_visits {md5 extension : String} :
    .file md5 extension ∈ visits lib fs place process ↔
      ∃ id, BlobFile fs place md5 extension id := by
  simp only [visits, List.mem_flatMap, mem_topVisits, mem_secondVisits, mem_fileVisits, reduceCtorEq,
    false_or, or_false, and_false]
  constructor
  · rintro ⟨⟨first, node⟩, isFirst, isDirectory, -, ⟨second, node'⟩, isSecond, isDirectory', -, entry,
      isEntry, md5', extension', same, ⟨id, rfl⟩, naming, named⟩
    cases isDirectory
    cases isDirectory'
    cases same
    obtain ⟨rfl, rfl⟩ := named
    refine ⟨id, naming, Files.mem_children.mp isFirst, ?_, ?_⟩
    · simpa using Files.mem_children.mp isSecond
    · simpa [blobAt] using Files.mem_children.mp isEntry
  · rintro ⟨id, blob⟩
    have digits := isHexName_parts blob.naming.digits
    have isSecond : fs.nodes[place ++ [firstPart md5] ++ [secondPart md5]]? = some .directory := by
      simpa using blob.second
    have isFile : fs.nodes[place ++ [firstPart md5] ++ [secondPart md5] ++ [blobName md5 extension]]? =
        some (.file id) := by
      simpa [blobAt] using blob.file
    exact ⟨_, Files.mem_children.mpr blob.first, rfl, digits.1, _, Files.mem_children.mpr isSecond, rfl,
      digits.2, _, Files.mem_children.mpr isFile, md5, extension, rfl, ⟨id, rfl⟩, blob.naming, rfl, rfl⟩

/-- All directories for the aliases of other processes are visited. -/
theorem stale_mem_visits {name : String} :
    .stale name ∈ visits lib fs place process ↔ StaleDirectory fs place process name := by
  simp only [visits, List.mem_flatMap, mem_topVisits, mem_secondVisits, mem_fileVisits, reduceCtorEq,
    false_or, false_and, exists_false, and_false, Visit.stale.injEq]
  constructor
  · rintro ⟨⟨_, node⟩, isChild, isDirectory, owner, rfl⟩
    cases isDirectory
    exact ⟨owner, Files.mem_children.mp isChild⟩
  · rintro ⟨owner, there⟩
    exact ⟨_, Files.mem_children.mpr there, rfl, owner, rfl⟩

/-- The directories that are listed are those for digits of checksums. -/
theorem listing_mem_visits {path : String} :
    .listing path ∈ visits lib fs place process ↔
      ∃ first, isHexName 1 first = true ∧ fs.nodes[place ++ [first]]? = some .directory ∧
        (path = Path.below lib.base first ∨
          ∃ second, isHexName 2 second = true ∧
            fs.nodes[place ++ [first] ++ [second]]? = some .directory ∧
            path = Path.below (Path.below lib.base first) second) := by
  simp only [visits, List.mem_flatMap, mem_topVisits, mem_secondVisits, mem_fileVisits, reduceCtorEq,
    false_or, or_false, false_and, exists_false, and_false, Visit.listing.injEq]
  constructor
  · rintro ⟨⟨first, node⟩, isChild, isDirectory, digits, listed⟩
    cases isDirectory
    refine ⟨first, digits, Files.mem_children.mp isChild, ?_⟩
    rcases listed with same | ⟨⟨second, node⟩, isSecond, isDirectory, digits', same⟩
    · exact .inl same
    · cases isDirectory
      exact .inr ⟨second, digits', Files.mem_children.mp isSecond, same⟩
  · rintro ⟨first, digits, there, listed⟩
    refine ⟨_, Files.mem_children.mpr there, rfl, digits, ?_⟩
    rcases listed with same | ⟨second, digits', there', same⟩
    · exact .inl same
    · exact .inr ⟨_, Files.mem_children.mpr there', rfl, digits', same⟩

theorem stands_of_mem_visits {v : Visit} (membership : v ∈ visits lib fs place process) :
    v.Stands fs place process := by
  cases v with
  | progress | listing => trivial
  | file md5 extension => exact file_mem_visits.mp membership
  | stale name => exact stale_mem_visits.mp membership

/-! ## In which order -/

/-- One visit may come before another one: files for a checksum are visited in the order of their
names. -/
def InOrder (v v' : Visit) : Prop := ∀ md5 extension extension',
  v = .file md5 extension → v' = .file md5 extension' →
    blobName md5 extension < blobName md5 extension'

theorem inOrder_fileVisits (first second : String) (entry : String × Node) :
    (fileVisits first second entry).Pairwise InOrder := by
  unfold fileVisits
  split
  · split
    · exact List.pairwise_singleton _ _
    · exact .nil
  · exact .nil

theorem inOrder_secondVisits (first : String) (entry : String × Node) :
    (secondVisits lib fs place first entry).Pairwise InOrder := by
  unfold secondVisits
  split
  · refine .cons (fun v _ md5 extension extension' never => by cases never)
      (.cons (fun v _ md5 extension extension' never => by cases never) ?_)
    rw [List.pairwise_flatMap]
    refine ⟨fun entry _ => inOrder_fileVisits _ _ entry, ?_⟩
    refine (fs.children_ordered _).imp fun {a b} before v isFirst v' isSecond => ?_
    rintro md5 extension extension' rfl rfl
    obtain ⟨_, _, same, ⟨id, rfl⟩, -⟩ := mem_fileVisits.mp isFirst
    obtain ⟨_, _, same', ⟨id', rfl⟩, -⟩ := mem_fileVisits.mp isSecond
    cases same
    cases same'
    exact before
  · exact .nil

/-- Two entries of a directory do not stand for one and the same directory. -/
theorem inOrder_of_one_entry {entries : List (String × Node)} {visitsOf : String × Node → List Visit}
    (part : String → String) (ordered : entries.Pairwise fun a b => a.1 < b.1)
    (each : ∀ entry ∈ entries, (visitsOf entry).Pairwise InOrder)
    (of_mem : ∀ entry md5 extension, .file md5 extension ∈ visitsOf entry → entry.1 = part md5) :
    (entries.flatMap visitsOf).Pairwise InOrder := by
  rw [List.pairwise_flatMap]
  refine ⟨each, ordered.imp fun {a b} before v isFirst v' isSecond => ?_⟩
  rintro md5 extension extension' rfl rfl
  rw [of_mem a _ _ isFirst, of_mem b _ _ isSecond] at before
  exact absurd before (String.lt_irrefl _)

theorem inOrder_topVisits (entry : String × Node) :
    (topVisits lib fs place process entry).Pairwise InOrder := by
  unfold topVisits
  split
  · exact .nil
  · split
    · apply List.Pairwise.cons (fun v _ md5 extension extension' never => by cases never)
      apply inOrder_of_one_entry secondPart (fs.children_ordered _)
      · intro entry _
        exact inOrder_secondVisits _ entry
      · intro entry md5 extension membership
        exact (parts_of_file_mem membership).2
    · split
      · split
        · exact .nil
        · exact List.pairwise_singleton _ _
      · exact .nil

theorem inOrder_visits : (visits lib fs place process).Pairwise InOrder := by
  apply inOrder_of_one_entry firstPart (fs.children_ordered place)
  · intro entry _
    exact inOrder_topVisits entry
  · intro entry md5 extension membership
    obtain ⟨-, ⟨-, never | ⟨e, -, isFile⟩⟩ | ⟨-, never⟩⟩ := mem_topVisits.mp membership
    · cases never
    · exact (parts_of_file_mem isFile).1.symm
    · cases never

/-- Of the files for one checksum, those that are visited before one of them are those whose names come
before its name. -/
theorem mem_before_iff {before after : List Visit} {md5 extension extension' : String}
    (all : visits lib fs place process = before ++ .file md5 extension :: after) :
    .file md5 extension' ∈ before ↔
      .file md5 extension' ∈ visits lib fs place process ∧
        blobName md5 extension' < blobName md5 extension := by
  have ordered : (before ++ .file md5 extension :: after).Pairwise InOrder :=
    all ▸ inOrder_visits
  obtain ⟨-, rest, apart⟩ := List.pairwise_append.mp ordered
  constructor
  · intro membership
    refine ⟨?_, apart _ membership _ List.mem_cons_self _ _ _ rfl rfl⟩
    rw [all]
    exact List.mem_append_left _ membership
  · rintro ⟨membership, less⟩
    rw [all, List.mem_append, List.mem_cons] at membership
    rcases membership with isBefore | same | isAfter
    · exact isBefore
    · cases same
      exact absurd less (String.lt_irrefl _)
    · have more := (List.pairwise_cons.mp rest).1 _ isAfter _ _ _ rfl rfl
      exact absurd less (String.lt_asymm more)

/-- No file is visited twice. -/
theorem not_mem_after {before after : List Visit} {md5 extension : String}
    (all : visits lib fs place process = before ++ .file md5 extension :: after) :
    .file md5 extension ∉ after := by
  intro membership
  have ordered : (before ++ .file md5 extension :: after).Pairwise InOrder :=
    all ▸ inOrder_visits
  obtain ⟨-, rest, -⟩ := List.pairwise_append.mp ordered
  exact String.lt_irrefl _ ((List.pairwise_cons.mp rest).1 _ membership _ _ _ rfl rfl)

end Membership

end SampleLibrary.Verifier
