import Mathlib.Data.Set.Card
import SampleLibrary.Proofs.Files.Making
import SampleLibrary.Proofs.Verifier.Approved

/-!
# What goes with the problems that are settled

A problem is settled if its repair was agreed to and could be done (`mem_settled_iff`). A repair takes a
file away, or a directory with everything in it (`Problem.Removes`). Carrying out the answers takes away
what goes with the settled problems, and nothing else (`cleared_carryOut`), and every one of them takes
away something of its own (`spots_carryOut`).
-/

namespace SampleLibrary.Verifier

variable {lib : Library} {t : Tables} {fs fs' : Files} {place location : Location} {process : Nat}
  {qs : List (Problem × Answer)} {p : Problem} {path : String} {node : Node}

/-- A problem is settled if somebody agreed when it came up, and what it takes away could be removed. -/
theorem mem_settled_iff : p ∈ (carryOut t fs qs).settled ↔
    ∃ earlier a later, qs = earlier ++ (p, a) :: later ∧ a.isYes = true ∧
      ∃ files, p.clear (carryOut t fs earlier).files = .ok files := by
  induction qs using List.reverseRecOn with
  | nil => simp [carryOut]
  | append_singleton qs q inductionHypothesis =>
      have cut : (∃ earlier a later, qs ++ [q] = earlier ++ (p, a) :: later ∧ a.isYes = true ∧
            ∃ files, p.clear (carryOut t fs earlier).files = .ok files) ↔
          p ∈ (carryOut t fs qs).settled ∨ p = q.1 ∧ q.2.isYes = true ∧
            ∃ files, p.clear (carryOut t fs qs).files = .ok files := by
        rw [inductionHypothesis]
        constructor
        · rintro ⟨earlier, a, later, same, yes, cleared⟩
          obtain rfl | ⟨later, last, rfl⟩ := later.eq_nil_or_concat'
          · obtain ⟨rfl, rfl⟩ := List.append_singleton_inj.mp same
            exact .inr ⟨rfl, yes, cleared⟩
          · rw [← List.cons_append, ← List.append_assoc] at same
            exact .inl ⟨earlier, a, later, (List.append_singleton_inj.mp same).1, yes, cleared⟩
        · rintro (⟨earlier, a, later, rfl, yes, cleared⟩ | ⟨rfl, yes, cleared⟩)
          · exact ⟨earlier, a, later ++ [q], by simp, yes, cleared⟩
          · exact ⟨qs, q.2, [], rfl, yes, cleared⟩
      rw [cut, carryOut_append_singleton, Work.take]
      split
      · rename_i yes
        split
        · rename_i files cleared
          rw [List.mem_append, List.mem_singleton]
          refine or_congr_right ⟨?_, fun settled => settled.1⟩
          rintro rfl
          exact ⟨rfl, yes, files, cleared⟩
        · rename_i e failed
          refine (or_iff_left ?_).symm
          rintro ⟨rfl, -, files, cleared⟩
          rw [failed] at cleared
          cases cleared
      · rename_i no
        refine (or_iff_left ?_).symm
        rintro ⟨-, yes, -⟩
        exact no yes

theorem asked_of_settled (settled : p ∈ (carryOut t fs qs).settled) : ∃ a, (p, a) ∈ qs := by
  obtain ⟨earlier, a, later, rfl, -, -⟩ := mem_settled_iff.mp settled
  exact ⟨a, by simp⟩

/-- If nobody agreed to anything, nothing is done. -/
theorem carryOut_of_refused (refused : ∀ q ∈ qs, q.2.isYes = false) :
    carryOut t fs qs = ⟨t, fs, [], 0⟩ := by
  induction qs using List.reverseRecOn with
  | nil => rfl
  | append_singleton qs q inductionHypothesis =>
      have before := inductionHypothesis fun q earlier => refused q (by simp [earlier])
      rw [carryOut_append_singleton, before, Work.take, if_neg (by simp [refused q (by simp)])]

/-! ## What a repair takes away -/

namespace Problem

/-- What goes when a problem is repaired: the file or the directory that it names, and everything in the
directory. -/
inductive Removes (fs : Files) (p : Problem) : Location → Prop where
  | itself {path : String} {location : Location} {node : Node} :
      p.file? = some path ∨ p.directory? = some path →
      fs.stat path false = .ok (location, node) → Removes fs p location
  | inside {path : String} {location below : Location} :
      p.directory? = some path → fs.stat path false = .ok (location, .directory) →
      location <+: below → Removes fs p below

theorem of_file? (named : p.file? = some path) :
    p.directory? = none ∧ ∀ fs : Files, p.clear fs = fs.remove path := by
  cases p <;> cases named <;> exact ⟨rfl, fun _ => rfl⟩

theorem of_directory? (named : p.directory? = some path) :
    p.file? = none ∧ ∀ fs : Files, p.clear fs = fs.removeTree path := by
  cases p <;> cases named
  exact ⟨rfl, fun _ => rfl⟩

theorem clear_of_none (noFile : p.file? = none) (noDirectory : p.directory? = none) (fs : Files) :
    p.clear fs = .ok fs := by
  cases p <;> cases noFile <;> cases noDirectory <;> rfl

/-- A problem names one file or directory at most. -/
theorem path_unique {path' : String} (named : p.file? = some path ∨ p.directory? = some path)
    (named' : p.file? = some path' ∨ p.directory? = some path') : path' = path := by
  cases p <;> simp_all [file?, directory?]

theorem removes_iff (named : p.file? = some path ∨ p.directory? = some path)
    (found : fs.stat path false = .ok (location, node)) {l : Location} :
    p.Removes fs l ↔
      l = location ∨ p.directory? = some path ∧ node = .directory ∧ location <+: l := by
  constructor
  · intro removes
    cases removes with
    | itself named' found' =>
        obtain rfl := path_unique named named'
        cases found.symm.trans found'
        exact .inl rfl
    | inside named' found' below =>
        obtain rfl := path_unique named (.inr named')
        cases found.symm.trans found'
        exact .inr ⟨named', rfl, below⟩
  · rintro (rfl | ⟨isDirectory, rfl, below⟩)
    · exact .itself named found
    · exact .inside isDirectory found below

/-- A repair takes away what the path of the problem has led to from the beginning. -/
theorem cleared_clear {g g' : Files} (within : g.Within fs) (done : p.clear g = .ok g') :
    Files.Cleared (p.Removes fs) g g' := by
  cases file : p.file? with
  | some path =>
      obtain ⟨notDirectory, clears⟩ := of_file? file
      rw [clears] at done
      obtain ⟨location, node, found, -, cleared⟩ := Files.cleared_remove done
      apply cleared.congr
      intro l
      simp [removes_iff (.inl file) (within.stat found), notDirectory]
  | none =>
      cases directory : p.directory? with
      | some path =>
          rw [(of_directory? directory).2] at done
          obtain ⟨location, node, found⟩ := Files.stat_of_removeTree done
          have removes (l : Location) := removes_iff (.inr directory) (within.stat found) (l := l)
          cases node with
          | directory =>
              apply (Files.cleared_removeTree found done).congr
              intro l
              rw [removes l]
              constructor
              · rintro (rfl | ⟨-, -, below⟩)
                · exact List.prefix_rfl
                · exact below
              · exact fun below => .inr ⟨directory, rfl, below⟩
          | file id => simp [Files.removeTree, found] at done
          | link target =>
              simp only [Files.removeTree, found, Except.ok.injEq] at done
              subst done
              apply (Files.cleared_eraseNode g location).congr
              intro l
              simp [removes l]
      | none =>
          rw [clear_of_none file directory] at done
          cases done
          apply (Files.Cleared.refl g).congr
          intro l
          refine iff_false_intro fun removes => ?_
          cases removes with
          | itself named => simp [file, directory] at named
          | inside named => simp [directory] at named

end Problem

/-- Carrying out the answers takes away what goes with the settled problems, and nothing else. -/
theorem cleared_carryOut (t : Tables) (fs : Files) (qs : List (Problem × Answer)) :
    Files.Cleared (fun l => ∃ p ∈ (carryOut t fs qs).settled, p.Removes fs l) fs
      (carryOut t fs qs).files := by
  induction qs using List.reverseRecOn with
  | nil => exact (Files.Cleared.refl fs).congr fun l => by simp [carryOut]
  | append_singleton qs q inductionHypothesis =>
      rw [carryOut_append_singleton, Work.take]
      split
      · split
        · rename_i files done
          apply (inductionHypothesis.trans
            (Problem.cleared_clear inductionHypothesis.within done)).congr
          intro l
          simp [or_and_right, exists_or]
        · exact inductionHypothesis
      · exact inductionHypothesis

/-! ## Something of its own -/

/-- Where the paths lead that `path?` finds in problems. -/
def spots (fs : Files) (path? : Problem → Option String) (ps : List Problem) : List Location :=
  ps.filterMap fun p => (path? p).bind fun path => (fs.stat path false).toOption.map (·.1)

theorem mem_spots {path? : Problem → Option String} {ps : List Problem} {l : Location} :
    l ∈ spots fs path? ps ↔
      ∃ p ∈ ps, ∃ path node, path? p = some path ∧ fs.stat path false = .ok (l, node) := by
  have leads (path : String) : (fs.stat path false).toOption.map (·.1) = some l ↔
      ∃ node, fs.stat path false = .ok (l, node) := by
    cases found : fs.stat path false with
    | error e => simp [Except.toOption]
    | ok result => simp [Except.toOption, Prod.ext_iff]
  simp [spots, Option.bind_eq_some_iff, leads]

/-- What a problem names is there as long as the problem can be settled. -/
structure Standing (fs : Files) (path? : Problem → Option String) (p : Problem) : Prop where
  named : ∀ path, path? p = some path → p.file? = some path ∨ p.directory? = some path
  there : ∀ path g g', path? p = some path → Files.Within g fs → p.clear g = .ok g' →
    ∃ location node, g.stat path false = .ok (location, node) ∧ g.nodes[location]? ≠ none

/-- Settled problems name different files, and different directories. -/
theorem spots_carryOut {path? : Problem → Option String}
    (standing : ∀ q ∈ qs, Standing fs path? q.1) :
    (spots fs path? (carryOut t fs qs).settled).Nodup ∧
      (spots fs path? (carryOut t fs qs).settled).length =
        ((carryOut t fs qs).settled.filterMap path?).length := by
  induction qs using List.reverseRecOn with
  | nil => exact ⟨List.nodup_nil, rfl⟩
  | append_singleton qs q inductionHypothesis =>
      obtain ⟨nodup, length⟩ := inductionHypothesis fun q earlier => standing q (by simp [earlier])
      rw [carryOut_append_singleton, Work.take]
      split
      · split
        · rename_i files done
          dsimp only
          cases named : path? q.1 with
          | none => simpa [spots, named] using ⟨nodup, length⟩
          | some path =>
              have cleared := cleared_carryOut t fs qs
              obtain ⟨location, node, found, there⟩ :=
                (standing q (by simp)).there path _ _ named cleared.within done
              have own : spots fs path? [q.1] = [location] := by
                simp [spots, named, cleared.within.stat found, Except.toOption]
              have new : location ∉ spots fs path? (carryOut t fs qs).settled := by
                intro old
                obtain ⟨p, settled, path', node', named', found'⟩ := mem_spots.mp old
                obtain ⟨a, asked⟩ := asked_of_settled settled
                have isNamed := (standing (p, a) (by simp [asked])).named path' named'
                exact there (cleared.gone location ⟨p, settled, .itself isNamed found'⟩)
              have joined : spots fs path? ((carryOut t fs qs).settled ++ [q.1]) =
                  spots fs path? (carryOut t fs qs).settled ++ [location] := by
                rw [← own, spots, List.filterMap_append]
                rfl
              rw [joined]
              refine ⟨?_, ?_⟩
              · apply List.nodup_append.mpr
                refine ⟨nodup, List.nodup_singleton _, ?_⟩
                rintro l old _ new' rfl
                exact new (List.mem_singleton.mp new' ▸ old)
              · simp [length, named]
        · exact ⟨nodup, length⟩
      · exact ⟨nodup, length⟩

/-! ## Where it is -/

/-- A problem names a file of an item that is where it belongs, or a directory for the aliases of another
process, or nothing. -/
inductive Problem.Placed (lib : Library) (fs : Files) (place : Location) (process : Nat) (p : Problem) :
    Prop where
  | file {md5 extension : String} {id : Nat} : p.file? = some (blobPath lib md5 extension) →
      BlobFile fs place md5 extension id → Placed lib fs place process p
  | directory {name : String} : p.directory? = some (Path.below lib.base name) →
      StaleDirectory fs place process name → Placed lib fs place process p
  | nothing : p.file? = none → p.directory? = none → Placed lib fs place process p

section Places

variable {g g' : Files} {v : Visit} {gone : List Int}

/-- What is found at a visit is about what is visited. -/
theorem placed_of_finding? (stands : v.Stands fs place process)
    (found : v.finding? lib t g = some (p, gone)) : p.Placed lib fs place process := by
  obtain ⟨repair, finds⟩ := Visit.finds_of_finding? found
  cases finds with
  | stale => exact .directory rfl stands
  | unknown | misnamed =>
      obtain ⟨id, blob⟩ := stands
      exact .file rfl blob
  | invalid present problem =>
      obtain ⟨id, blob⟩ := stands
      exact .file (isInvalid_of_contentProblem? problem).file? blob

theorem standing_file (fs : Files) (p : Problem) : Standing fs Problem.file? p := by
  refine ⟨fun path => .inl, ?_⟩
  intro path g g' named within done
  rw [(Problem.of_file? named).2] at done
  obtain ⟨location, node, found, notDirectory, -⟩ := Files.cleared_remove done
  exact ⟨location, node, found, by simp [Files.nodes_of_stat found notDirectory]⟩

/-- A path that leads to a directory of another process leads to what has that name. -/
theorem stat_stale {name : String}
    (leads : fs.stat lib.base true = .ok (place, .directory)) (within : g.Within fs)
    (stale : StaleDirectory fs place process name)
    (found : g.stat (Path.below lib.base name) false = .ok (location, node)) :
    location = place ++ [name] ∧ g.nodes[place ++ [name]]? = some node := by
  obtain ⟨owner, owned, -⟩ := stale.owner
  have isName := isName_of_tmpProcess? owned
  obtain ⟨place', isDirectory⟩ := Files.directory?_of_resolve_below isName (Files.stat_eq_ok_iff.mp found)
  have leads' := (Files.directory?_eq_some (Files.ne_empty_of_stat leads)).mp isDirectory
  cases (within.stat leads').symm.trans leads
  obtain ⟨same, there, -⟩ := Files.stat_below_inv isName leads' found (.inl rfl)
  exact ⟨same, there⟩

theorem standing_directory (leads : fs.stat lib.base true = .ok (place, .directory))
    (placed : p.Placed lib fs place process) : Standing fs Problem.directory? p := by
  refine ⟨fun path => .inr, ?_⟩
  intro path g g' named within done
  obtain ⟨noFile, clears⟩ := Problem.of_directory? named
  rw [clears] at done
  obtain ⟨location, node, found⟩ := Files.stat_of_removeTree done
  cases placed with
  | file file => simp [noFile] at file
  | nothing _ noDirectory => simp [named] at noDirectory
  | directory isDirectory stale =>
      obtain rfl : path = _ := by simpa [named] using isDirectory
      obtain ⟨rfl, there⟩ := stat_stale leads within stale found
      exact ⟨_, node, found, by simp [there]⟩

/-- What goes with a problem is a file of an item that is where it belongs, or lies in a directory for the
aliases of another process. -/
theorem Problem.Placed.removes (leads : fs.stat lib.base true = .ok (place, .directory))
    (placed : p.Placed lib fs place process) (removes : p.Removes fs location) :
    (∃ md5 extension id path node, BlobFile fs place md5 extension id ∧
        location = blobAt place md5 extension ∧
        p.file? = some path ∧ fs.stat path false = .ok (location, node)) ∨
      ∃ name path node, StaleDirectory fs place process name ∧ place ++ [name] <+: location ∧
        p.directory? = some path ∧ fs.stat path false = .ok (place ++ [name], node) := by
  cases placed with
  | file isFile blob =>
      left
      cases removes with
      | itself named found =>
          obtain rfl := Problem.path_unique (.inl isFile) named
          obtain ⟨rfl, -⟩ := stat_blobPath leads blob found
          exact ⟨_, _, _, _, _, blob, rfl, isFile, found⟩
      | inside named => simp [(Problem.of_file? isFile).1] at named
  | directory isDirectory stale =>
      right
      cases removes with
      | itself named found =>
          obtain rfl := Problem.path_unique (.inr isDirectory) named
          obtain ⟨rfl, -⟩ := stat_stale leads (.refl fs) stale found
          exact ⟨_, _, _, stale, List.prefix_rfl, isDirectory, found⟩
      | inside named found below =>
          obtain rfl := Problem.path_unique (.inr isDirectory) (.inr named)
          obtain ⟨rfl, -⟩ := stat_stale leads (.refl fs) stale found
          exact ⟨_, _, _, stale, below, isDirectory, found⟩
  | nothing noFile noDirectory =>
      cases removes with
      | itself named => simp [noFile, noDirectory] at named
      | inside named => simp [noDirectory] at named

/-- The files of items that were where they belong and are no longer there. -/
def filesGone (fs fs' : Files) (place : Location) : Set Location :=
  {l | ∃ md5 extension id, BlobFile fs place md5 extension id ∧ l = blobAt place md5 extension ∧
    fs'.nodes[l]? = none}

/-- The directories for the aliases of other processes that are no longer there. -/
def directoriesGone (fs fs' : Files) (place : Location) (process : Nat) : Set Location :=
  {l | ∃ name, StaleDirectory fs place process name ∧ l = place ++ [name] ∧ fs'.nodes[l]? = none}

theorem not_prefix_blobAt {name md5 extension : String} {id : Nat}
    (stale : StaleDirectory fs place process name) (blob : BlobFile fs' place md5 extension id) :
    ¬place ++ [name] <+: blobAt place md5 extension := by
  intro inside
  obtain ⟨owner, owned, -⟩ := stale.owner
  obtain rfl : name = firstPart md5 := by
    simpa [blobAt, List.prefix_append_right_inj] using inside
  rw [tmpProcess?_of_isHexName (isHexName_parts blob.naming.digits).1] at owned
  cases owned

theorem blobAt_ne_append_singleton {name md5 extension : String} :
    blobAt place md5 extension ≠ place ++ [name] := by
  simp [blobAt]

/-- A location of something that was there and is gone went with a settled problem. -/
theorem settled_of_gone (there : fs.nodes[location]? = some node)
    (gone : (carryOut t fs qs).files.nodes[location]? = none) :
    ∃ p ∈ (carryOut t fs qs).settled, p.Removes fs location := by
  by_contra untouched
  rw [(cleared_carryOut t fs qs).kept location untouched, there] at gone
  cases gone

theorem ncard_spots {path? : Problem → Option String} (standing : ∀ q ∈ qs, Standing fs path? q.1) :
    {l | l ∈ spots fs path? (carryOut t fs qs).settled}.ncard =
      ((carryOut t fs qs).settled.filterMap path?).length := by
  obtain ⟨nodup, length⟩ := spots_carryOut standing (t := t)
  rw [← List.coe_toFinset, Set.ncard_coe_finset, List.toFinset_card_of_nodup nodup, length]

section Counts

variable (placed : ∀ q ∈ qs, q.1.Placed lib fs place process)

include placed

theorem placed_of_settled (settled : p ∈ (carryOut t fs qs).settled) :
    p.Placed lib fs place process := by
  obtain ⟨a, asked⟩ := asked_of_settled settled
  exact placed (p, a) asked

variable (leads : fs.stat lib.base true = .ok (place, .directory))

include leads

/-- As many files of items are gone as are named by settled problems. -/
theorem ncard_filesGone : (filesGone fs (carryOut t fs qs).files place).ncard =
    ((carryOut t fs qs).settled.filterMap Problem.file?).length := by
  have same : filesGone fs (carryOut t fs qs).files place =
      {l | l ∈ spots fs Problem.file? (carryOut t fs qs).settled} := by
    ext l
    constructor
    · rintro ⟨md5, extension, id, blob, rfl, gone⟩
      obtain ⟨p, settled, removes⟩ := settled_of_gone blob.file gone
      obtain ⟨_, _, _, path, node, -, -, named, found⟩ | ⟨_, _, _, stale, inside, -, -⟩ :=
        (placed_of_settled placed settled).removes leads removes
      · exact mem_spots.mpr ⟨p, settled, path, node, named, found⟩
      · exact absurd inside (not_prefix_blobAt stale blob)
    · intro spot
      obtain ⟨p, settled, path, node, named, found⟩ := mem_spots.mp spot
      have removes : p.Removes fs l := .itself (.inl named) found
      obtain ⟨md5, extension, id, _, _, blob, rfl, -, -⟩ | ⟨_, _, _, -, -, directory, -⟩ :=
        (placed_of_settled placed settled).removes leads removes
      · exact ⟨md5, extension, id, blob, rfl,
          (cleared_carryOut t fs qs).gone _ ⟨p, settled, removes⟩⟩
      · simp [(Problem.of_file? named).1] at directory
  rw [same, ncard_spots fun q _ => standing_file fs q.1]

/-- As many directories for the aliases of other processes are gone as are named by settled problems. -/
theorem ncard_directoriesGone :
    (directoriesGone fs (carryOut t fs qs).files place process).ncard =
      ((carryOut t fs qs).settled.filterMap Problem.directory?).length := by
  have same : directoriesGone fs (carryOut t fs qs).files place process =
      {l | l ∈ spots fs Problem.directory? (carryOut t fs qs).settled} := by
    ext l
    constructor
    · rintro ⟨name, stale, rfl, gone⟩
      obtain ⟨p, settled, removes⟩ := settled_of_gone stale.directory gone
      obtain ⟨_, _, _, _, _, -, same, -, -⟩ | ⟨_, path, node, -, inside, named, found⟩ :=
        (placed_of_settled placed settled).removes leads removes
      · exact absurd same.symm blobAt_ne_append_singleton
      · rw [List.prefix_append_right_inj, List.cons_prefix_cons] at inside
        obtain ⟨rfl, -⟩ := inside
        exact mem_spots.mpr ⟨p, settled, path, node, named, found⟩
    · intro spot
      obtain ⟨p, settled, path, node, named, found⟩ := mem_spots.mp spot
      have removes : p.Removes fs l := .itself (.inr named) found
      obtain ⟨_, _, _, _, _, -, -, file, -⟩ | ⟨name, path', _, stale, -, named', found'⟩ :=
        (placed_of_settled placed settled).removes leads removes
      · simp [(Problem.of_directory? named).1] at file
      · obtain rfl := Problem.path_unique (.inr named) (.inr named')
        cases found.symm.trans found'
        exact ⟨name, stale, rfl, (cleared_carryOut t fs qs).gone _ ⟨p, settled, removes⟩⟩
  rw [same, ncard_spots fun q asked => standing_directory leads (placed q asked)]

end Counts

end Places

end SampleLibrary.Verifier
