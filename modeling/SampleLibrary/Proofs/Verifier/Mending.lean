import SampleLibrary.Proofs.Files.Changes
import SampleLibrary.Proofs.Storage.Retaining
import SampleLibrary.Proofs.Verifier.Outcome

/-!
# A verification only repairs

Whatever a verification finds and whatever is answered, it does nothing to the tables but repair them, a
few times (`Tables.Repaired`), and the content of no file changes but that of the database. This holds of
runs that fail, too, as these leave the tables alone.
-/

namespace SampleLibrary.Verifier

open Tables (Repaired)

/-- The tables have only been repaired, if they were changed at all, and no file has other content. -/
structure Mended (t : Tables) (data : Std.ExtTreeMap Nat FileData) (r : Run) : Prop where
  repairs : Relation.ReflTransGen Repaired t r.tables
  unedited : r.edited = false → r.tables = t
  data : r.files.data = data

section Stages

variable {t : Tables} {data : Std.ExtTreeMap Nat FileData} {lib : Library} {observer : Observer}
  {r r' : Run}

namespace Mended

theorem congr (mended : Mended t data r) (tables : r'.tables = r.tables)
    (edited : r'.edited = r.edited) (files : r'.files.data = r.files.data) : Mended t data r' :=
  ⟨tables ▸ mended.repairs, fun unedited => tables ▸ mended.unedited (edited ▸ unedited),
    files.trans mended.data⟩

theorem talk {allowed : Event → Prop} (mended : Mended t data r)
    (talk : Talk observer allowed r r') : Mended t data r' :=
  mended.congr talk.tables talk.edited (congrArg Files.data talk.files)

theorem nextStage (mended : Mended t data r) (name : String) : Mended t data (r.nextStage name) :=
  mended.congr rfl rfl rfl

theorem advance (mended : Mended t data r) (percent : Nat) : Mended t data (r.advance percent) :=
  mended.congr (by simp) (by simp) (by simp)

theorem ask (mended : Mended t data r) (p : Problem) : Mended t data (r.ask observer p).2 :=
  mended.talk (talk_ask observer r p)

theorem removeFile (mended : Mended t data r) (path : String) :
    Mended t data (r.removeFile path).2 := by
  unfold Run.removeFile
  split
  · rename_i files removed
    exact mended.congr rfl rfl (Files.remove_data removed)
  · exact mended

theorem removeDirectory (mended : Mended t data r) (path : String) :
    Mended t data (r.removeDirectory path) := by
  unfold Run.removeDirectory
  split
  · rename_i files removed
    exact mended.congr rfl rfl (Files.removeTree_data removed)
  · exact mended

theorem edit (mended : Mended t data r) {tables : Tables} (counting : Report → Report)
    (repaired : Repaired r.tables tables) :
    Mended t data ({ r with tables, edited := true }.note counting) :=
  ⟨mended.repairs.tail repaired, fun unedited => Bool.noConfusion unedited, mended.data⟩

theorem deleteItems (mended : Mended t data r) (ids : List Int) :
    Mended t data (Run.deleteItems ids r) :=
  mended.edit _ (.deleted r.tables ids)

end Mended

theorem keeps_mended_checkItems (lib : Library) (observer : Observer) :
    Keeps (Mended t data) (checkItems lib observer) := by
  intro r mended
  rcases checkItems_eq lib observer r with ⟨r', gone, talk, -, -, -, -, equation⟩
  have removing : Keeps (Mended t data) (removeItems lib gone) :=
    keeps_removeItems (fun _ ids _ mended => mended.deleteItems ids) gone
  rw [equation]
  exact Keeps.bind removing (.of_ok fun r mended => mended.advance 100) r' (mended.talk talk)

theorem keeps_mended_checkFiles (lib : Library) (observer : Observer) (process : Nat) :
    Keeps (Mended t data) (checkFiles lib observer process) :=
  keeps_checkFiles (fun _ name mended => mended.nextStage name)
    (fun _ percent mended => mended.advance percent) (fun _ p _ mended => mended.ask p)
    (fun _ path mended => mended.removeFile path) (fun _ path mended => mended.removeDirectory path)
    (fun _ ids _ mended => mended.deleteItems ids)

theorem keeps_mended_checkLinks (lib : Library) (observer : Observer) :
    Keeps (Mended t data) (checkLinks lib observer) := by
  have offers {count : Nat} {p : Problem} {change : Tables → Tables}
      (repaired : ∀ t, Repaired t (change t)) :
      Keeps (Mended t data) (offerRemoval lib observer count p change) :=
    keeps_offerRemoval (fun _ mended => mended.ask p)
      fun r mended => mended.edit _ (repaired r.tables)
  have recounting : Keeps (Mended t data) (recount lib) :=
    Keeps.edit fun r mended => mended.edit _ (.recounted r.tables)
  exact keeps_checkLinks (fun _ name mended => mended.nextStage name)
    (fun _ percent mended => mended.advance percent) (fun _ _ => offers .untagged)
    (fun _ _ => offers .unlinked) (fun _ => offers .untangled)
    (keeps_checkCounts (fun _ _ mended => mended.ask _) recounting)

theorem keeps_mended_allStages (lib : Library) (observer : Observer) (process : Nat) :
    Keeps (Mended t data) (allStages lib observer process) :=
  Keeps.bind (keeps_mended_checkItems lib observer)
    (Keeps.bind (keeps_mended_checkFiles lib observer process) (keeps_mended_checkLinks lib observer))

/-- What the database holds after a verification has come from what it held by repairs. -/
theorem verify_repairs {w : World} (isOpen : lib.tables w.files = .ok t) :
    ∃ t', ((verify lib observer w).2.files.dataOf lib.database).content = .database t' ∧
      Relation.ReflTransGen Repaired t t' := by
  have start : Mended t w.files.data (startOf t w) := ⟨.refl, fun _ => rfl, rfl⟩
  have mended := keeps_mended_allStages lib observer w.process _ start
  refine verify_leaves isOpen .refl mended.data fun r stages => ?_
  rw [stages] at mended
  exact ⟨mended.repairs, mended.unedited⟩

end Stages

end SampleLibrary.Verifier
