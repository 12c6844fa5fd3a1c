import SampleLibrary.Proofs.Verifier.Outcome

/-!
# How many items a verification has checked

The first stage goes through all items and says how many they are. Whatever is removed later on, the number
stays in the report (`verify_itemsChecked`).
-/

namespace SampleLibrary.Verifier

/-- The run has checked this many items. -/
def Checked (number : Nat) (r : Run) : Prop := r.report.itemsChecked = number

section Stages

variable {lib : Library} {observer : Observer} {number : Nat} {r r' : Run}

namespace Checked

theorem congr (checked : Checked number r) (report : r'.report.itemsChecked = r.report.itemsChecked) :
    Checked number r' :=
  report.trans checked

theorem nextStage (checked : Checked number r) (name : String) : Checked number (r.nextStage name) :=
  checked

theorem advance (checked : Checked number r) (percent : Nat) : Checked number (r.advance percent) :=
  checked.congr (by rw [advance_report])

theorem ask (checked : Checked number r) (p : Problem) : Checked number (r.ask observer p).2 := by
  unfold Run.ask
  dsimp only
  split <;> exact checked

theorem removeFile (checked : Checked number r) (path : String) :
    Checked number (r.removeFile path).2 := by
  unfold Run.removeFile
  split <;> exact checked

theorem removeDirectory (checked : Checked number r) (path : String) :
    Checked number (r.removeDirectory path) := by
  unfold Run.removeDirectory
  split <;> exact checked

end Checked

theorem keeps_checked_removeItems (ids : List Int) :
    Keeps (Checked number) (removeItems lib ids) :=
  keeps_removeItems (fun _ _ _ checked => checked) ids

theorem keeps_checked_checkFiles (process : Nat) :
    Keeps (Checked number) (checkFiles lib observer process) :=
  keeps_checkFiles (fun _ name checked => checked.nextStage name)
    (fun _ percent checked => checked.advance percent) (fun _ p _ checked => checked.ask p)
    (fun _ path checked => checked.removeFile path)
    (fun _ path checked => checked.removeDirectory path) (fun _ _ _ checked => checked)

theorem keeps_checked_checkLinks : Keeps (Checked number) (checkLinks lib observer) := by
  have offers {count : Nat} {p : Problem} {change : Tables → Tables} :
      Keeps (Checked number) (offerRemoval lib observer count p change) :=
    keeps_offerRemoval (fun _ checked => checked.ask p) fun _ checked => checked
  have recounting : Keeps (Checked number) (recount lib) := Keeps.edit fun _ checked => checked
  exact keeps_checkLinks (fun _ name checked => checked.nextStage name)
    (fun _ percent checked => checked.advance percent) (fun _ _ => offers) (fun _ _ => offers)
    (fun _ => offers) (keeps_checkCounts (fun _ _ checked => checked.ask _) recounting)

end Stages

variable {lib : Library} {observer : Observer} {t : Tables} {w : World} {report : Report}

/-- A verification that goes well has checked all items of the library. -/
theorem verify_itemsChecked (isOpen : lib.tables w.files = .ok t)
    (done : (verify lib observer w).1.outcome = .ok report) :
    report.itemsChecked = t.libraryItems.length := by
  obtain ⟨r, stages⟩ := stages_of_ok isOpen done
  rw [verify_of_stages isOpen stages] at done
  obtain rfl : r.report = report := Except.ok.inj done
  obtain ⟨r', gone, -, -, counted, -, -, items⟩ := checkItems_eq lib observer (startOf t w)
  have later : Keeps (Checked t.libraryItems.length) fun r =>
      (removeItems lib gone r >>= fun r => .ok (r.advance 100)) >>= fun r =>
        checkFiles lib observer w.process r >>= checkLinks lib observer :=
    .bind (.bind (keeps_checked_removeItems gone) (.of_ok fun _ checked => checked.advance 100))
      (.bind (keeps_checked_checkFiles w.process) keeps_checked_checkLinks)
  have ended := later r' counted
  have course : allStages lib observer w.process (startOf t w) =
      (removeItems lib gone r' >>= fun r => .ok (r.advance 100)) >>= fun r =>
        checkFiles lib observer w.process r >>= checkLinks lib observer := by
    rw [← items]
    rfl
  dsimp only at ended
  rw [← course, stages] at ended
  exact ended

end SampleLibrary.Verifier
