import SampleLibrary.Proofs.Verifier.Outcome

/-!
# How files are judged

A file is judged by what is at its path at the moment of its visit. Until then nothing has happened to it
(`Moment.untouched`). An item goes when a file is removed that has the checksum of the item in its name
and another content (`Misleading`), and in no other way (`Visit.Taken.kept_or_misleading`).
-/

namespace SampleLibrary.Verifier

/-- The second stage comes to a file, and can open it. -/
structure Reached (lib : Library) (fs : Files) (place : Location) (md5 extension : String)
    (id : Nat) : Prop where
  blob : BlobFile fs place md5 extension id
  opens : ∃ found, fs.stat (blobPath lib md5 extension) false = .ok found

/-- The second stage comes to a file that has a checksum in its name and another content. -/
def Misleading (lib : Library) (fs : Files) (place : Location) (md5 extension : String) : Prop :=
  ∃ id, Reached lib fs place md5 extension id ∧ Md5.checksum (fs.dataOf id).content.toBytes ≠ md5

section Files

variable {lib : Library} {fs₀ fs : Files} {place : Location} {process id : Nat}
  {md5 extension : String}

/-- Nothing can be wrong with the content of a file that can be opened but its checksum. -/
theorem contentProblem?_of_stat {path : String} {location : Location} (item : Int)
    (found : fs.stat path true = .ok (location, .file id)) :
    contentProblem? fs item path md5 =
      if Md5.checksum (fs.dataOf id).content.toBytes == md5 then none
      else some (.wrongChecksum item path) := by
  simp [contentProblem?, Files.read_of_stat found]

/-- Whether the path of a file is followed to its end does not matter. -/
theorem stat_blobPath_false {location : Location} {node : Node}
    (leads : fs.stat lib.base true = .ok (place, .directory))
    (blob : BlobFile fs place md5 extension id)
    (found : fs.stat (blobPath lib md5 extension) true = .ok (location, node)) :
    fs.stat (blobPath lib md5 extension) false = .ok (blobAt place md5 extension, .file id) := by
  have usable := Files.usable_of_resolve (Files.stat_eq_ok_iff.mp found)
  have isName := blob.naming.isName
  have directory := stat_secondPart leads blob usable
  have there : fs.nodes[place ++ [firstPart md5, secondPart md5] ++ [blobName md5 extension]]? =
      some (.file id) := by
    simpa [blobAt] using blob.file
  have short := (Files.stat_below_inv isName directory found (.inr (by rw [there]; simp))).2.2.2
  have opens : fs.stat (blobPath lib md5 extension) false =
      .ok (place ++ [firstPart md5, secondPart md5] ++ [blobName md5 extension], .file id) :=
    Files.stat_below isName directory usable short there (.inl rfl)
  simpa [blobAt] using opens

/-- A file with whose content nothing is wrong can be opened and has its checksum. -/
theorem reached_of_contentProblem? {item : Int}
    (leads : fs₀.stat lib.base true = .ok (place, .directory))
    (within : fs.Within fs₀) (sameData : fs.data = fs₀.data)
    (blob : BlobFile fs₀ place md5 extension id)
    (right : contentProblem? fs item (blobPath lib md5 extension) md5 = none) :
    Reached lib fs₀ place md5 extension id ∧
      Md5.checksum (fs₀.dataOf id).content.toBytes = md5 := by
  unfold contentProblem? at right
  cases content : fs.read (blobPath lib md5 extension) with
  | error e => simp [content] at right
  | ok data =>
      obtain ⟨location, id', found, rfl⟩ := Files.stat_of_read content
      have before := within.stat found
      obtain ⟨-, isFile⟩ := stat_blobPath leads blob before
      cases isFile
      refine ⟨⟨blob, _, stat_blobPath_false leads blob before⟩, ?_⟩
      simpa [content, Files.dataOf_congr sameData] using right

/-- A file that is removed could be opened. -/
theorem opens_of_clear {fs' : Files} (leads : fs₀.stat lib.base true = .ok (place, .directory))
    (within : fs.Within fs₀) (blob : BlobFile fs₀ place md5 extension id)
    (cleared : (Visit.file md5 extension).clear lib fs = .ok fs') :
    fs.stat (blobPath lib md5 extension) true = .ok (blobAt place md5 extension, .file id) ∧
      Reached lib fs₀ place md5 extension id := by
  obtain ⟨location, node, found, -, -⟩ := Files.cleared_remove cleared
  obtain ⟨rfl, rfl⟩ := stat_blobPath leads blob (within.stat found)
  exact ⟨Files.stat_true_of_false found (by simp), blob, _, within.stat found⟩

/-- A file that can be opened can be removed as long as it is there and the directory of the library can
be found. -/
theorem clear_of_reached {id' : Nat} (reached : Reached lib fs₀ place md5 extension id)
    (leads₀ : fs₀.stat lib.base true = .ok (place, .directory))
    (leads : fs.stat lib.base true = .ok (place, .directory))
    (still : BlobFile fs place md5 extension id') :
    fs.stat (blobPath lib md5 extension) false = .ok (blobAt place md5 extension, .file id') ∧
      ∃ fs', (Visit.file md5 extension).clear lib fs = .ok fs' := by
  obtain ⟨blob, ⟨location, node⟩, found⟩ := reached
  have usable := Files.usable_of_resolve (Files.stat_eq_ok_iff.mp found)
  have isName := blob.naming.isName
  have short := (Files.stat_below_inv isName (stat_secondPart leads₀ blob usable) found
    (.inl rfl)).2.2.2
  have opens : fs.stat (blobPath lib md5 extension) false =
      .ok (place ++ [firstPart md5, secondPart md5] ++ [blobName md5 extension], .file id') :=
    Files.stat_below isName (stat_secondPart leads still usable) usable short
      (by simpa [blobAt] using still.file) (.inl rfl)
  refine ⟨by simpa [blobAt] using opens, ?_⟩
  simp [Visit.clear, Files.remove, opens]

/-- A directory can be removed as long as it is there and the directory of the library can be found. -/
theorem clear_of_stale {name : String} (stale : StaleDirectory fs₀ place process name)
    (opens : ∃ found, fs₀.stat (Path.below lib.base name) false = .ok found)
    (leads₀ : fs₀.stat lib.base true = .ok (place, .directory))
    (leads : fs.stat lib.base true = .ok (place, .directory))
    (still : fs.nodes[place ++ [name]]? = some .directory) :
    ∃ fs', (Visit.stale name).clear lib fs = .ok fs' := by
  obtain ⟨owner, owned, -⟩ := stale.owner
  obtain ⟨⟨location, node⟩, found⟩ := opens
  have isName := isName_of_tmpProcess? owned
  obtain ⟨-, -, usable, short⟩ := Files.stat_below_inv isName leads₀ found (.inl rfl)
  have there : fs.stat (Path.below lib.base name) false = .ok (place ++ [name], .directory) :=
    Files.stat_below isName leads usable short still (.inl rfl)
  simp [Visit.clear, Files.removeTree, there]

end Files

/-! ## What is found -/

section Findings

variable {lib : Library} {observer : Observer} {t : Tables} {fs₀ fs : Files} {place : Location}
  {process id : Nat} {md5 extension : String} {i : Item} {p : Problem} {gone : List Int} {v : Visit}
  {r r' : Run}

theorem libraryItem?_eq_some (found : t.libraryItem? md5 = some i) :
    i ∈ t.libraryItems ∧ i.cell .md5 = .text md5 :=
  ⟨List.mem_of_find?_eq_some found, by simpa using List.find?_some found⟩

/-- What goes together with a file is the item that it is taken for, and only if the content is wrong. -/
theorem gone_of_finding? (found : (Visit.file md5 extension).finding? lib t fs = some (p, gone)) :
    gone = [] ∨ ∃ j, t.libraryItem? md5 = some j ∧ gone = [j.id] ∧
      contentProblem? fs j.id (blobPath lib md5 extension) md5 = some p := by
  obtain ⟨repair, finds⟩ := Visit.finds_of_finding? found
  cases finds with
  | unknown | misnamed => exact .inl rfl
  | invalid present problem => exact .inr ⟨_, present, rfl, problem⟩

/-- The second stage finds nothing wrong with a file that has its checksum and the extension for the
format of its item. -/
theorem finding?_eq_none {location : Location} (present : t.libraryItem? md5 = some i)
    (found : fs.stat (blobPath lib md5 extension) true = .ok (location, .file id))
    (right : Md5.checksum (fs.dataOf id).content.toBytes = md5)
    (named : Blob.extension (i.text? .format) = "." ++ extension) :
    (Visit.file md5 extension).finding? lib t fs = none := by
  simp [Visit.finding?, present, contentProblem?_of_stat i.id found, right, named]

/-- With a misleading file something is wrong, and the item for its checksum goes with it. -/
theorem finding?_of_misleading (leads : fs₀.stat lib.base true = .ok (place, .directory))
    (within : fs.Within fs₀) (sameData : fs.data = fs₀.data)
    (misleading : Misleading lib fs₀ place md5 extension)
    (present : t.libraryItem? md5 = some i) :
    ∃ p, (Visit.file md5 extension).finding? lib t fs = some (p, [i.id]) := by
  obtain ⟨id, reached, wrong⟩ := misleading
  suffices ∃ p, contentProblem? fs i.id (blobPath lib md5 extension) md5 = some p by
    obtain ⟨p, problem⟩ := this
    exact ⟨p, by simp [Visit.finding?, present, problem]⟩
  unfold contentProblem?
  cases content : fs.read (blobPath lib md5 extension) with
  | error e => exact ⟨_, rfl⟩
  | ok data =>
      obtain ⟨location, id', found, rfl⟩ := Files.stat_of_read content
      obtain ⟨-, isFile⟩ := stat_blobPath leads reached.blob (within.stat found)
      cases isFile
      rw [← Files.dataOf_congr sameData] at wrong
      simp [wrong]

/-- A visit leaves an item alone, unless it is to a misleading file with the checksum of the item. -/
theorem Visit.Taken.kept_or_misleading (taken : v.Taken lib observer r r')
    (leads : fs₀.stat lib.base true = .ok (place, .directory))
    (within : r.files.Within fs₀) (sameData : r.files.data = fs₀.data) (keyed : r.tables.Keyed)
    (stands : v.Stands fs₀ place process) (row : i ∈ r.tables.libraryItems)
    (checksum : i.cell .md5 = .text md5) :
    i ∈ r'.tables.libraryItems ∨
      ∃ extension, v = .file md5 extension ∧ Misleading lib fs₀ place md5 extension := by
  rcases taken.effect with ⟨same, -⟩ | ⟨p, gone, found, cleared⟩
  · exact .inl (same ▸ row)
  · obtain ⟨isRow, inLibrary⟩ := Tables.mem_libraryItems.mp row
    rw [cleared.tables, Tables.mem_libraryItems, Tables.mem_deleteItems_items]
    cases v with
    | progress | listing => cases found
    | stale name =>
        cases found
        exact .inl ⟨⟨isRow, by simp⟩, inLibrary⟩
    | file md5' extension =>
        rcases gone_of_finding? found with rfl | ⟨j, isItem, rfl, problem⟩
        · exact .inl ⟨⟨isRow, by simp⟩, inLibrary⟩
        · by_cases same : i.id = j.id
          · right
            obtain ⟨other, otherChecksum⟩ := libraryItem?_eq_some isItem
            obtain rfl := keyed.item_eq isRow (Tables.mem_libraryItems.mp other).1 same
            obtain rfl : md5 = md5' := by simpa [checksum] using otherChecksum
            obtain ⟨id, blob⟩ := stands
            obtain ⟨opens, reached⟩ := opens_of_clear leads within blob cleared.files
            refine ⟨extension, rfl, id, reached, ?_⟩
            intro right
            rw [contentProblem?_of_stat i.id opens, Files.dataOf_congr sameData, right] at problem
            simp at problem
          · exact .inl ⟨⟨isRow, by simpa using same⟩, inLibrary⟩

end Findings

/-! ## The moment of a visit -/

/-- What has to be there for a visit. -/
def Visit.RestsOn (place : Location) : Visit → Location → Prop
  | .file md5 extension, location => location = place ++ [firstPart md5] ∨
      location = place ++ [firstPart md5, secondPart md5] ∨ location = blobAt place md5 extension
  | .stale name, location => location = place ++ [name]
  | _, _ => False

section Moments

variable {lib : Library} {observer : Observer} {fs₀ fs : Files} {place location : Location}
  {process : Nat} {v v' : Visit} {vs : List Visit} {r r' : Run}

theorem Visit.Stands.congr (stands : v.Stands fs₀ place process)
    (same : ∀ location, v.RestsOn place location → fs.nodes[location]? = fs₀.nodes[location]?) :
    v.Stands fs place process := by
  cases v with
  | progress | listing => trivial
  | file md5 extension =>
      obtain ⟨id, naming, first, second, file⟩ := stands
      exact ⟨id, naming, by rw [same _ (.inl rfl), first], by rw [same _ (.inr (.inl rfl)), second],
        by rw [same _ (.inr (.inr rfl)), file]⟩
  | stale name => exact ⟨stands.owner, by rw [same _ rfl, stands.directory]⟩

/-- A visit takes nothing away that another one rests on. -/
theorem not_takes_of_ne (stands : v.Stands fs₀ place process) (stands' : v'.Stands fs₀ place process)
    (other : v' ≠ v) (rests : v.RestsOn place location) : ¬v'.Takes place location := by
  intro takes
  cases v' with
  | progress | listing => exact takes
  | file md5' extension' =>
      obtain rfl : location = blobAt place md5' extension' := takes
      obtain ⟨id', blob'⟩ := stands'
      cases v with
      | progress | listing => exact rests
      | file md5 extension =>
          obtain ⟨id, blob⟩ := stands
          rcases rests with same | same | same
          · simp [blobAt] at same
          · simp [blobAt] at same
          · simp only [blobAt, List.append_cancel_left_eq, List.cons.injEq, and_true] at same
            obtain ⟨rfl, rfl⟩ := blobName_injective blob'.naming blob.naming same.2.2
            exact other rfl
      | stale name =>
          have length := congrArg List.length rests
          simp [blobAt] at length
  | stale name' =>
      have inside : place ++ [name'] <+: location := takes
      obtain ⟨owner, owned, -⟩ := stands'.owner
      cases v with
      | progress | listing => exact rests
      | file md5 extension =>
          obtain ⟨id, blob⟩ := stands
          have first : name' = firstPart md5 := by
            rcases rests with rfl | rfl | rfl <;>
              simpa [blobAt, List.prefix_append_right_inj] using inside
          rw [first, tmpProcess?_of_isHexName (isHexName_parts blob.naming.digits).1] at owned
          cases owned
      | stale name =>
          obtain rfl : location = place ++ [name] := rests
          rw [List.prefix_append_right_inj, List.cons_prefix_cons] at inside
          exact other (by rw [inside.1])

/-- What no visit takes away stays as it is. -/
theorem nodes_of_runVisits (leads : fs₀.stat lib.base true = .ok (place, .directory))
    (within : r.files.Within fs₀) (stand : ∀ v ∈ vs, v.Stands fs₀ place process)
    (untaken : ∀ v ∈ vs, ¬v.Takes place location)
    (done : runVisits lib observer vs r = .ok r') :
    r'.files.nodes[location]? = r.files.nodes[location]? := by
  apply runVisits_keeps (fun r' => r'.files.nodes[location]? = r.files.nodes[location]?) rfl _ done
  intro v membership r₁ r₂ passed taken same
  rcases taken.effect with ⟨-, files⟩ | ⟨p, gone, -, cleared⟩
  · rw [files, same]
  · rw [((stand v membership).cleared leads (passed.later.files.trans within) cleared.files).kept _
      (untaken v membership), same]

/-- The moment of a visit: nothing has happened to what is visited. -/
structure Moment (lib : Library) (observer : Observer) (place : Location) (process : Nat)
    (v : Visit) (start r r' final : Run) : Prop where
  before : Passed observer start r
  stands : v.Stands r.files place process
  taken : v.Taken lib observer r r'
  after : Passed observer r' final

/-- What is wrong at the moment of a visit is cleared away if all is agreed to and the removal is
possible. -/
theorem Moment.cleared {start final : Run} {p : Problem} {gone : List Int}
    (moment : Moment lib observer place process v start r r' final)
    (agreeable : Agreeable observer start)
    (found : v.finding? lib r.tables r.files = some (p, gone))
    (possible : ∃ fs', v.clear lib r.files = .ok fs') : v.Cleared lib gone r r' := by
  rcases moment.taken.thorough (moment.before.later.agreeable agreeable) p gone found
    with cleared | ⟨-, e, failed⟩
  · exact cleared
  · obtain ⟨fs', ok⟩ := possible
    rw [failed] at ok
    cases ok

theorem Moment.extend {first start final last : Run}
    (moment : Moment lib observer place process v start r r' final)
    (before : Passed observer first start) (after : Passed observer final last) :
    Moment lib observer place process v first r r' last :=
  ⟨before.trans moment.before, moment.stands, moment.taken, moment.after.trans after⟩

/-- Every visit has its moment, after the visits before it. -/
theorem moment {start final : Run} (leads : start.files.stat lib.base true = .ok (place, .directory))
    (stand : ∀ v ∈ vs, v.Stands start.files place process)
    (done : runVisits lib observer vs start = .ok final) (membership : v ∈ vs) :
    ∃ before after r r', vs = before ++ v :: after ∧ v ∉ before ∧
      runVisits lib observer before start = .ok r ∧ runVisits lib observer after r' = .ok final ∧
      Moment lib observer place process v start r r' final := by
  obtain ⟨before, after, rfl, first⟩ := List.eq_append_cons_of_mem membership
  obtain ⟨r, r', toHere, taken, fromHere⟩ := visited done
  refine ⟨before, after, r, r', rfl, first, toHere, fromHere, passed_runVisits toHere, ?_, taken,
    passed_runVisits fromHere⟩
  have stands := stand v membership
  apply stands.congr
  intro location rests
  apply nodes_of_runVisits leads (.refl _) (fun v isBefore => stand v (by simp [isBefore])) _ toHere
  intro v' isBefore
  exact not_takes_of_ne stands (stand v' (by simp [isBefore]))
    (fun same => first (same ▸ isBefore)) rests

end Moments

end SampleLibrary.Verifier
