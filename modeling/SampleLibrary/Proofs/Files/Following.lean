import SampleLibrary.Files.Basic
import SampleLibrary.Proofs.Splitting

/-!
# Where paths lead

A path is followed name by name. If it leads to something, it leads there as well when there are more
names than before (`Files.Within.stat`). The path of a name in a directory leads to that name, whatever
links there are on the way to the directory (`Files.stat_below`).
-/

namespace SampleLibrary

/-- A name that stands for itself between two slashes of a path. -/
structure IsName (name : String) : Prop where
  nonempty : name ≠ ""
  notHere : name ≠ "."
  notUp : name ≠ Path.up
  noSlash : '/' ∉ name.toList

namespace Files

/-- There are no new names, while others may be gone. -/
structure Within (fs' fs : Files) : Prop where
  nodes : ∀ (location : Location) (node : Node),
    fs'.nodes[location]? = some node → fs.nodes[location]? = some node
  working : fs'.working = fs.working

variable {fs fs' : Files} {followLast : Bool} {directory : Location} {names : List String}

theorem Within.refl (fs : Files) : fs.Within fs := ⟨fun _ _ found => found, rfl⟩

theorem Within.trans {fs'' : Files} (later : fs''.Within fs') (earlier : fs'.Within fs) :
    fs''.Within fs :=
  ⟨fun location node found => earlier.nodes location node (later.nodes location node found),
    later.working.trans earlier.working⟩

/-- What has gone does not come back. -/
theorem Within.nodes_none (within : fs'.Within fs) {location : Location}
    (gone : fs.nodes[location]? = none) : fs'.nodes[location]? = none := by
  cases entry : fs'.nodes[location]? with
  | none => rfl
  | some node => rw [within.nodes location node entry] at gone; cases gone

/-! ## More names than before -/

theorem walk_cons_of_name {name : String} {rest : List String}
    (here : ¬(name == "" || name == ".") = true) (above : ¬(name == Path.up) = true)
    (long : ¬name.utf8ByteSize > maxName) :
    fs.walk followLast directory (name :: rest) =
      match fs.nodes[directory ++ [name]]? with
      | none =>
        if rest.all (· == "") then .ok (.ended (.free (directory ++ [name]) !rest.isEmpty))
        else .error .notFound
      | some .directory => fs.walk followLast (directory ++ [name]) rest
      | some (.file id) =>
        if rest.isEmpty then .ok (.ended (.found (directory ++ [name]) (.file id)))
        else .error .notDirectory
      | some (.link target) =>
        if rest.isEmpty && !followLast then
          .ok (.ended (.found (directory ++ [name]) (.link target)))
        else .ok (.atLink directory target rest) := by
  have step := walk.eq_2 fs followLast directory name rest
  rw [if_neg here, if_neg above, if_neg long] at step
  exact step

/-- A walk that ends somewhere ends there as well when there are more names than before, and when links
at the end are followed, unless it ends at one. -/
theorem Within.walk (within : fs'.Within fs) {followLast' : Bool} {result : Walk}
    (walked : fs'.walk followLast' directory names = .ok result)
    (there : ∀ location slash, result ≠ .ended (.free location slash))
    (plain : followLast' = followLast ∨
      followLast' = false ∧ ∀ location target, result ≠ .ended (.found location (.link target))) :
    fs.walk followLast directory names = .ok result := by
  fun_induction Files.walk fs' followLast' directory names with
  | case1 directory => simpa only [Files.walk] using walked
  | case2 directory name rest here inductionHypothesis =>
      rw [Files.walk, if_pos here]
      exact inductionHypothesis walked
  | case3 directory name rest here above inductionHypothesis =>
      rw [Files.walk, if_neg here, if_pos above]
      exact inductionHypothesis walked
  | case4 => cases walked
  | case5 =>
      cases walked
      exact absurd rfl (there _ _)
  | case6 => cases walked
  | case7 directory name rest here above long location entry inductionHypothesis =>
      rw [walk_cons_of_name here above long, within.nodes _ _ entry]
      exact inductionHypothesis walked
  | case8 directory name rest here above long location id entry last =>
      rw [walk_cons_of_name here above long, within.nodes _ _ entry]
      simpa [last] using walked
  | case9 => cases walked
  | case10 directory name rest here above long location target entry last =>
      cases walked
      rw [walk_cons_of_name here above long, within.nodes _ _ entry]
      rcases plain with rfl | ⟨-, notLink⟩
      · simp [last, location]
      · exact absurd rfl (notLink _ _)
  | case11 directory name rest here above long location target entry last =>
      rw [walk_cons_of_name here above long, within.nodes _ _ entry]
      rcases plain with rfl | ⟨rfl, -⟩
      · simpa [last] using walked
      · have goesOn : rest.isEmpty = false := by simpa using last
        simpa [goesOn] using walked

/-- The names lead from a directory to the place, through at most so many links. -/
inductive Arrives (fs : Files) (followLast : Bool) (place : Place) :
    (links : Nat) → Location → List String → Prop where
  | ended {links : Nat} {directory : Location} {names : List String}
      (walked : fs.walk followLast directory names = .ok (.ended place)) :
      fs.Arrives followLast place links directory names
  | link {links : Nat} {directory here : Location} {names rest : List String} {target : String}
      (walked : fs.walk followLast directory names = .ok (.atLink here target rest))
      (onward : fs.Arrives followLast place links (if Path.isAbsolute target then [] else here)
        (pieces target ++ rest)) :
      fs.Arrives followLast place (links + 1) directory names

theorem arrives_iff {links : Nat} {place : Place} :
    fs.Arrives followLast place links directory names ↔
      fs.follow followLast links directory names = .ok place := by
  constructor
  · intro arrives
    induction arrives with
    | ended walked => rw [Files.follow, walked]
    | link walked onward inductionHypothesis =>
        rw [Files.follow, walked]
        exact inductionHypothesis
  · intro followed
    fun_induction Files.follow fs followLast links directory names with
    | case1 => cases followed
    | case2 links directory names end' walked =>
        cases followed
        exact .ended walked
    | case3 => cases followed
    | case4 directory names here target rest walked links start inductionHypothesis =>
        exact .link walked (inductionHypothesis followed)

theorem Within.follow (within : fs'.Within fs) {followLast' : Bool} {links : Nat}
    {location : Location} {node : Node}
    (followed : fs'.follow followLast' links directory names = .ok (.found location node))
    (plain : followLast' = followLast ∨ followLast' = false ∧ ∀ target, node ≠ .link target) :
    fs.follow followLast links directory names = .ok (.found location node) := by
  rw [← arrives_iff] at followed ⊢
  induction followed with
  | ended walked =>
      refine .ended (within.walk walked (by simp) (plain.imp_right fun notLink => ⟨notLink.1, ?_⟩))
      rintro place target same
      simp only [Walk.ended.injEq, Place.found.injEq] at same
      exact notLink.2 target same.2
  | link walked onward inductionHypothesis =>
      exact .link (within.walk walked (by simp)
        (plain.imp_right fun notLink => ⟨notLink.1, by simp⟩)) inductionHypothesis

/-- Nothing about the path itself keeps it from being followed. -/
structure Usable (path : String) : Prop where
  noNul : path.toList.contains '\x00' = false
  nonempty : path.isEmpty = false
  short : ¬path.utf8ByteSize ≥ maxPath

theorem resolve_of_usable {path : String} (usable : Usable path) :
    fs.resolve path followLast =
      fs.follow followLast maxLinks (if Path.isAbsolute path then [] else fs.working)
        (pieces path) := by
  unfold resolve
  rw [usable.noNul, usable.nonempty, if_neg (by simp), if_neg (by simp), if_neg usable.short]

theorem usable_of_resolve {path : String} {place : Place}
    (resolved : fs.resolve path followLast = .ok place) : Usable path := by
  unfold resolve at resolved
  split at resolved
  · cases resolved
  · rename_i noNul
    split at resolved
    · cases resolved
    · rename_i nonempty
      split at resolved
      · cases resolved
      · rename_i short
        exact ⟨by simpa using noNul, by simpa using nonempty, short⟩

theorem stat_eq_ok_iff {path : String} {location : Location} {node : Node} :
    fs.stat path followLast = .ok (location, node) ↔
      fs.resolve path followLast = .ok (.found location node) := by
  unfold stat
  split <;> simp_all

theorem Within.stat_of_plain (within : fs'.Within fs) {followLast' : Bool} {path : String}
    {location : Location} {node : Node} (found : fs'.stat path followLast' = .ok (location, node))
    (plain : followLast' = followLast ∨ followLast' = false ∧ ∀ target, node ≠ .link target) :
    fs.stat path followLast = .ok (location, node) := by
  rw [stat_eq_ok_iff] at found ⊢
  have usable := usable_of_resolve found
  rw [resolve_of_usable usable] at found ⊢
  rw [within.working] at found
  exact within.follow found plain

/-- A path that leads to something led there before anything was gone. -/
theorem Within.stat (within : fs'.Within fs) {path : String} {location : Location} {node : Node}
    (found : fs'.stat path followLast = .ok (location, node)) :
    fs.stat path followLast = .ok (location, node) :=
  within.stat_of_plain found (.inl rfl)

/-- It does not matter whether links at the end of a path are followed where there is none. -/
theorem stat_true_of_false {path : String} {location : Location} {node : Node}
    (found : fs.stat path false = .ok (location, node)) (plain : ∀ target, node ≠ .link target) :
    fs.stat path true = .ok (location, node) :=
  (Within.refl fs).stat_of_plain found (.inr ⟨rfl, plain⟩)

/-! ## What there is at the end of a path -/

theorem nodes_of_walk_found {location : Location} {node : Node}
    (walked : fs.walk followLast directory names = .ok (.ended (.found location node)))
    (other : node ≠ .directory) : fs.nodes[location]? = some node := by
  fun_induction Files.walk fs followLast directory names with
  | case1 directory =>
      cases walked
      exact absurd rfl other
  | case2 directory name rest here inductionHypothesis => exact inductionHypothesis walked
  | case3 directory name rest here above inductionHypothesis => exact inductionHypothesis walked
  | case4 => cases walked
  | case5 => cases walked
  | case6 => cases walked
  | case7 directory name rest here above long location entry inductionHypothesis =>
      exact inductionHypothesis walked
  | case8 directory name rest here above long location id entry last =>
      simp only [Except.ok.injEq, Walk.ended.injEq, Place.found.injEq] at walked
      rw [← walked.1, ← walked.2]
      exact entry
  | case9 => cases walked
  | case10 directory name rest here above long location target entry last =>
      simp only [Except.ok.injEq, Walk.ended.injEq, Place.found.injEq] at walked
      rw [← walked.1, ← walked.2]
      exact entry
  | case11 => cases walked

/-- What every walk says of its end holds of the end of a path, however many links are followed. -/
theorem follow_ended {P : Place → Prop} {links : Nat} {place : Place}
    (ends : ∀ directory names place,
      fs.walk followLast directory names = .ok (.ended place) → P place)
    (followed : fs.follow followLast links directory names = .ok place) : P place := by
  rw [← arrives_iff] at followed
  induction followed with
  | ended walked => exact ends _ _ _ walked
  | link walked onward inductionHypothesis => exact inductionHypothesis

theorem nodes_of_follow {links : Nat} {location : Location} {node : Node}
    (followed : fs.follow followLast links directory names = .ok (.found location node))
    (other : node ≠ .directory) : fs.nodes[location]? = some node := by
  refine follow_ended (P := fun place => place = .found location node →
    fs.nodes[location]? = some node) ?_ followed rfl
  rintro directory names place walked rfl
  exact nodes_of_walk_found walked other

/-- Files in which the walks of other files come to the same lead the same way. -/
theorem follow_of_walks {P : Place → Prop} {links : Nat} {place : Place}
    (walks : ∀ directory names result, fs.walk followLast directory names = .ok result →
      (∀ place, result = .ended place → P place) →
      fs'.walk followLast directory names = .ok result)
    (followed : fs.follow followLast links directory names = .ok place) (good : P place) :
    fs'.follow followLast links directory names = .ok place := by
  rw [← arrives_iff] at followed ⊢
  induction followed with
  | ended walked => exact .ended (walks _ _ _ walked fun place same => Walk.ended.inj same ▸ good)
  | link walked onward inductionHypothesis =>
      exact .link (walks _ _ _ walked fun place same => nomatch same) inductionHypothesis

/-- What is found at the end of a path is there, under the name at its location. -/
theorem nodes_of_stat {path : String} {location : Location} {node : Node}
    (found : fs.stat path followLast = .ok (location, node)) (other : node ≠ .directory) :
    fs.nodes[location]? = some node := by
  have resolved := stat_eq_ok_iff.mp found
  rw [resolve_of_usable (usable_of_resolve resolved)] at resolved
  exact nodes_of_follow resolved other

theorem read_of_stat {path : String} {location : Location} {id : Nat}
    (found : fs.stat path true = .ok (location, .file id)) :
    fs.read path = .ok (fs.dataOf id).content.toBytes := by
  simp [read, fileAt, found, Except.map]

theorem stat_of_read {path : String} {data : ByteArray} (ok : fs.read path = .ok data) :
    ∃ location id, fs.stat path true = .ok (location, .file id) ∧
      data = (fs.dataOf id).content.toBytes := by
  unfold read fileAt at ok
  split at ok
  · rename_i location id found
    exact ⟨location, id, found, (Except.ok.inj ok).symm⟩
  · cases ok
  · cases ok

theorem exists?_of_stat {path : String} {location : Location} {node : Node}
    (found : fs.stat path true = .ok (location, node)) : fs.exists? path = true := by
  simp [exists?, found, Except.toOption]

/-! ## One name more on the way -/

/-- Names that come after a walk go on from where it has come to. -/
theorem walk_append {more : List String} (goesOn : more ≠ []) :
    fs.walk followLast directory (names ++ more) =
      match fs.walk true directory names with
      | .ok (.ended (.found place .directory)) => fs.walk followLast place more
      | .ok (.ended (.found _ _)) => .error .notDirectory
      | .ok (.ended (.free place _)) =>
        if more.all (· == "") then .ok (.ended (.free place true)) else .error .notFound
      | .ok (.atLink place target rest) => .ok (.atLink place target (rest ++ more))
      | .error e => .error e := by
  fun_induction Files.walk fs true directory names with
  | case1 directory => rfl
  | case2 directory name rest here inductionHypothesis =>
      rw [List.cons_append, Files.walk, if_pos here, inductionHypothesis]
  | case3 directory name rest here above inductionHypothesis =>
      rw [List.cons_append, Files.walk, if_neg here, if_pos above, inductionHypothesis]
  | case4 directory name rest here above long =>
      rw [List.cons_append, Files.walk, if_neg here, if_neg above, if_pos long]
  | case5 directory name rest here above long location entry ends =>
      rw [List.cons_append, walk_cons_of_name here above long, entry]
      have longer : (rest ++ more).isEmpty = false := by simp [goesOn]
      simp [ends, longer, location]
  | case6 directory name rest here above long location entry ends =>
      rw [List.cons_append, walk_cons_of_name here above long, entry]
      simp [ends]
  | case7 directory name rest here above long location entry inductionHypothesis =>
      rw [List.cons_append, walk_cons_of_name here above long, entry]
      exact inductionHypothesis
  | case8 directory name rest here above long location id entry last =>
      rw [List.cons_append, walk_cons_of_name here above long, entry]
      simp [goesOn]
  | case9 directory name rest here above long location id entry last =>
      rw [List.cons_append, walk_cons_of_name here above long, entry]
      simp [goesOn]
  | case10 directory name rest here above long location target entry last => simp at last
  | case11 directory name rest here above long location target entry last =>
      rw [List.cons_append, walk_cons_of_name here above long, entry]
      simp [goesOn]

/-- Names that lead to a directory can be followed by others, which go on from there. -/
theorem follow_append {links : Nat} {place : Location} {more : List String}
    (followed : fs.follow true links directory names = .ok (.found place .directory))
    (goesOn : more ≠ []) :
    ∃ left, fs.follow followLast links directory (names ++ more) =
      fs.follow followLast left place more := by
  rw [← arrives_iff] at followed
  induction followed with
  | @ended links directory names walked =>
      refine ⟨links, ?_⟩
      rw [follow, walk_append goesOn, walked, follow]
  | link walked onward inductionHypothesis =>
      rw [follow, walk_append goesOn, walked]
      dsimp only
      rw [← List.append_assoc]
      exact inductionHypothesis

/-- Names that go on behind others go through the directory to which those lead. -/
theorem Arrives.front {links : Nat} {more : List String} {result : Place}
    (arrives : fs.Arrives followLast result links directory (names ++ more)) (goesOn : more ≠ [])
    (there : more.all (· == "") = false ∨ ∀ location slash, result ≠ .free location slash) :
    ∃ place left, fs.Arrives true (.found place .directory) links directory names ∧
      fs.Arrives followLast result left place more := by
  generalize all : names ++ more = longer at arrives
  induction arrives generalizing names with
  | @ended links directory longer walked =>
      subst all
      rw [walk_append goesOn] at walked
      cases front : fs.walk true directory names with
      | error e => simp [front] at walked
      | ok reached =>
          rw [front] at walked
          rcases reached with ⟨⟨place, node⟩ | ⟨place, slash⟩⟩ | ⟨place, target, rest⟩
          · cases node with
            | directory => exact ⟨place, links, .ended front, .ended walked⟩
            | file id => cases walked
            | link target => cases walked
          · rcases there with further | notFree
            · simp [further] at walked
            · dsimp only at walked
              split at walked
              · cases walked
                exact absurd rfl (notFree _ _)
              · cases walked
          · cases walked
  | @link links directory here longer rest target walked onward inductionHypothesis =>
      subst all
      rw [walk_append goesOn] at walked
      cases front : fs.walk true directory names with
      | error e => simp [front] at walked
      | ok reached =>
          rw [front] at walked
          rcases reached with ⟨⟨place, node⟩ | ⟨place, slash⟩⟩ | ⟨place, pointed, behind⟩
          · cases node with
            | directory => exact ⟨place, links + 1, .ended front, .link walked onward⟩
            | file id => cases walked
            | link pointed => cases walked
          · dsimp only at walked
            split at walked <;> cases walked
          · cases walked
            rcases inductionHypothesis (List.append_assoc _ _ _) with ⟨place, left, leads, more⟩
            exact ⟨place, left, .link front leads, more⟩

/-- A slash behind the names of a directory changes nothing. -/
theorem follow_slash {links : Nat} {place : Location} :
    fs.follow true links directory (names ++ [""]) = .ok (.found place .directory) ↔
      fs.follow true links directory names = .ok (.found place .directory) := by
  have stays (left : Nat) (here : Location) :
      fs.follow true left here [""] = .ok (.found here .directory) := by
    simp [follow, walk]
  constructor
  · intro slashed
    rcases (arrives_iff.mpr slashed).front (by simp) (.inr (by simp)) with
      ⟨here, left, leads, rest⟩
    rw [arrives_iff, stays] at rest
    cases rest
    exact arrives_iff.mp leads
  · intro leads
    rcases follow_append leads (List.cons_ne_nil "" []) with ⟨left, same⟩
    rw [same, stays]

/-! ## A name in a directory -/

theorem isAbsolute_of_isName {name : String} (isName : IsName name) :
    Path.isAbsolute name = false := by
  unfold Path.isAbsolute
  cases cs : name.toList with
  | nil => rfl
  | cons c rest =>
      have differs : c ≠ '/' := fun same => isName.noSlash (by simp [cs, same])
      simp [differs]

theorem pieces_of_isName {name : String} (isName : IsName name) : pieces name = [name] := by
  have uncut : ∀ c ∈ name.toList, (c == '/') = false := by
    intro c membership
    rw [beq_eq_false_iff_ne]
    exact fun same => isName.noSlash (same ▸ membership)
  simp [pieces, Text.splitAtAll_of_forall uncut]

theorem pieces_append_slash (front rest : String) :
    pieces (front ++ "/" ++ rest) = pieces front ++ pieces rest := by
  have cut : (front ++ "/" ++ rest).toList = front.toList ++ '/' :: rest.toList := by simp
  rw [pieces, cut, Text.splitAtAll_append_cons rfl, List.map_append]
  rfl

/-- The names of a path in a directory are those of the directory, apart from a slash at the end, and
one more. -/
theorem pieces_below {base name : String} (nonempty : base ≠ "") (isName : IsName name) :
    ∃ front, (pieces base = front ∨ pieces base = front ++ [""]) ∧
      pieces (Path.below base name) = front ++ [name] := by
  unfold Path.below
  rw [if_neg (by simp [isAbsolute_of_isName isName])]
  by_cases slash : (base == "" || base.toList.getLast? == some '/') = true
  · rw [if_pos slash]
    simp only [Bool.or_eq_true, beq_iff_eq, nonempty, false_or] at slash
    rcases List.getLast?_eq_some_iff.mp slash with ⟨front, ends⟩
    have split : base = String.ofList front ++ "/" := by
      rw [← String.toList_inj, ends]
      simp
    refine ⟨pieces (String.ofList front), .inr ?_, ?_⟩
    · have cut := pieces_append_slash (String.ofList front) ""
      rw [String.append_empty] at cut
      rw [split, cut]
      rfl
    · rw [split, pieces_append_slash, pieces_of_isName isName]
  · rw [if_neg slash]
    exact ⟨pieces base, .inl rfl, by rw [pieces_append_slash, pieces_of_isName isName]⟩

theorem isAbsolute_below {base name : String} (nonempty : base ≠ "") (isName : IsName name) :
    Path.isAbsolute (Path.below base name) = Path.isAbsolute base := by
  have head : ∀ rest : String, Path.isAbsolute (base ++ rest) = Path.isAbsolute base := by
    intro rest
    unfold Path.isAbsolute
    cases cs : base.toList with
    | nil => exact absurd (String.toList_eq_nil_iff.mp cs) nonempty
    | cons c more => simp [cs]
  unfold Path.below
  rw [if_neg (by simp [isAbsolute_of_isName isName])]
  split
  · exact head name
  · rw [String.append_assoc]
    exact head _

theorem below_eq_append (base : String) {name : String} (isName : IsName name) :
    ∃ slash, Path.below base name = base ++ slash ++ name := by
  unfold Path.below
  rw [if_neg (by simp [isAbsolute_of_isName isName])]
  split
  · exact ⟨"", by rw [String.append_empty]⟩
  · exact ⟨"/", rfl⟩

theorem Usable.of_below {base name : String} (nonempty : base ≠ "") (isName : IsName name)
    (usable : Usable (Path.below base name)) : Usable base := by
  rcases below_eq_append base isName with ⟨slash, path⟩
  rw [path] at usable
  rcases usable with ⟨noNul, -, short⟩
  refine ⟨?_, by simpa using nonempty, ?_⟩
  · rw [List.contains_eq_mem, decide_eq_false_iff_not] at noNul ⊢
    intro nul
    exact noNul (by simp [nul])
  · rw [String.utf8ByteSize_append, String.utf8ByteSize_append] at short
    omega

theorem below_ne_empty (base : String) {name : String} (isName : IsName name) :
    Path.below base name ≠ "" := by
  rcases below_eq_append base isName with ⟨slash, path⟩
  rw [path]
  simp [isName.nonempty]

theorem ne_empty_of_stat {path : String} {location : Location} {node : Node}
    (found : fs.stat path followLast = .ok (location, node)) : path ≠ "" := by
  rintro rfl
  have resolved := stat_eq_ok_iff.mp found
  simp [resolve] at resolved

/-- The path of a name in a directory leads where the name alone leads from there. -/
theorem resolve_below (followLast : Bool) {base name : String} {place : Location}
    (isName : IsName name) (leads : fs.stat base true = .ok (place, .directory))
    (usable : Usable (Path.below base name)) :
    ∃ left, fs.resolve (Path.below base name) followLast =
      fs.follow followLast left place [name] := by
  have resolved := stat_eq_ok_iff.mp leads
  have nonempty := ne_empty_of_stat leads
  rcases pieces_below nonempty isName with ⟨front, ends, names⟩
  rw [resolve_of_usable (usable_of_resolve resolved)] at resolved
  rw [resolve_of_usable usable, isAbsolute_below nonempty isName, names]
  refine follow_append ?_ (by simp)
  rcases ends with same | slash
  · exact same ▸ resolved
  · exact follow_slash.mp (slash ▸ resolved)

theorem follow_isName {name : String} {left : Nat} {place : Location} {node : Node}
    (isName : IsName name) (shortName : ¬name.utf8ByteSize > maxName)
    (there : fs.nodes[place ++ [name]]? = some node)
    (plain : followLast = false ∨ ∀ target, node ≠ .link target) :
    fs.follow followLast left place [name] = .ok (.found (place ++ [name]) node) := by
  rw [follow, walk_cons_of_name (by simp [isName.nonempty, isName.notHere]) (by simp [isName.notUp])
    shortName, there]
  cases node with
  | directory => simp [walk]
  | file id => rfl
  | link target =>
      rcases plain with rfl | notLink
      · rfl
      · exact absurd rfl (notLink target)

/-- A single name leads to itself, whether it is there or free. -/
theorem follow_isName_inv {name : String} {left : Nat} {place : Location} {result : Place}
    (isName : IsName name)
    (plain : followLast = false ∨ ∀ target, fs.nodes[place ++ [name]]? ≠ some (.link target))
    (followed : fs.follow followLast left place [name] = .ok result) :
    ¬name.utf8ByteSize > maxName ∧
      ((∃ node, result = .found (place ++ [name]) node ∧ fs.nodes[place ++ [name]]? = some node) ∨
        result = .free (place ++ [name]) false ∧ fs.nodes[place ++ [name]]? = none) := by
  have here : ¬(name == "" || name == ".") = true := by simp [isName.nonempty, isName.notHere]
  have above : ¬(name == Path.up) = true := by simp [isName.notUp]
  by_cases long : name.utf8ByteSize > maxName
  · rw [follow, walk, if_neg here, if_neg above, if_pos long] at followed
    cases followed
  · refine ⟨long, ?_⟩
    cases entry : fs.nodes[place ++ [name]]? with
    | none =>
        rw [follow, walk_cons_of_name here above long, entry] at followed
        exact .inr ⟨by simpa using followed.symm, rfl⟩
    | some node =>
        rw [follow_isName isName long entry
          (plain.imp_right fun notLink target same => notLink target (same ▸ entry))] at followed
        cases followed
        exact .inl ⟨node, rfl, rfl⟩

/-- The path of a name in a directory leads to that name. -/
theorem stat_below {base name : String} {place : Location} (isName : IsName name)
    (leads : fs.stat base true = .ok (place, .directory)) (usable : Usable (Path.below base name))
    (shortName : ¬name.utf8ByteSize > maxName) {node : Node}
    (there : fs.nodes[place ++ [name]]? = some node)
    (plain : followLast = false ∨ ∀ target, node ≠ .link target) :
    fs.stat (Path.below base name) followLast = .ok (place ++ [name], node) := by
  rcases resolve_below followLast isName leads usable with ⟨left, resolved⟩
  rw [stat_eq_ok_iff, resolved, follow_isName isName shortName there plain]

/-- The path of a name in a directory leads nowhere else. -/
theorem stat_below_inv {base name : String} {place location : Location} {node : Node}
    (isName : IsName name) (leads : fs.stat base true = .ok (place, .directory))
    (found : fs.stat (Path.below base name) followLast = .ok (location, node))
    (plain : followLast = false ∨ ∀ target, fs.nodes[place ++ [name]]? ≠ some (.link target)) :
    location = place ++ [name] ∧ fs.nodes[place ++ [name]]? = some node ∧
      Usable (Path.below base name) ∧ ¬name.utf8ByteSize > maxName := by
  have resolved := stat_eq_ok_iff.mp found
  have usable := usable_of_resolve resolved
  rcases resolve_below followLast isName leads usable with ⟨left, same⟩
  rcases follow_isName_inv isName plain (same ▸ resolved) with
    ⟨shortName, ⟨child, leadsThere, there⟩ | ⟨free, -⟩⟩
  · cases leadsThere
    exact ⟨rfl, there, usable, shortName⟩
  · cases free

end Files

end SampleLibrary
