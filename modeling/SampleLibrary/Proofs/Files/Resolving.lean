import Mathlib.Data.List.Induction
import Mathlib.Logic.Relation
import SampleLibrary.Proofs.Files.Following
import SampleLibrary.Proofs.Files.Ways
import SampleLibrary.Rewrite.Category

/-!
# What a path says by its text alone

Between the slashes of a path there are pieces that say nothing, and steps down that the step up behind them
takes back. When all this is left out, steps up remain, and then names (`Path.ComesTo`); at the root there is
nothing above, so of an absolute path the names alone count (`Path.resolution`).

The way of a path is this resolution only if not more than one step up remains, or an even number of them at the
root: a step up that has nothing to take back is kept, but the next one takes it back like a name. So a way knows
of these steps only whether their number is odd (`Path.way_eq_resolution_iff`).
-/

namespace SampleLibrary

instance (name : String) : Decidable (IsName name) :=
  decidable_of_iff (name ≠ "" ∧ name ≠ "." ∧ name ≠ Path.up ∧ '/' ∉ name.toList)
    ⟨fun ⟨nonempty, notHere, notUp, noSlash⟩ => ⟨nonempty, notHere, notUp, noSlash⟩,
      fun isName => ⟨isName.nonempty, isName.notHere, isName.notUp, isName.noSlash⟩⟩

namespace Path

/-- One thing less to say: nothing between two slashes, the directory itself, or a step down and the step up
right behind it. -/
inductive Shortens : List String → List String → Prop
  | nothing (front rest : List String) : Shortens (front ++ "" :: rest) (front ++ rest)
  | here (front rest : List String) : Shortens (front ++ "." :: rest) (front ++ rest)
  | back (front rest : List String) {name : String} :
      IsName name → Shortens (front ++ name :: up :: rest) (front ++ rest)

/-- What is left of a path in the end: a number of steps up, and the names down from there. -/
structure ComesTo (path : String) (ups : Nat) (names : List String) : Prop where
  shortened : Relation.ReflTransGen Shortens (Files.pieces path) (List.replicate ups up ++ names)
  areNames : ∀ name ∈ names, IsName name

/-- The components of what is left of a path: there are no steps up from the root. -/
def resolution (absolute : Bool) (ups : Nat) (names : List String) : List String :=
  start absolute ++ ((if absolute then [] else List.replicate ups up) ++ names)

/-- A place in a path for further pieces: behind a slash, or at the start of a relative path. -/
def IsGap (front rest : String) : Prop :=
  front.toList.getLast? = some '/' ∨ front = "" ∧ isAbsolute rest = false

/-! ## The one end -/

/-- One piece more, behind steps up and the names down from there, the last one first. -/
def advance : Nat × List String → String → Nat × List String
  | (ups, down), piece =>
    if piece = "" ∨ piece = "." then (ups, down)
    else if piece = up then
      match down with
      | [] => (ups + 1, [])
      | _ :: above => (ups, above)
    else (ups, piece :: down)

section Ends

variable {ups ups' : Nat} {down names names' : List String} {name path : String}

@[simp]
theorem advance_empty (state : Nat × List String) : advance state "" = state := rfl

@[simp]
theorem advance_here (state : Nat × List String) : advance state "." = state := rfl

@[simp]
theorem advance_up_nil : advance (ups, []) up = (ups + 1, []) := rfl

@[simp]
theorem advance_up_cons : advance (ups, name :: down) up = (ups, down) := rfl

theorem advance_name (isName : IsName name) (state : Nat × List String) :
    advance state name = (state.1, name :: state.2) := by
  have loud : ¬(name = "" ∨ name = ".") := not_or.mpr ⟨isName.nonempty, isName.notHere⟩
  simp only [advance, if_neg loud, if_neg isName.notUp]

theorem foldl_advance_ups (more : Nat) :
    (List.replicate more up).foldl advance (ups, []) = (ups + more, []) := by
  induction more generalizing ups with
  | zero => rfl
  | succ more inductionHypothesis =>
      rw [List.replicate_succ, List.foldl_cons, advance_up_nil, inductionHypothesis, Nat.add_right_comm]
      rfl

theorem foldl_advance_names (areNames : ∀ name ∈ names, IsName name) :
    names.foldl advance (ups, down) = (ups, names.reverse ++ down) := by
  induction names generalizing down with
  | nil => rfl
  | cons name names inductionHypothesis =>
      obtain ⟨isName, more⟩ := List.forall_mem_cons.mp areNames
      simp [advance_name isName, inductionHypothesis more]

/-- What is left out makes no difference to where pieces lead. -/
theorem Shortens.foldl_advance {longer shorter : List String} (shortens : Shortens longer shorter)
    (state : Nat × List String) : longer.foldl advance state = shorter.foldl advance state := by
  cases shortens with
  | nothing front rest => simp
  | here front rest => simp
  | back front rest isName => simp [advance_name isName]

theorem ComesTo.foldl_advance (comes : ComesTo path ups names) :
    (Files.pieces path).foldl advance (0, []) = (ups, names.reverse) := by
  have kept {longer shorter : List String} (shortened : Relation.ReflTransGen Shortens longer shorter) :
      longer.foldl advance (0, []) = shorter.foldl advance (0, []) := by
    induction shortened with
    | refl => rfl
    | tail _ shortens inductionHypothesis => exact inductionHypothesis.trans (shortens.foldl_advance _)
  rw [kept comes.shortened, List.foldl_append, foldl_advance_ups, foldl_advance_names comes.areNames,
    Nat.zero_add, List.append_nil]

/-- However a path is shortened, it comes to the same end. -/
theorem ComesTo.unique (comes : ComesTo path ups names) (comes' : ComesTo path ups' names') :
    ups' = ups ∧ names' = names := by
  have same := comes'.foldl_advance.symm.trans comes.foldl_advance
  rwa [Prod.mk.injEq, List.reverse_inj] at same

end Ends

/-! ## The way of a path -/

/-- What becomes of pieces: what is left of them, and what resolving has on its list, the last component
first. It lists one step up at most. -/
structure Followed (absolute : Bool) (pieces : List String) (ups : Nat) (down : List String) : Prop where
  areNames : ∀ name ∈ down, IsName name
  shortened : Relation.ReflTransGen Shortens pieces (List.replicate ups up ++ down.reverse)
  listed : (pieces.filter fun name => name != "" && name != ".").foldl step (start absolute) =
    down ++ (List.replicate (ups % 2) up ++ start absolute)

theorem Shortens.append {longer shorter : List String} (shortens : Shortens longer shorter)
    (further : List String) : Shortens (longer ++ further) (shorter ++ further) := by
  cases shortens with
  | nothing front rest => simpa using Shortens.nothing front (rest ++ further)
  | here front rest => simpa using Shortens.here front (rest ++ further)
  | back front rest isName => simpa using Shortens.back front (rest ++ further) isName

theorem step_name {above : List String} {name : String} (isName : IsName name) :
    step above name = name :: above := by
  simp [step, isName.notUp]

theorem step_up_of_name {above : List String} {name : String} (isName : IsName name) :
    step (name :: above) up = above := by
  have notRoot : name ≠ rootName := by
    rintro rfl
    exact isName.noSlash (by decide)
  simp [step, notRoot]

/-- A step up with no name to take back takes back the one that was kept, or it is kept itself. -/
theorem step_up_of_ups (absolute : Bool) (ups : Nat) :
    step (List.replicate (ups % 2) up ++ start absolute) up =
      List.replicate ((ups + 1) % 2) up ++ start absolute := by
  rcases Nat.mod_two_eq_zero_or_one ups with even | odd
  · rw [even, show (ups + 1) % 2 = 1 by omega]
    cases absolute <;> decide
  · rw [odd, show (ups + 1) % 2 = 0 by omega]
    cases absolute <;> decide

namespace Followed

variable {absolute : Bool} {pieces down : List String} {ups : Nat} {piece last : String}

theorem nil : Followed absolute [] 0 [] :=
  ⟨fun _ none => absurd none List.not_mem_nil, .refl, rfl⟩

/-- What is left so far stands in front of the next piece. -/
theorem shortened_append (followed : Followed absolute pieces ups down) (piece : String) :
    Relation.ReflTransGen Shortens (pieces ++ [piece])
      (List.replicate ups up ++ down.reverse ++ [piece]) :=
  followed.shortened.lift (· ++ [piece]) fun _ _ shortens => shortens.append [piece]

theorem empty (followed : Followed absolute pieces ups down) :
    Followed absolute (pieces ++ [""]) ups down where
  areNames := followed.areNames
  shortened := (followed.shortened_append "").tail
    (by simpa using Shortens.nothing (List.replicate ups up ++ down.reverse) [])
  listed := by simpa using followed.listed

theorem here (followed : Followed absolute pieces ups down) :
    Followed absolute (pieces ++ ["."]) ups down where
  areNames := followed.areNames
  shortened := (followed.shortened_append ".").tail
    (by simpa using Shortens.here (List.replicate ups up ++ down.reverse) [])
  listed := by simpa using followed.listed

theorem name (followed : Followed absolute pieces ups down) (isName : IsName piece) :
    Followed absolute (pieces ++ [piece]) ups (piece :: down) where
  areNames := List.forall_mem_cons.mpr ⟨isName, followed.areNames⟩
  shortened := by simpa using followed.shortened_append piece
  listed := by
    have kept : [piece].filter (fun name => name != "" && name != ".") = [piece] := by
      simp [isName.nonempty, isName.notHere]
    rw [List.filter_append, kept, List.foldl_append, followed.listed]
    exact step_name isName

theorem back (followed : Followed absolute pieces ups (last :: down)) :
    Followed absolute (pieces ++ [up]) ups down where
  areNames := fun other there => followed.areNames other (List.mem_cons_of_mem _ there)
  shortened := by
    have isName := followed.areNames last List.mem_cons_self
    exact (followed.shortened_append up).tail
      (by simpa using Shortens.back (List.replicate ups up ++ down.reverse) [] isName)
  listed := by
    rw [List.filter_append, List.foldl_append, followed.listed]
    exact step_up_of_name (followed.areNames last List.mem_cons_self)

theorem up (followed : Followed absolute pieces ups []) :
    Followed absolute (pieces ++ [up]) (ups + 1) [] where
  areNames := followed.areNames
  shortened := by simpa [List.replicate_succ'] using followed.shortened_append Path.up
  listed := by
    rw [List.filter_append, List.foldl_append, followed.listed]
    exact step_up_of_ups absolute ups

end Followed

theorem exists_followed (absolute : Bool) {pieces : List String}
    (uncut : ∀ piece ∈ pieces, '/' ∉ piece.toList) : ∃ ups down, Followed absolute pieces ups down := by
  -- resolving goes on at the end of the pieces, so they are taken one more at the end
  induction pieces using List.reverseRecOn with
  | nil => exact ⟨0, [], .nil⟩
  | append_singleton pieces piece inductionHypothesis =>
      obtain ⟨ups, down, followed⟩ := inductionHypothesis fun other there =>
        uncut other (List.mem_append_left _ there)
      by_cases empty : piece = ""
      · exact ⟨ups, down, empty ▸ followed.empty⟩
      by_cases here : piece = "."
      · exact ⟨ups, down, here ▸ followed.here⟩
      by_cases leadsUp : piece = up
      · subst leadsUp
        cases down with
        | nil => exact ⟨ups + 1, [], followed.up⟩
        | cons name down => exact ⟨ups, down, followed.back⟩
      · have isName : IsName piece := ⟨empty, here, leadsUp, uncut piece (by simp)⟩
        exact ⟨ups, piece :: down, followed.name isName⟩

/-- Every path comes to an end, and its way has what is left, with one step up at most. -/
theorem exists_comesTo (path : String) : ∃ ups names, ComesTo path ups names ∧
    way path = start (isAbsolute path) ++ (List.replicate (ups % 2) up ++ names) := by
  have uncut : ∀ piece ∈ Files.pieces path, '/' ∉ piece.toList := by
    intro piece there
    obtain ⟨cs, isPiece, rfl⟩ := List.mem_map.mp there
    rw [String.toList_ofList]
    exact fun slash => absurd (Text.not_of_mem_piece isPiece slash) (by decide)
  obtain ⟨ups, down, followed⟩ := exists_followed (isAbsolute path) uncut
  refine ⟨ups, down.reverse,
    ⟨followed.shortened, fun name there => followed.areNames name (List.mem_reverse.mp there)⟩, ?_⟩
  have begun : (start (isAbsolute path)).foldl step [] = start (isAbsolute path) := by
    cases isAbsolute path <;> decide
  have listed : (names path).foldl step (start (isAbsolute path)) = _ := followed.listed
  rw [way, resolve, components_eq, List.foldl_append, begun, listed]
  simp [start_reverse]

theorem ComesTo.way_eq {path : String} {ups : Nat} {names : List String} (comes : ComesTo path ups names) :
    way path = start (isAbsolute path) ++ (List.replicate (ups % 2) up ++ names) := by
  -- what following the path left of it is the only thing that can be left
  obtain ⟨ups', names', comes', isWay⟩ := exists_comesTo path
  obtain ⟨rfl, rfl⟩ := comes.unique comes'
  exact isWay

/-- Steps up in front of names can be told from them. -/
theorem replicate_up_append_inj {a b : Nat} {names names' : List String}
    (areNames : ∀ name ∈ names, IsName name) (areNames' : ∀ name ∈ names', IsName name) :
    List.replicate a up ++ names = List.replicate b up ++ names' ↔ a = b ∧ names = names' := by
  have counted {n : Nat} {names : List String} (areNames : ∀ name ∈ names, IsName name) :
      (List.replicate n up ++ names).count up = n := by
    have none : names.count up = 0 :=
      List.count_eq_zero.mpr fun there => (areNames up there).notUp rfl
    rw [List.count_append, List.count_replicate_self, none, Nat.add_zero]
  constructor
  · intro same
    have ups := congrArg (List.count up) same
    rw [counted areNames, counted areNames'] at ups
    subst ups
    exact ⟨rfl, List.append_cancel_left same⟩
  · rintro ⟨rfl, rfl⟩
    rfl

theorem ComesTo.resolved_iff {path : String} {ups : Nat} {names : List String}
    (comes : ComesTo path ups names) :
    way path = resolution (isAbsolute path) ups names ↔
      if isAbsolute path then ups % 2 = 0 else ups ≤ 1 := by
  have compared (n : Nat) : List.replicate (ups % 2) up ++ names = List.replicate n up ++ names ↔
      ups % 2 = n := by
    rw [replicate_up_append_inj comes.areNames comes.areNames, and_iff_left rfl]
  rw [comes.way_eq, resolution, List.append_cancel_left_eq]
  cases isAbsolute path with
  | true => exact compared 0
  | false =>
      apply (compared ups).trans
      simp only [Bool.false_eq_true, if_false]
      omega

theorem ComesTo.way_eq_way_iff {path path' : String} {ups ups' : Nat} {names names' : List String}
    (comes : ComesTo path ups names) (comes' : ComesTo path' ups' names') :
    way path' = way path ↔ isAbsolute path' = isAbsolute path ∧ ups' % 2 = ups % 2 ∧ names' = names := by
  have alike (same : way path' = way path) : isAbsolute path' = isAbsolute path := by
    obtain ⟨_, isWay⟩ := isWay_way path
    obtain ⟨_, isWay'⟩ := isWay_way path'
    rw [Bool.eq_iff_iff, ← isWay.startsAtRoot_iff, ← isWay'.startsAtRoot_iff, same]
  constructor
  · intro same
    have absolute := alike same
    rw [comes.way_eq, comes'.way_eq, absolute, List.append_cancel_left_eq] at same
    exact ⟨absolute, (replicate_up_append_inj comes'.areNames comes.areNames).mp same⟩
  · rintro ⟨absolute, parity, rfl⟩
    rw [comes.way_eq, comes'.way_eq, absolute, parity]

/-! ## Detours -/

/-- What can be left out makes no difference to the way. -/
theorem way_eq_of_shortens {path path' : String} (absolute : isAbsolute path' = isAbsolute path)
    (shortens : Shortens (Files.pieces path') (Files.pieces path)) : way path' = way path := by
  obtain ⟨ups, names, comes, -⟩ := exists_comesTo path
  have comes' : ComesTo path' ups names := ⟨.head shortens comes.shortened, comes.areNames⟩
  exact (comes.way_eq_way_iff comes').mpr ⟨absolute, rfl, rfl⟩

theorem isAbsolute_append {front : String} (nonempty : front ≠ "") (rest : String) :
    isAbsolute (front ++ rest) = isAbsolute front := by
  rw [isAbsolute, isAbsolute, String.toList_append]
  cases cs : front.toList with
  | nil => exact absurd (String.toList_eq_nil_iff.mp cs) nonempty
  | cons c cs => rfl

/-- Whatever stands in a gap, the pieces in front of it are the same. -/
theorem IsGap.exists_before {front rest : String} (gap : IsGap front rest) :
    ∃ before, ∀ text, Files.pieces (front ++ text) = before ++ Files.pieces text := by
  rcases gap with slash | ⟨rfl, -⟩
  · obtain ⟨cs, ends⟩ := List.getLast?_eq_some_iff.mp slash
    have cut : front = String.ofList cs ++ "/" := by
      rw [← String.toList_inj, ends]
      simp
    exact ⟨Files.pieces (String.ofList cs), fun text => by rw [cut, Files.pieces_append_slash]⟩
  · exact ⟨[], fun text => by rw [String.empty_append, List.nil_append]⟩

theorem IsGap.isAbsolute_eq {front rest : String} (gap : IsGap front rest) {text : String}
    (relative : isAbsolute text = false) : isAbsolute (front ++ text) = isAbsolute (front ++ rest) := by
  by_cases empty : front = ""
  · subst empty
    rcases gap with slash | ⟨-, relative'⟩
    · cases slash
    · rw [String.empty_append, String.empty_append, relative, relative']
  · rw [isAbsolute_append empty, isAbsolute_append empty]

/-- The current directory can be named in any gap. -/
theorem IsGap.way_here {front rest : String} (gap : IsGap front rest) :
    way (front ++ "./" ++ rest) = way (front ++ rest) := by
  obtain ⟨before, behind⟩ := gap.exists_before
  have pieces : Files.pieces ("./" ++ rest) = "." :: Files.pieces rest :=
    Files.pieces_append_slash "." rest
  rw [String.append_assoc]
  apply way_eq_of_shortens (gap.isAbsolute_eq (isAbsolute_append (by decide) rest))
  rw [behind, behind, pieces]
  exact .here before _

/-- A step down can be made and taken back in any gap. -/
theorem IsGap.way_detour {front rest : String} (gap : IsGap front rest) {name : String}
    (isName : IsName name) : way (front ++ (name ++ "/../") ++ rest) = way (front ++ rest) := by
  obtain ⟨before, behind⟩ := gap.exists_before
  have text : name ++ "/../" ++ rest = name ++ "/" ++ (".." ++ "/" ++ rest) := by
    rw [← String.toList_inj]
    simp
  have pieces : Files.pieces (name ++ "/../" ++ rest) = name :: up :: Files.pieces rest := by
    rw [text, Files.pieces_append_slash, Files.pieces_append_slash, Files.pieces_of_isName isName]
    rfl
  have relative : isAbsolute (name ++ "/../" ++ rest) = false := by
    rw [String.append_assoc, isAbsolute_append isName.nonempty, Files.isAbsolute_of_isName isName]
  rw [String.append_assoc]
  apply way_eq_of_shortens (gap.isAbsolute_eq relative)
  rw [behind, behind, pieces]
  exact .back before _ isName

/-- What is left of a path is certain, and its way is what is left with at most one step up, which is the
resolution just if there are not more than one, or an even number at the root. So two ways differ only if
they start differently, lead to different names, or one has an odd number of steps up and the other one has not;
pieces that say nothing and steps down that are taken back at once make no difference. -/
theorem way_eq_resolution_iff (path : String) :
    ∃ ups names, (∀ ups' names', ComesTo path ups' names' ↔ ups' = ups ∧ names' = names) ∧
      way path = start (isAbsolute path) ++ (List.replicate (ups % 2) up ++ names) ∧
      (way path = resolution (isAbsolute path) ups names ↔
        if isAbsolute path then ups % 2 = 0 else ups ≤ 1) ∧
      (∀ path' ups' names', ComesTo path' ups' names' →
        (way path' = way path ↔
          isAbsolute path' = isAbsolute path ∧ ups' % 2 = ups % 2 ∧ names' = names)) ∧
      ∀ front rest, path = front ++ rest → IsGap front rest →
        way (front ++ "./" ++ rest) = way path ∧
        ∀ name, IsName name → way (front ++ (name ++ "/../") ++ rest) = way path := by
  obtain ⟨ups, names, comes, isWay⟩ := exists_comesTo path
  refine ⟨ups, names, fun ups' names' => ⟨comes.unique, ?_⟩, isWay, comes.resolved_iff,
    fun _ _ _ => comes.way_eq_way_iff, ?_⟩
  · rintro ⟨rfl, rfl⟩
    exact comes
  · rintro front rest rfl gap
    exact ⟨gap.way_here, fun name => gap.way_detour⟩

theorem drums_left_for_loops :
    ComesTo "drums/.//../../loops" 1 ["loops"] ∧ IsGap "drums/" ".//../../loops" ∧ IsName "808" ∧
    way "drums/.//../../loops" = ["..", "loops"] ∧
    way "drums/.//../../loops" = resolution false 1 ["loops"] ∧
    way "drums/808/.././/../../loops" = way "drums/.//../../loops" := by
  have pieces : Files.pieces "drums/.//../../loops" = ["drums", ".", "", "..", "..", "loops"] := by
    decide +kernel
  have comes : ComesTo "drums/.//../../loops" 1 ["loops"] := by
    refine ⟨?_, by decide⟩
    rw [pieces]
    exact .head (.here ["drums"] _) (.head (.nothing ["drums"] _) (.head (.back [] _ (by decide)) .refl))
  have gap : IsGap "drums/" ".//../../loops" := .inl (by decide)
  obtain ⟨ups, names, ends, isWay, resolved, -, detour⟩ := way_eq_resolution_iff "drums/.//../../loops"
  obtain ⟨rfl, rfl⟩ := (ends 1 ["loops"]).mp comes
  exact ⟨comes, gap, by decide, isWay, resolved.mpr (by decide), (detour _ _ rfl gap).2 "808" (by decide)⟩

/-- Two steps up at the start are lost, so that folders which do not lie below a root are found there; and a
step up from the root is kept, so that others are not. -/
theorem climbs_lost :
    (ComesTo "../../music/loops" 2 ["music", "loops"] ∧
      way "../../music/loops" ≠ resolution false 2 ["music", "loops"]) ∧
    (ComesTo "music/loops" 0 ["music", "loops"] ∧ way "../../music/loops" = way "music/loops") ∧
    (ComesTo "/../music/loops" 1 ["music", "loops"] ∧
      way "/../music/loops" ≠ resolution true 1 ["music", "loops"]) ∧
    category? "../../music/loops/kick.wav" "music" = some "/loops" ∧
    category? "/../music/loops/kick.wav" "/music" = none := by
  have areNames : ∀ name ∈ ["music", "loops"], IsName name := by decide
  have twice : Files.pieces "../../music/loops" = List.replicate 2 up ++ ["music", "loops"] := by
    decide +kernel
  have never : Files.pieces "music/loops" = ["music", "loops"] := by decide +kernel
  have atRoot : Files.pieces "/../music/loops" = "" :: (List.replicate 1 up ++ ["music", "loops"]) := by
    decide +kernel
  refine ⟨⟨⟨twice ▸ .refl, areNames⟩, by decide +kernel⟩, ⟨⟨never ▸ .refl, areNames⟩, by decide +kernel⟩,
    ⟨⟨atRoot ▸ .single (.nothing [] _), areNames⟩, by decide +kernel⟩, by decide +kernel, by decide +kernel⟩

end Path

end SampleLibrary
