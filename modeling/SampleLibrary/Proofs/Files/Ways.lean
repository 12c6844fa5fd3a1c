import SampleLibrary.Files.Path
import SampleLibrary.Proofs.Splitting

/-!
# Ways

The way of a path is what is left of its components when steps up take back steps down. Resolving leaves
the root, if the path is absolute, and names, of which only the first can lead up (`Path.IsWay`). So where
one way goes on from another one, the rest are names again, unless the shorter way is empty
(`Path.IsWay.goes_on`).
-/

namespace SampleLibrary

namespace Path

/-- A name that can stand between slashes. -/
structure IsPart (name : String) : Prop where
  nonempty : name ≠ ""
  noSlash : '/' ∉ name.toList

theorem IsPart.ne_rootName {name : String} (part : IsPart name) : name ≠ rootName := by
  rintro rfl
  exact part.noSlash (by decide)

/-- Where a path starts: at the root, or at the directory that it is relative to. -/
def start (absolute : Bool) : List String := if absolute then [rootName] else []

theorem start_reverse (absolute : Bool) : (start absolute).reverse = start absolute := by
  cases absolute <;> rfl

theorem eq_rootName_of_mem_start {absolute : Bool} {step : String} (there : step ∈ start absolute) :
    step = rootName := by
  cases absolute with
  | false => exact absurd there List.not_mem_nil
  | true => exact List.mem_singleton.mp there

theorem isPart_of_mem_names {path name : String} (there : name ∈ names path) : IsPart name := by
  rw [names, List.mem_filter, List.mem_map] at there
  rcases there with ⟨⟨piece, isPiece, rfl⟩, named⟩
  refine ⟨fun empty => by simp [empty] at named, fun slash => ?_⟩
  rw [String.toList_ofList] at slash
  exact absurd (Text.not_of_mem_piece isPiece slash) (by decide)

theorem components_eq (path : String) : components path = start (isAbsolute path) ++ names path := by
  unfold components start
  split <;> rfl

/-- A path lies in a directory if it has names, and the directory has all but the last. -/
theorem parent?_eq_some {path : String} {folder : List String} (found : parent? path = some folder) :
    folder = start (isAbsolute path) ++ (names path).dropLast := by
  rw [parent?, components_eq, List.reverse_append, start_reverse] at found
  rcases List.eq_nil_or_concat (names path) with none | ⟨front, last, some⟩
  · rw [none] at found
    cases absolute : isAbsolute path <;> simp [absolute, start] at found
  · have there : last ∈ names path := by simp [some]
    have part : IsPart last := isPart_of_mem_names there
    rw [some, List.concat_eq_append, List.reverse_append] at found
    simp only [List.reverse_cons, List.reverse_nil, List.nil_append, List.cons_append, beq_iff_eq,
      part.ne_rootName, if_false, Option.some.injEq] at found
    rw [← found, some, List.concat_eq_append, List.dropLast_concat, List.reverse_append, start_reverse,
      List.reverse_reverse]

/-- A way that is resolved: the start and then names, of which only the first may lead up. -/
structure IsWay (absolute : Bool) (way names : List String) : Prop where
  whole : way = start absolute ++ names
  parts : ∀ name ∈ names, IsPart name
  climbsFirst : up ∉ names.tail

/-- One component more leaves a way resolved. -/
theorem IsWay.step {absolute : Bool} {above names : List String} {name : String}
    (way : IsWay absolute above.reverse names) (part : IsPart name) :
    ∃ names', IsWay absolute (Path.step above name).reverse names' := by
  have whole : above = names.reverse ++ start absolute := by
    rw [← List.reverse_reverse above, way.whole, List.reverse_append, start_reverse]
  by_cases leadsUp : name = up
  · subst leadsUp
    rcases List.eq_nil_or_concat names with rfl | ⟨front, last, rfl⟩
    · -- there is no step to take back
      have climbs : (Path.step above up).reverse = start absolute ++ [up] := by
        rw [whole]
        cases absolute <;> decide
      exact ⟨[up], climbs, fun other only => List.mem_singleton.mp only ▸ part, List.not_mem_nil⟩
    · rw [List.concat_eq_append] at whole way
      have lastPart : IsPart last := way.parts last (by simp)
      have back : (Path.step above up).reverse = start absolute ++ front := by
        rw [whole]
        simp [Path.step, lastPart.ne_rootName, start_reverse]
      refine ⟨front, back, fun other there => way.parts other (List.mem_append_left _ there), ?_⟩
      intro later
      cases front with
      | nil => exact List.not_mem_nil later
      | cons first front => exact way.climbsFirst (List.mem_append_left _ later)
  · have further : (Path.step above name).reverse = start absolute ++ (names ++ [name]) := by
      simp [Path.step, leadsUp, way.whole]
    refine ⟨names ++ [name], further, fun other there => ?_, ?_⟩
    · rcases List.mem_append.mp there with old | new
      · exact way.parts other old
      · exact List.mem_singleton.mp new ▸ part
    · cases names with
      | nil => exact List.not_mem_nil
      | cons first names =>
          intro later
          rcases List.mem_append.mp later with old | new
          · exact way.climbsFirst old
          · exact leadsUp (List.mem_singleton.mp new).symm

/-- Resolving keeps where a path starts. -/
theorem isWay_resolve (absolute : Bool) {names : List String} (parts : ∀ name ∈ names, IsPart name) :
    ∃ names', IsWay absolute (resolve (start absolute ++ names)) names' := by
  suffices general : ∀ above names', IsWay absolute above.reverse names' →
      ∃ names'', IsWay absolute (names.foldl Path.step above).reverse names'' by
    have begun : (start absolute).foldl Path.step [] = start absolute := by
      cases absolute <;> decide
    rw [resolve, List.foldl_append, begun]
    refine general _ [] ⟨?_, fun name none => absurd none List.not_mem_nil, List.not_mem_nil⟩
    rw [start_reverse, List.append_nil]
  induction names with
  | nil => exact fun above names' way => ⟨names', way⟩
  | cons name names inductionHypothesis =>
      intro above names' way
      rcases way.step (parts name List.mem_cons_self) with ⟨next, way'⟩
      exact inductionHypothesis (fun other there => parts other (List.mem_cons_of_mem _ there)) _ next way'

/-- The way to a directory. -/
def way (path : String) : List String := resolve (components path)

/-- The way to the directory in which a path lies. -/
def folderWay? (path : String) : Option (List String) := (parent? path).map resolve

theorem isWay_way (path : String) : ∃ names, IsWay (isAbsolute path) (way path) names := by
  rw [way, components_eq]
  exact isWay_resolve _ fun name => isPart_of_mem_names

theorem isWay_folderWay? {path : String} {folder : List String} (lies : folderWay? path = some folder) :
    ∃ names, IsWay (isAbsolute path) folder names := by
  rcases Option.map_eq_some_iff.mp lies with ⟨above, found, rfl⟩
  rw [parent?_eq_some found]
  exact isWay_resolve _ fun name there => isPart_of_mem_names (List.dropLast_subset _ there)

/-- The way of an absolute path. -/
def StartsAtRoot (way : List String) : Prop := way.head? = some rootName

theorem IsWay.startsAtRoot_iff {absolute : Bool} {way names : List String}
    (isWay : IsWay absolute way names) : StartsAtRoot way ↔ absolute = true := by
  rw [StartsAtRoot, isWay.whole]
  cases absolute with
  | true => simp [start]
  | false =>
      cases names with
      | nil => simp [start]
      | cons name names => simpa [start] using (isWay.parts name List.mem_cons_self).ne_rootName

/-- Only the first name leads up. -/
theorem IsWay.head?_of_climbs {absolute : Bool} {way names : List String}
    (isWay : IsWay absolute way names) (leadsUp : up ∈ names) : names.head? = some up := by
  cases names with
  | nil => exact absurd leadsUp List.not_mem_nil
  | cons name names =>
      rcases List.mem_cons.mp leadsUp with rfl | later
      · rfl
      · exact absurd later isWay.climbsFirst

/-- Where one way goes on from another one, both start alike, or the shorter one is empty and the longer
one starts at the root. -/
theorem IsWay.goes_on {absolute absolute' : Bool} {way way' names names' rest : List String}
    (isWay : IsWay absolute way names) (isWay' : IsWay absolute' way' names')
    (goesOn : way = way' ++ rest) :
    absolute = absolute' ∧ names = names' ++ rest ∨
      absolute = true ∧ way' = [] ∧ rest = rootName :: names := by
  rw [isWay.whole, isWay'.whole] at goesOn
  cases absolute with
  | false =>
      cases absolute' with
      | false => exact .inl ⟨rfl, goesOn⟩
      | true =>
          have first : names = rootName :: (names' ++ rest) := by simpa [start] using goesOn
          exact absurd rfl (isWay.parts rootName (first ▸ List.mem_cons_self)).ne_rootName
  | true =>
      cases absolute' with
      | true => exact .inl ⟨rfl, by simpa [start] using goesOn⟩
      | false =>
          cases names' with
          | nil => exact .inr ⟨rfl, isWay'.whole, by simpa [start] using goesOn.symm⟩
          | cons name names' =>
              have same : rootName = name := by simpa [start] using congrArg List.head? goesOn
              exact absurd same.symm (isWay'.parts name List.mem_cons_self).ne_rootName

end Path

end SampleLibrary
