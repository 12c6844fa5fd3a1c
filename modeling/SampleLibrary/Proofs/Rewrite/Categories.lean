import SampleLibrary.Proofs.Files.Ways
import SampleLibrary.Rewrite.Category

/-!
# Which categories are tags

The category of a sample is made of the names that the way to its folder has behind the way to the root.
It is a valid tag, with one exception: the way of a relative root can be empty, and then the way of any
absolute path goes on from it and brings its root along (`category_usable_iff`).
-/

namespace SampleLibrary

namespace Tag

/-- The character that stands for `c` in a tag path. -/
theorem isTagChar_or_slash (c : Char) :
    ((if isTagChar c || c == '/' then c else '_') == '/') = (c == '/') := by
  by_cases slash : c = '/'
  · simp [slash]
  · by_cases tagChar : isTagChar c = true
    · simp [tagChar]
    · simp [slash, tagChar]

/-- Names that are joined become a valid tag. -/
theorem isValid_joined {names : List String} (nonempty : names ≠ [])
    (parts : ∀ name ∈ names, Path.IsPart name) :
    isValid ("/" ++ sanitize (Text.join "/" names)) = true := by
  have characters : ("/" ++ sanitize (Text.join "/" names)).toList =
      '/' :: (Text.join "/" names).toList.map fun c => if isTagChar c || c == '/' then c else '_' := by
    simp [sanitize]
  simp only [isValid, characters]
  rw [Text.splitAtAll_map isTagChar_or_slash,
    Text.splitAtAll_join nonempty fun name there => (parts name there).noSlash, List.all_eq_true]
  intro piece isPiece
  rw [List.map_map, List.mem_map] at isPiece
  rcases isPiece with ⟨name, there, rfl⟩
  have part := parts name there
  rw [isSegment, Bool.and_eq_true, List.all_eq_true]
  refine ⟨by simpa using part.nonempty, fun c membership => ?_⟩
  rcases List.mem_map.mp membership with ⟨d, inName, rfl⟩
  have noSlash : d ≠ '/' := by
    rintro rfl
    exact part.noSlash inName
  by_cases tagChar : isTagChar d = true
  · simp [tagChar]
  · have underscore : isTagChar '_' = true := by decide
    simp [tagChar, noSlash, underscore]

/-- With the root among the names, there are two slashes in a row. -/
theorem not_isValid_joined_root (names : List String) :
    isValid ("/" ++ sanitize (Text.join "/" (Path.rootName :: names))) = false := by
  have characters : ∃ rest, ("/" ++ sanitize (Text.join "/" (Path.rootName :: names))).toList =
      '/' :: '/' :: rest := by
    cases names with
    | nil => exact ⟨[], by decide⟩
    | cons name names =>
        rw [Text.join, String.intercalate_cons_cons, String.toList_append, sanitize, String.toList_ofList]
        simp [Path.rootName]
  rcases characters with ⟨rest, characters⟩
  rw [isValid, characters]
  simp [Text.splitAtAll, isSegment]

end Tag

variable {path root category : String}

/-- The root does not say where an absolute path lies: its way is empty. -/
def Detached (path root : String) : Prop := Path.isAbsolute path = true ∧ Path.way root = []

/-- A sample has a category if the way to its folder goes on from the way to the root. -/
theorem category?_eq_some_iff :
    category? path root = some category ↔ ∃ folder names, Path.folderWay? path = some folder ∧
      folder = Path.way root ++ names ∧ names ≠ [] ∧
      category = "/" ++ Tag.sanitize (Text.join "/" names) := by
  rw [Path.folderWay?]
  constructor
  · intro found
    rcases Option.bind_eq_some_iff.mp found with ⟨folder, lies, made⟩
    dsimp only at made
    split at made
    · rename_i goesOn
      rw [Bool.and_eq_true, List.isPrefixOf_iff_prefix] at goesOn
      rcases goesOn with ⟨⟨names, whole⟩, further⟩
      rw [← whole, List.drop_left] at made further
      refine ⟨Path.resolve folder, names, by rw [lies, Option.map_some], whole.symm, ?_, ?_⟩
      · simpa using further
      · exact (Option.some.inj made).symm
    · cases made
  · rintro ⟨_, names, lies, goesOn, further, rfl⟩
    rcases Option.map_eq_some_iff.mp lies with ⟨folder, found, rfl⟩
    refine Option.bind_eq_some_iff.mpr ⟨folder, found, ?_⟩
    dsimp only
    rw [goesOn, Path.way, List.drop_left, if_pos]
    simp [further]

/-- A category is a valid tag exactly if the way to the folder starts like the way to the root, which it
does unless the root says nothing about an absolute path. The names that are left are then names indeed,
and none of them leads up, unless the folder climbs at once from where the root stands. -/
theorem category_usable_iff (found : category? path root = some category) :
    ∃ folder names, Path.folderWay? path = some folder ∧ folder = Path.way root ++ names ∧ names ≠ [] ∧
      category = "/" ++ Tag.sanitize (Text.join "/" names) ∧
      (Tag.isValid category = true ↔ ¬Detached path root) ∧
      ((Path.StartsAtRoot folder ↔ Path.StartsAtRoot (Path.way root)) ↔ ¬Detached path root) ∧
      (¬Detached path root → (∀ name ∈ names, Path.IsPart name) ∧
        (Path.up ∈ names → names.head? = some Path.up ∧ ∀ step ∈ Path.way root, step = Path.rootName)) := by
  rcases category?_eq_some_iff.mp found with ⟨folder, names, lies, goesOn, further, shape⟩
  rcases Path.isWay_folderWay? lies with ⟨folderNames, isWay⟩
  rcases Path.isWay_way root with ⟨rootNames, isWay'⟩
  refine ⟨folder, names, lies, goesOn, further, shape, ?_⟩
  rw [isWay.startsAtRoot_iff, isWay'.startsAtRoot_iff, shape]
  rcases isWay.goes_on isWay' goesOn with ⟨alike, rfl⟩ | ⟨absolute, nowhere, rfl⟩
  · have attached : ¬Detached path root := by
      rintro ⟨absolute, nowhere⟩
      have started := isWay'.startsAtRoot_iff.mpr (alike ▸ absolute)
      rw [nowhere] at started
      cases started
    have parts : ∀ name ∈ names, Path.IsPart name := fun name there =>
      isWay.parts name (List.mem_append_right _ there)
    have climbs : Path.up ∈ names →
        names.head? = some Path.up ∧ ∀ step ∈ Path.way root, step = Path.rootName := by
      intro leadsUp
      cases rootNames with
      | cons first rootNames => exact absurd (List.mem_append_right _ leadsUp) isWay.climbsFirst
      | nil =>
          rw [isWay'.whole, List.append_nil]
          refine ⟨isWay.head?_of_climbs leadsUp, fun step there => ?_⟩
          exact Path.eq_rootName_of_mem_start there
    refine ⟨?_, ?_, fun _ => ⟨parts, climbs⟩⟩
    · exact iff_of_true (Tag.isValid_joined further parts) attached
    · exact iff_of_true (by rw [alike]) attached
  · have detached : Detached path root := ⟨absolute, nowhere⟩
    have relative : ¬Path.isAbsolute root = true := by
      intro absolute'
      have started := isWay'.startsAtRoot_iff.mpr absolute'
      rw [nowhere] at started
      cases started
    refine ⟨?_, ?_, fun attached => absurd detached attached⟩
    · exact iff_of_false (by simp [Tag.not_isValid_joined_root]) (not_not_intro detached)
    · exact iff_of_false (fun same => relative (same.mp absolute)) (not_not_intro detached)

theorem loops_usable :
    category? "/music/../music/808 kit/v.2/kick.wav" "/music/." = some "/808_kit/v_2" ∧
    ¬Detached "/music/../music/808 kit/v.2/kick.wav" "/music/." ∧
    Tag.isValid "/808_kit/v_2" = true ∧
    ∃ folder names, Path.folderWay? "/music/../music/808 kit/v.2/kick.wav" = some folder ∧
      folder = Path.way "/music/." ++ names ∧ names ≠ [] ∧
      "/808_kit/v_2" = "/" ++ Tag.sanitize (Text.join "/" names) ∧
      (Path.StartsAtRoot folder ↔ Path.StartsAtRoot (Path.way "/music/.")) := by
  have found : category? "/music/../music/808 kit/v.2/kick.wav" "/music/." = some "/808_kit/v_2" := by
    decide +kernel
  have attached : ¬Detached "/music/../music/808 kit/v.2/kick.wav" "/music/." := by
    rintro ⟨-, nowhere⟩
    revert nowhere
    decide +kernel
  rcases category_usable_iff found with ⟨folder, names, lies, goesOn, further, shape, valid, alike, -⟩
  exact ⟨found, attached, valid.mpr attached, folder, names, lies, goesOn, further, shape,
    alike.mpr attached⟩

/-- A relative root whose way is empty takes absolute paths in, and makes no tag of them. -/
theorem absolute_below_nothing :
    category? "/music/loops/kick.wav" "" = some "///music/loops" ∧
    ¬Tag.isValid "///music/loops" = true ∧
    Path.folderWay? "/music/loops/kick.wav" = some ["/", "music", "loops"] ∧ Path.way "" = [] ∧
    ¬(Path.StartsAtRoot ["/", "music", "loops"] ↔ Path.StartsAtRoot []) := by
  refine ⟨by decide +kernel, by decide +kernel, by decide +kernel, by decide +kernel, ?_⟩
  simp [Path.StartsAtRoot, Path.rootName]

end SampleLibrary
