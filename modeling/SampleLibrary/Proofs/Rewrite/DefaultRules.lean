import SampleLibrary.Proofs.Pattern.Runs
import SampleLibrary.Proofs.Rewrite.Confinement

/-!
# What the default rules do

The default rules name a sample after its file, without the folder and the last ending, and they tag it with
the way from the root to its folder (`Metadata.rewrite_defaults`). The name comes out of a match in which
the folder is as long as it can be and the stem as short, so that the last slash and the last point decide
(`Rule.nameRule_matches`).
-/

namespace SampleLibrary

/-! ## Before and behind the last character of a kind -/

namespace Text

/-- The text behind the last character of a kind; all of it if there is none. -/
def afterLast (c : Char) (cs : List Char) : List Char := (cs.reverse.takeWhile (· != c)).reverse

/-- The text before the last character of a kind; all of it if there is none. -/
def beforeLast (c : Char) (cs : List Char) : List Char :=
  if c ∈ cs then (cs.reverse.dropWhile (· != c)).tail.reverse else cs

variable {c : Char} {cs front rest : List Char}

theorem exists_last (there : c ∈ cs) : ∃ front rest, cs = front ++ c :: rest ∧ c ∉ rest := by
  rcases List.eq_append_cons_of_mem (List.mem_reverse.mpr there) with ⟨rest, front, reversed, absent⟩
  refine ⟨front.reverse, rest.reverse, ?_, by simpa using absent⟩
  rw [← List.reverse_reverse cs, reversed]
  simp

theorem bne_of_mem_reverse (absent : c ∉ rest) : ∀ d ∈ rest.reverse, (d != c) = true := by
  intro d membership
  rw [bne_iff_ne]
  rintro rfl
  exact absent (List.mem_reverse.mp membership)

theorem afterLast_append (absent : c ∉ rest) : afterLast c (front ++ c :: rest) = rest := by
  rw [afterLast, List.reverse_append, List.reverse_cons, List.append_assoc,
    List.takeWhile_append_of_pos (bne_of_mem_reverse absent)]
  simp

theorem afterLast_of_not_mem (absent : c ∉ cs) : afterLast c cs = cs := by
  rw [afterLast, List.takeWhile_eq_self_iff.mpr (bne_of_mem_reverse absent), List.reverse_reverse]

theorem beforeLast_append (absent : c ∉ rest) : beforeLast c (front ++ c :: rest) = front := by
  rw [beforeLast, if_pos (by simp), List.reverse_append, List.reverse_cons, List.append_assoc,
    List.dropWhile_append_of_pos (bne_of_mem_reverse absent)]
  simp

end Text

/-! ## The name of a file -/

namespace Rule

open Pattern

/-- The name of the file at a path, without its last ending. -/
def title (path : String) : String :=
  String.ofList (Text.beforeLast '.' (Text.afterLast '/' path.toList))

example : title "/music/v.2/kick.one.wav" = "kick.one" := by decide

example : title "/music/.hidden" = "" := by decide

/-- Any character on a line. -/
def onLine : CharSet := { items := [⟨[('\n', '\n')], true⟩] }

def noSlash : CharSet := { items := [⟨[('/', '/')], false⟩], negated := true }

def noSlashNoPoint : CharSet :=
  { items := [⟨[('/', '/')], false⟩, ⟨[('.', '.')], false⟩], negated := true }

def folderPart : Pattern.Node :=
  .loop 0 (some 1) true (.group 1 none (.seq (.loop 0 none true (.char onLine)) (.char (.single '/'))))

def stemPart : Pattern.Node := .group 2 none (.loop 0 none false (.char noSlash))

def endingPart : Pattern.Node :=
  .loop 0 (some 1) true
    (.group 3 none (.seq (.char (.single '.')) (.loop 0 none true (.char noSlashNoPoint))))

def nameRule : Rule where
  field := Field.path.key
  pattern :=
    ⟨"^(.*/)?([^/]*?)(\\.[^/.]*)?$",
      .seq (.look .start) (.seq folderPart (.seq stemPart (.seq endingPart (.look .stop))))⟩
  substitutions := [(Field.name.key, "\x7b2\x7d")]

def categoryRule : Rule where
  field := categoryKey
  pattern :=
    ⟨"^/.*$", .seq (.look .start)
      (.seq (.char (.single '/')) (.seq (.loop 0 none true (.char onLine)) (.look .stop)))⟩
  substitutions := [(tagsKey, "\x7b_tags\x7d \x7b0\x7d")]

/-- The default rules as they are read. -/
theorem defaults_eq : defaults = [nameRule, categoryRule] := by decide +kernel

theorem has_onLine (c : Char) : onLine.has c = (c != '\n') := by
  simp [CharSet.has, onLine, CharItem.has_one, bne]

theorem onLine_of_not_mem {cs : List Char} (oneLine : '\n' ∉ cs) : ∀ c ∈ cs, onLine.has c = true := by
  intro c membership
  rw [has_onLine, bne_iff_ne]
  rintro rfl
  exact oneLine membership

theorem has_noSlash (c : Char) : noSlash.has c = (c != '/') := by
  simp [CharSet.has, noSlash, CharItem.has_one, bne]

theorem has_noSlashNoPoint (c : Char) : noSlashNoPoint.has c = (c != '/' && c != '.') := by
  simp [CharSet.has, noSlashNoPoint, CharItem.has_one, bne]

/-! ## The match of a path -/

section Matching

variable {stem tail : List Char}

/-- The end of the name, in whose place a match can end: nothing, or a point and no further one. -/
def IsEnding (stem tail : List Char) : Prop :=
  tail = [] ∧ '.' ∉ stem ∨ ∃ rest, tail = '.' :: rest ∧ '.' ∉ rest

theorem exists_ending (name : List Char) :
    ∃ stem tail, Text.beforeLast '.' name = stem ∧ name = stem ++ tail ∧ IsEnding stem tail := by
  by_cases there : '.' ∈ name
  · rcases Text.exists_last there with ⟨front, rest, rfl, absent⟩
    exact ⟨front, '.' :: rest, Text.beforeLast_append absent, rfl, .inr ⟨rest, rfl, absent⟩⟩
  · exact ⟨name, [], if_neg there, by simp, .inl ⟨rfl, there⟩⟩

/-- What comes after the stem is matched if it is an ending. -/
theorem head?_ending (before : List Char) (g : Groups) (noSlash : '/' ∉ tail)
    (ending : IsEnding stem tail) :
    ∃ groups, ((Node.seq endingPart (.look .stop)).outcomes ⟨before, tail⟩ g).head? =
        some (⟨tail.reverse ++ before, []⟩, groups) ∧
      groups.lookup 2 = g.lookup 2 := by
  rcases ending with ⟨rfl, -⟩ | ⟨rest, rfl, noPoint⟩
  · refine ⟨g, ?_, rfl⟩
    rw [Node.head?_seq]
    exact findSome?_of_head? (a := (⟨before, []⟩, g)) rfl rfl
  · have plain : ∀ c ∈ rest, noSlashNoPoint.has c = true := by
      intro c membership
      rw [has_noSlashNoPoint, Bool.and_eq_true, bne_iff_ne, bne_iff_ne]
      constructor
      · rintro rfl
        exact noSlash (List.mem_cons_of_mem _ membership)
      · rintro rfl
        exact noPoint membership
    refine ⟨(3, before.length, (rest.reverse ++ '.' :: before).length) :: g, ?_, by simp [List.lookup_cons]⟩
    have inner : ((Node.seq (.char (.single '.')) (.loop 0 none true (.char noSlashNoPoint))).outcomes
        ⟨before, '.' :: rest⟩ g).head? = some (⟨rest.reverse ++ '.' :: before, []⟩, g) := by
      rw [Node.head?_seq, Node.outcomes_char_cons, CharSet.has_single, if_pos (by rfl),
        List.findSome?_singleton, Node.outcomes_loop_char, Node.head?_stops_true plain]
    rw [Node.head?_seq]
    apply findSome?_of_head? (a := (⟨rest.reverse ++ '.' :: before, []⟩, _))
    · rw [endingPart, Node.head?_optional, List.head?_append, Node.outcomes, List.head?_map, inner]
      rfl
    · simp [Node.outcomes, Look.holds, Place.index]

/-- As long as the stem goes on, there is no match. -/
theorem head?_ending_of_longer (before : List Char) (g : Groups) {c : Char}
    (ending : IsEnding (c :: stem) tail) :
    ((Node.seq endingPart (.look .stop)).outcomes ⟨before, c :: (stem ++ tail)⟩ g).head? = none := by
  rw [Node.head?_seq, List.findSome?_eq_none_iff]
  intro w way
  suffices unfinished : w.1.after ≠ [] by
    simp [Node.outcomes, Look.holds, unfinished]
  intro atEnd
  rcases Node.mem_optional way with inner | rfl
  · rw [Node.outcomes] at inner
    rcases List.mem_map.mp inner with ⟨v, inside, rfl⟩
    rw [Node.outcomes] at inside
    rcases List.mem_flatMap.mp (mem_of_mem_firstWays inside) with ⟨u, first, later⟩
    rw [Node.outcomes_char_cons, CharSet.has_single] at first
    split at first
    · rename_i isPoint
      obtain rfl : c = '.' := beq_iff_eq.mp isPoint
      obtain rfl := List.mem_singleton.mp first
      dsimp only at later
      rw [Node.outcomes_loop_char] at later
      have further : '.' ∈ stem ++ tail := by
        rcases ending with ⟨-, noPoint⟩ | ⟨rest, rfl, -⟩
        · exact absurd List.mem_cons_self noPoint
        · simp
      have fits := Node.fits_of_mem_stops later atEnd '.' further
      rw [has_noSlashNoPoint] at fits
      cases fits
    · cases first
  · cases atEnd

/-- The stem is as short as it can be: it ends where the ending begins. -/
theorem findSome?_stem (before : List Char) (g : Groups) (start : Nat) (inName : '/' ∉ stem ++ tail)
    (ending : IsEnding stem tail) :
    ∃ stop groups,
      ((Node.stops false noSlash g before (stem ++ tail)).findSome? fun w =>
        ((Node.seq endingPart (.look .stop)).outcomes w.1 ((2, start, w.1.index) :: w.2)).head?) =
          some (stop, groups) ∧
      groups.lookup 2 = some (start, before.length + stem.length) := by
  induction stem generalizing before with
  | nil =>
      rcases head?_ending before ((2, start, before.length) :: g) inName ending with
        ⟨groups, matched, found⟩
      refine ⟨_, groups, findSome?_of_head? Node.head?_stops_false matched, ?_⟩
      simpa [List.lookup_cons] using found
  | cons c stem inductionHypothesis =>
      rw [List.cons_append, List.mem_cons, not_or] at inName
      have shorter : IsEnding stem tail := by
        rcases ending with ⟨empty, noPoint⟩ | point
        · exact .inl ⟨empty, fun later => noPoint (List.mem_cons_of_mem _ later)⟩
        · exact .inr point
      rcases inductionHypothesis (c :: before) inName.2 shorter with ⟨stop, groups, matched, found⟩
      refine ⟨stop, groups, ?_, ?_⟩
      · have fits : noSlash.has c = true := by
          rw [has_noSlash, bne_iff_ne]
          exact Ne.symm inName.1
        rw [List.cons_append, Node.stops, if_pos fits]
        simp only [Bool.false_eq_true, if_false, List.findSome?_cons, head?_ending_of_longer before _ ending]
        exact matched
      · rw [found, List.length_cons, List.length_cons]
        congr 2
        omega

/-- The folder is as long as it can be: it ends behind the last slash. -/
theorem head?_folder {path : List Char} (oneLine : '\n' ∉ path) :
    ∃ folder groups, path = folder ++ Text.afterLast '/' path ∧ '/' ∉ Text.afterLast '/' path ∧
      (folderPart.outcomes ⟨[], path⟩ []).head? =
        some (⟨folder.reverse, Text.afterLast '/' path⟩, groups) := by
  by_cases there : '/' ∈ path
  · rcases Text.exists_last there with ⟨front, name, rfl, absent⟩
    rw [Text.afterLast_append absent]
    refine ⟨front ++ ['/'], [(1, 0, front.length + 1)], by simp, absent, ?_⟩
    have fits : ∀ c ∈ front ++ ['/'], onLine.has c = true := by
      rw [List.append_cons] at oneLine
      exact onLine_of_not_mem fun newline => oneLine (List.mem_append_left _ newline)
    rw [folderPart, Node.head?_optional, List.head?_append, Node.outcomes, List.head?_map,
      Node.head?_loop_single fits absent]
    simp [Place.index]
  · rw [Text.afterLast_of_not_mem there]
    refine ⟨[], [], rfl, there, ?_⟩
    rw [folderPart, Node.head?_optional, Node.outcomes, Node.outcomes_loop_single_of_not_mem there]
    rfl

/-- The second group of the match of a path is the name of the file without its last ending. -/
theorem nameRule_matches {path : String} (oneLine : '\n' ∉ path.toList) :
    ∃ texts, nameRule.pattern.matchStart? path = some texts ∧ texts[2]? = some (title path) := by
  rcases head?_folder oneLine with ⟨folder, groups, whole, noSlash, matched⟩
  rcases exists_ending (Text.afterLast '/' path.toList) with ⟨stem, tail, isStem, name, ending⟩
  rw [name] at whole noSlash matched
  rcases findSome?_stem folder.reverse groups folder.reverse.length noSlash ending with
    ⟨stop, groups', stemMatched, found⟩
  have first : (nameRule.pattern.node.outcomes ⟨[], path.toList⟩ []).head? = some (stop, groups') := by
    have begun : (Node.look .start).outcomes ⟨[], path.toList⟩ [] = [(⟨[], path.toList⟩, [])] := rfl
    rw [nameRule, Node.head?_seq, begun, List.findSome?_singleton, Node.head?_seq]
    refine findSome?_of_head? matched ?_
    rw [stemPart, Node.head?_group_seq, Node.outcomes_loop_char]
    exact stemMatched
  rcases matchStart?_of_head? first with ⟨texts, isMatch, -, second⟩
  refine ⟨texts, isMatch, ?_⟩
  rw [second 2 _ _ (by decide) (by decide) found, title, isStem, List.length_reverse,
    Nat.add_sub_cancel_left, whole, List.drop_left, List.take_left]

/-- A category is matched as a whole. -/
theorem categoryRule_matches {category : String} {rest : List Char} (path : category.toList = '/' :: rest)
    (oneLine : '\n' ∉ rest) :
    ∃ texts, categoryRule.pattern.matchStart? category = some texts ∧ texts[0]? = some category := by
  have first : (categoryRule.pattern.node.outcomes ⟨[], category.toList⟩ []).head? =
      some (⟨rest.reverse ++ ['/'], []⟩, []) := by
    have begun : (Node.look .start).outcomes ⟨[], category.toList⟩ [] = [(⟨[], category.toList⟩, [])] := rfl
    rw [categoryRule, Node.head?_seq, begun, List.findSome?_singleton, path, Node.head?_seq,
      Node.outcomes_char_cons, CharSet.has_single, if_pos (by rfl), List.findSome?_singleton, Node.head?_seq,
      Node.outcomes_loop_char]
    exact findSome?_of_head? (Node.head?_stops_true (onLine_of_not_mem oneLine)) rfl
  rcases matchStart?_of_head? first with ⟨texts, isMatch, whole, -⟩
  refine ⟨texts, isMatch, ?_⟩
  rw [whole, List.take_of_length_le (by simp [path, Place.index]), String.ofList_toList]

end Matching

/-! ## What the rules write -/

theorem render_name {a : Template.Arguments} {name : String} (there : a.groups[2]? = some name) :
    Template.render a "\x7b2\x7d" = .ok name := by
  have cut : Template.pieces "\x7b2\x7d" = [.field ['2']] := by decide
  have reserved : ['2'].any Template.isReserved = false := by decide
  have number : Decimal.readDigits? ['2'] = some 2 := by decide
  rw [Template.render, cut]
  simp [Template.fillPieces, Template.fill, reserved, number, Template.Arguments.group, there, UInt64.size,
    Except.map]

theorem render_tags {a : Template.Arguments} {tags category : String}
    (named : a.named[tagsKey]? = some tags) (there : a.groups[0]? = some category) :
    Template.render a "\x7b_tags\x7d \x7b0\x7d" = .ok (tags ++ (" " ++ category)) := by
  have cut : Template.pieces "\x7b_tags\x7d \x7b0\x7d" =
      [.field tagsKey.toList, .char ' ', .field ['0']] := by decide
  have reserved : tagsKey.toList.any Template.isReserved = false ∧
      ['0'].any Template.isReserved = false := by decide
  have number : Decimal.readDigits? tagsKey.toList = none ∧ Decimal.readDigits? ['0'] = some 0 := by decide
  have nonempty : tagsKey.toList.isEmpty = false := by decide
  rw [Template.render, cut]
  simp [Template.fillPieces, Template.fill, reserved, number, nonempty, named, Template.Arguments.group,
    there, UInt64.size, Except.map]

section Applying

variable {texts : Texts} {path category tags : String}

theorem apply_of_absent (rule : Rule) (absent : texts[rule.field]? = none) : rule.apply texts = texts := by
  rw [apply, absent, Option.bind_none]

/-- A rule with one substitution writes one text. -/
theorem apply_of_match {rule : Rule} {whole target template text : String} {groups : List String}
    (there : texts[rule.field]? = some whole) (isMatch : rule.pattern.matchStart? whole = some groups)
    (only : rule.substitutions = [(target, template)]) (allowed : isTarget target = true)
    (filled : Template.render (rule.arguments texts groups) template = .ok text) :
    rule.apply texts = texts.insert target text := by
  have writes : rule.written texts groups = [(target, text)] := by
    rw [written, only]
    simp [allowed, filled, Except.toOption]
  rw [apply, there, Option.bind_some, isMatch]
  dsimp only
  rw [writes, Std.ExtTreeMap.insertMany_list_singleton]

theorem nameRule_apply (there : texts[Field.path.key]? = some path) (oneLine : '\n' ∉ path.toList) :
    nameRule.apply texts = texts.insert Field.name.key (title path) := by
  rcases nameRule_matches oneLine with ⟨groups, isMatch, second⟩
  exact apply_of_match there isMatch rfl (by decide) (render_name second)

theorem categoryRule_apply {rest : List Char} (there : texts[categoryKey]? = some category)
    (isPath : category.toList = '/' :: rest) (oneLine : '\n' ∉ rest) (tagged : texts[tagsKey]? = some tags) :
    categoryRule.apply texts = texts.insert tagsKey (tags ++ (" " ++ category)) := by
  rcases categoryRule_matches isPath oneLine with ⟨groups, isMatch, whole⟩
  exact apply_of_match there isMatch rfl (by decide) (render_tags tagged whole)

end Applying

end Rule

/-! ## Categories -/

theorem Tag.not_isBlank_of_mem_sanitize {path : String} {c : Char}
    (membership : c ∈ (sanitize path).toList) : Text.isBlank c = false := by
  rw [sanitize, String.toList_ofList, List.mem_map] at membership
  rcases membership with ⟨d, -, rfl⟩
  split
  · rename_i kept
    rcases Bool.or_eq_true_iff.mp kept with tagChar | slash
    · exact not_isBlank_of_isTagChar tagChar
    · rw [beq_iff_eq.mp slash]
      decide
  · decide

/-- A category is a path, and there is no blank in it. -/
theorem category?_path {path root category : String} (found : category? path root = some category) :
    (∃ rest, category.toList = '/' :: rest) ∧ ∀ c ∈ category.toList, Text.isBlank c = false := by
  unfold category? at found
  rcases Option.bind_eq_some_iff.mp found with ⟨folder, -, inside⟩
  dsimp only at inside
  split at inside
  · cases inside
    rw [String.toList_append]
    refine ⟨⟨_, rfl⟩, fun c membership => ?_⟩
    rcases List.mem_cons.mp membership with rfl | later
    · decide
    · exact Tag.not_isBlank_of_mem_sanitize later
  · cases inside

namespace Text

/-- A word that is joined to other ones comes last. -/
theorem blankWords_append_word {words : List String} {word : String}
    (sharp : ∀ other ∈ words, other.toList ≠ [] ∧ ∀ c ∈ other.toList, isBlank c = false)
    (nonempty : word.toList ≠ []) (unblank : ∀ c ∈ word.toList, isBlank c = false) :
    blankWords (join " " words ++ (" " ++ word)) = words ++ [word] := by
  have text : (join " " words ++ (" " ++ word)).toList = (join " " words).toList ++ ' ' :: word.toList := by
    simp
  rw [blankWords, text, wordsBetween_append_cons (by decide), List.map_append,
    wordsBetween_of_forall nonempty unblank, List.map_singleton, String.ofList_toList]
  exact congrArg (· ++ [word]) (blankWords_join sharp)

end Text

/-! ## The record -/

namespace Metadata

open Rule (nameRule categoryRule tagsKey categoryKey title visible)

variable {m : Metadata} {root : Option String}

/-- The category that the rules see: there has to be a root, and the sample has to lie below it. -/
def categoryBelow? (m : Metadata) (root : Option String) : Option String :=
  root.bind fun root => m.path.bind fun path => category? path root

theorem getElem?_texts_of_unknown {key : String} (noField : ∀ f : Field, f.key ≠ key)
    (noCustom : m.custom[key]? = none) : m.texts[key]? = none := by
  rw [Rule.getElem?_texts, noCustom, Option.none_or, Std.ExtTreeMap.ofList_eq_insertMany_empty]
  refine (getElem?_insertMany_of_not_mem fun text membership => ?_).trans Std.ExtTreeMap.getElem?_empty
  obtain ⟨f, v, isKey, -, -⟩ := Rule.mem_fixedTexts.mp membership
  exact noField f isKey

theorem categoryBelow?_path {category : String} (found : m.categoryBelow? root = some category) :
    (∃ rest, category.toList = '/' :: rest) ∧ ∀ c ∈ category.toList, Text.isBlank c = false := by
  rcases Option.bind_eq_some_iff.mp found with ⟨root', -, found⟩
  rcases Option.bind_eq_some_iff.mp found with ⟨path, -, found⟩
  exact category?_path found

theorem visible_eq : visible m root =
    match m.categoryBelow? root with
    | some category => (m.texts.insert tagsKey (Text.join " " m.tags.toList)).insert categoryKey category
    | none => m.texts.insert tagsKey (Text.join " " m.tags.toList) := rfl

theorem visible_category (valid : m.Valid) : (visible m root)[categoryKey]? = m.categoryBelow? root := by
  have noCategory : m.texts[categoryKey]? = none :=
    getElem?_texts_of_unknown (fun f => (ne_keys_of_field f).2) (valid.custom_of_invalid (by decide))
  have apart : compare tagsKey categoryKey ≠ .eq := by decide
  rw [visible_eq]
  cases m.categoryBelow? root with
  | some category => exact Std.ExtTreeMap.getElem?_insert_self
  | none => exact Std.ExtTreeMap.getElem?_insert.trans ((if_neg apart).trans noCategory)

theorem visible_field (valid : m.Valid) (f : Field) :
    (visible m root)[f.key]? = (m.get? f).map Value.toText := by
  obtain ⟨noTags, noCategory⟩ := ne_keys_of_field f
  rw [Rule.getElem?_visible noTags noCategory, Rule.getElem?_texts_field valid]

/-- The text of the name after the default rules, and the text of the tags. -/
theorem textsAfter_defaults (valid : m.Valid)
    (oneLine : ∀ path, m.path = some path → '\n' ∉ path.toList) :
    (m.textsAfter Rule.defaults root)[Field.name.key]? = (m.path.map title).or m.name ∧
    (m.textsAfter Rule.defaults root)[tagsKey]? = some
      (match m.categoryBelow? root with
        | some category => Text.join " " m.tags.toList ++ (" " ++ category)
        | none => Text.join " " m.tags.toList) := by
  have tags : (visible m root)[tagsKey]? = some (Text.join " " m.tags.toList) := Rule.visible_tags
  have name : (visible m root)[Field.name.key]? = m.name := by
    rw [visible_field valid, get?, Option.map_map]
    exact congrFun Option.map_id _
  have path : (visible m root)[Field.path.key]? = m.path := by
    rw [visible_field valid, get?, Option.map_map]
    exact congrFun Option.map_id _
  have category : (visible m root)[categoryKey]? = m.categoryBelow? root := visible_category valid
  rw [textsAfter, Rule.defaults_eq, List.foldl_cons, List.foldl_cons, List.foldl_nil]
  cases isPath : m.path with
  | none =>
      have noCategory : m.categoryBelow? root = none := by
        cases root <;> simp [categoryBelow?, isPath]
      rw [isPath] at path
      rw [noCategory] at category ⊢
      rw [Rule.apply_of_absent nameRule path, Rule.apply_of_absent categoryRule category]
      exact ⟨name, tags⟩
  | some place =>
      rw [isPath] at path
      rw [Rule.nameRule_apply path (oneLine place isPath)]
      have named : ((visible m root).insert Field.name.key (title place))[Field.name.key]? =
          some (title place) := Std.ExtTreeMap.getElem?_insert_self
      have others {key : String} (other : Field.name.key ≠ key) :
          ((visible m root).insert Field.name.key (title place))[key]? = (visible m root)[key]? := by
        rw [Std.ExtTreeMap.getElem?_insert, if_neg (by simpa using other)]
      have tags' := (others (ne_keys_of_field .name).1).trans tags
      have category' := (others (ne_keys_of_field .name).2).trans category
      cases found : m.categoryBelow? root with
      | none =>
          rw [found] at category'
          rw [Rule.apply_of_absent categoryRule category']
          exact ⟨named, tags'⟩
      | some c =>
          rw [found] at category'
          rcases categoryBelow?_path found with ⟨⟨rest, whole⟩, unblank⟩
          have oneLine' : '\n' ∉ rest := fun newline =>
            absurd (unblank '\n' (whole ▸ List.mem_cons_of_mem _ newline)) (by decide)
          rw [Rule.categoryRule_apply category' whole oneLine' tags']
          refine ⟨?_, Std.ExtTreeMap.getElem?_insert_self⟩
          rw [Std.ExtTreeMap.getElem?_insert, if_neg (by decide)]
          exact named

/-- Of the custom values and of the fields but the name, the default rules write none. -/
theorem textsAfter_defaults_kept {key : String} (notName : key ≠ Field.name.key) (notTags : key ≠ tagsKey) :
    (m.textsAfter Rule.defaults root)[key]? = (visible m root)[key]? := by
  by_contra changed
  obtain ⟨-, rule, membership, template, target⟩ := Rule.target_of_foldl_ne changed
  rw [Rule.defaults_eq] at membership
  have targets : key = Field.name.key ∨ key = tagsKey := by
    rcases List.mem_cons.mp membership with rfl | second
    · exact .inl (congrArg Prod.fst (List.mem_singleton.mp target))
    · rw [List.mem_singleton.mp second] at target
      exact .inr (congrArg Prod.fst (List.mem_singleton.mp target))
  exact targets.elim notName notTags

/-- The words of the tags after the default rules that are valid tags. -/
theorem tags_rewrite_defaults (valid : m.Valid)
    (oneLine : ∀ path, m.path = some path → '\n' ∉ path.toList) :
    (m.rewrite Rule.defaults root).tags =
      match m.categoryBelow? root with
      | some category => if Tag.isValid category then m.tags.insert category else m.tags
      | none => m.tags := by
  have sharp : ∀ tag ∈ m.tags.toList, tag.toList ≠ [] ∧ ∀ c ∈ tag.toList, Text.isBlank c = false :=
    fun tag membership => Tag.sharp_of_isValid (valid.isValid_of_mem_tags membership)
  have validTags : m.tags.toList.filter Tag.isValid = m.tags.toList :=
    List.filter_eq_self.mpr fun tag => valid.isValid_of_mem_tags
  have old : (∅ : TagSet).insertMany m.tags.toList = m.tags := by
    rw [← Std.ExtTreeSet.ofList_eq_insertMany_empty, Tag.ofList_toList]
  rw [rewrite_eq, tags_ofTexts, (textsAfter_defaults valid oneLine).2, Option.getD_some]
  cases found : m.categoryBelow? root with
  | none =>
      dsimp only
      rw [valid.blankWords_tags, validTags, old]
  | some category =>
      rcases categoryBelow?_path found with ⟨⟨rest, whole⟩, unblank⟩
      have nonempty : category.toList ≠ [] := by simp [whole]
      dsimp only
      rw [Text.blankWords_append_word sharp nonempty unblank, List.filter_append, validTags]
      split
      · rename_i isTag
        rw [List.filter_cons_of_pos isTag, List.filter_nil, Std.ExtTreeSet.insertMany_append, old]
        exact Std.ExtTreeSet.insertMany_list_singleton
      · rename_i noTag
        rw [List.filter_cons_of_neg noTag, List.filter_nil, List.append_nil, old]

/-- With the default rules, a sample gets the name of its file and, below a root, its folder as a tag. -/
theorem rewrite_defaults (valid : m.Valid) (duration : m.duration ≠ some .nan)
    (peakLevel : m.peakLevel ≠ some .nan) (oneLine : ∀ path, m.path = some path → '\n' ∉ path.toList)
    (root : Option String) :
    m.rewrite Rule.defaults root = { m with
      name := match m.path with
        | some path => some (title path)
        | none => m.name
      tags := match m.categoryBelow? root with
        | some category => if Tag.isValid category then m.tags.insert category else m.tags
        | none => m.tags } := by
  refine ext_get? (fun f => ?_) (Std.ExtTreeMap.ext_getElem? fun key => ?_)
    (tags_rewrite_defaults valid oneLine)
  · by_cases isName : f = .name
    · subst isName
      rw [get?_rewrite_eq, (textsAfter_defaults valid oneLine).1]
      cases m.path with
      | none => cases m.name <;> simp [get?, Field.kind, Value.read?]
      | some path => rfl
    · have notName : f.key ≠ Field.name.key := fun same => isName (Field.key_inj same)
      rw [get?_rewrite valid duration peakLevel (textsAfter_defaults_kept notName (ne_keys_of_field f).1)]
      cases f with
      | name => exact absurd rfl isName
      | _ => rfl
  · by_cases isValid : CustomKey.isValid key = true
    · have notName : key ≠ Field.name.key := by
        rintro rfl
        exact Field.not_isValid_key .name isValid
      exact custom_rewrite valid (textsAfter_defaults_kept notName (ne_keys_of_isValid isValid).1)
    · exact ((valid_rewrite m _ root).custom_of_invalid isValid).trans
        (valid.custom_of_invalid isValid).symm

/-- The kick is called after its file, and its folder is a new tag. -/
theorem kick_rewritten_by_defaults :
    kick.Valid ∧ kick.duration ≠ some .nan ∧ kick.peakLevel ≠ some .nan ∧
    (∀ path, kick.path = some path → '\n' ∉ path.toList) ∧
    kick.rewrite Rule.defaults (some "/music") =
      { kick with name := some "kick", tags := kick.tags.insert "/loops" } := by
  have valid : kick.Valid := valid_ofFields _ _
  have duration : kick.duration ≠ some .nan := by decide +kernel
  have peakLevel : kick.peakLevel ≠ some .nan := by decide +kernel
  have path : kick.path = some "/music/loops/kick.wav" := by decide +kernel
  have oneLine : ∀ path, kick.path = some path → '\n' ∉ path.toList := by
    intro p isPath
    rw [path] at isPath
    cases isPath
    decide
  refine ⟨valid, duration, peakLevel, oneLine, ?_⟩
  have category : kick.categoryBelow? (some "/music") = some "/loops" := by decide +kernel
  have name : title "/music/loops/kick.wav" = "kick" := by decide
  have isTag : Tag.isValid "/loops" = true := by decide
  rw [rewrite_defaults valid duration peakLevel oneLine]
  simp [path, category, name, isTag]

end Metadata

end SampleLibrary
