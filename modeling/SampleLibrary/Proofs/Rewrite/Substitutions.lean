import SampleLibrary.Proofs.Rewrite.Confinement

/-!
# The substitutions of a rule act together

A rule fills in all of its templates from the texts as they were before it and from the groups of its match.
So none of them sees what another one writes, one that cannot be filled in leaves its target alone, and for
distinct targets the order of the substitutions does not matter (`Metadata.substitutions_simultaneous`).
-/

namespace SampleLibrary

namespace Rule

variable {rule : Rule} {texts : Texts} {groups : List String} {key target template : String}

/-! ## What templates see -/

/-- Names of groups hide texts under the same key, and all other texts are seen as they are. -/
theorem getElem?_arguments (rule : Rule) (texts : Texts) (groups : List String) (key : String) :
    (∃ index, (key, index) ∈ rule.pattern.names ∧
      (rule.arguments texts groups).named[key]? = some (groups[index]?.getD "")) ∨
    (∀ index, (key, index) ∉ rule.pattern.names) ∧
      (rule.arguments texts groups).named[key]? = texts[key]? := by
  rw [arguments]
  generalize rule.pattern.names = names
  induction names generalizing texts with
  | nil => exact .inr ⟨fun _ => List.not_mem_nil, rfl⟩
  | cons entry names inductionHypothesis =>
      obtain ⟨name, index⟩ := entry
      rw [List.foldl_cons]
      rcases inductionHypothesis (texts.insert name (groups[index]?.getD "")) with
        ⟨later, there, hidden⟩ | ⟨absent, seen⟩
      · exact .inl ⟨later, List.mem_cons_of_mem _ there, hidden⟩
      · by_cases same : name = key
        · subst same
          rw [Std.ExtTreeMap.getElem?_insert_self] at seen
          exact .inl ⟨index, List.mem_cons_self, seen⟩
        · refine .inr ⟨fun other there => ?_, ?_⟩
          · rcases List.mem_cons.mp there with equality | there
            · exact same (congrArg Prod.fst equality).symm
            · exact absent other there
          · rw [seen, Std.ExtTreeMap.getElem?_insert, if_neg (by simpa using same)]

/-! ## What a rule writes -/

theorem mem_written {text : String} :
    (target, text) ∈ rule.written texts groups ↔ isTarget target = true ∧
      ∃ template, (target, template) ∈ rule.substitutions ∧
        Template.render (rule.arguments texts groups) template = .ok text := by
  rw [written, List.mem_filterMap]
  constructor
  · rintro ⟨⟨target', template⟩, allowed, filled⟩
    obtain ⟨text', rendered, equality⟩ := Option.map_eq_some_iff.mp filled
    obtain ⟨rfl, rfl⟩ := Prod.mk.inj equality
    rw [List.mem_filter] at allowed
    refine ⟨allowed.2, template, allowed.1, ?_⟩
    cases outcome : Template.render (rule.arguments texts groups) template with
    | ok text => rw [outcome] at rendered; exact congrArg _ (Option.some.inj rendered)
    | error e => rw [outcome] at rendered; cases rendered
  · rintro ⟨allowed, template, there, rendered⟩
    refine ⟨(target, template), List.mem_filter.mpr ⟨there, allowed⟩, ?_⟩
    dsimp only
    rw [rendered]
    rfl

/-- What the text under a target becomes: what the template makes of the texts as they were before the
rule, or the old text, if the target is not allowed or the template cannot be filled in. -/
def becomes (rule : Rule) (texts : Texts) (groups : List String) (target template : String) :
    Option String :=
  if isTarget target then
    match Template.render (rule.arguments texts groups) template with
    | .ok text => some text
    | .error _ => texts[target]?
  else texts[target]?

section Matched

variable (isMatch : texts[rule.field]?.bind rule.pattern.matchStart? = some groups)
include isMatch

theorem apply_of_matched : rule.apply texts = texts.insertMany (rule.written texts groups) := by
  rw [apply, isMatch]

/-- A template decides what becomes of its own target, if no other one has that target. -/
theorem getElem?_apply_target (distinct : (rule.substitutions.map Prod.fst).Nodup)
    (there : (target, template) ∈ rule.substitutions) :
    (rule.apply texts)[target]? = rule.becomes texts groups target template := by
  have only {other : String} (there' : (target, other) ∈ rule.substitutions) : other = template := by
    have same := List.inj_on_of_nodup_map distinct there' there rfl
    exact congrArg Prod.snd same
  rw [apply_of_matched isMatch, becomes]
  by_cases allowed : isTarget target = true
  · rw [if_pos allowed]
    cases rendered : Template.render (rule.arguments texts groups) template with
    | ok text =>
        refine getElem?_insertMany_of_mem (mem_written.mpr ⟨allowed, template, there, rendered⟩)
          fun other written => ?_
        obtain ⟨-, template', there', rendered'⟩ := mem_written.mp written
        rw [only there', rendered] at rendered'
        exact (Except.ok.inj rendered').symm
    | error e =>
        refine getElem?_insertMany_of_not_mem fun text written => ?_
        obtain ⟨-, template', there', rendered'⟩ := mem_written.mp written
        rw [only there', rendered] at rendered'
        cases rendered'
  · rw [if_neg allowed]
    exact getElem?_insertMany_of_not_mem fun text written => allowed (mem_written.mp written).1

end Matched

theorem getElem?_apply_other (absent : ∀ template, (key, template) ∉ rule.substitutions) :
    (rule.apply texts)[key]? = texts[key]? := by
  by_contra changed
  obtain ⟨-, template, there⟩ := target_of_apply_ne changed
  exact absent template there

/-- The order of substitutions with distinct targets does not matter. -/
theorem apply_perm (distinct : (rule.substitutions.map Prod.fst).Nodup) {order : List (String × String)}
    (same : order.Perm rule.substitutions) (texts : Texts) :
    ({ rule with substitutions := order } : Rule).apply texts = rule.apply texts := by
  have distinct' : (order.map Prod.fst).Nodup := (same.map Prod.fst).nodup_iff.mpr distinct
  apply Std.ExtTreeMap.ext_getElem?
  intro key
  cases isMatch : texts[rule.field]?.bind rule.pattern.matchStart? with
  | none => simp only [apply, isMatch]
  | some groups =>
      by_cases isKey : ∃ template, (key, template) ∈ rule.substitutions
      · obtain ⟨template, there⟩ := isKey
        have reordered : (({ rule with substitutions := order } : Rule).apply texts)[key]? =
            rule.becomes texts groups key template :=
          getElem?_apply_target isMatch distinct' (same.mem_iff.mpr there)
        rw [reordered, getElem?_apply_target isMatch distinct there]
      · have absent := not_exists.mp isKey
        rw [getElem?_apply_other absent, getElem?_apply_other]
        exact fun template there => absent template (same.mem_iff.mp there)

end Rule

namespace Metadata

open Rule (Texts)

/-- The substitutions of a rule act together: reordering them changes nothing in the rewritten record, every
target becomes what its own template makes of the texts before the rule and of the groups, and all other texts
stay. -/
theorem substitutions_simultaneous (m : Metadata) (root : Option String) (before after : List Rule)
    {rule : Rule} (distinct : (rule.substitutions.map Prod.fst).Nodup) :
    (∀ order : List (String × String), order.Perm rule.substitutions →
      m.rewrite (before ++ { rule with substitutions := order } :: after) root =
        m.rewrite (before ++ rule :: after) root) ∧
    ∀ texts, m.textsAfter before root = texts →
      m.textsAfter (before ++ rule :: after) root =
        after.foldl (fun texts rule => rule.apply texts) (rule.apply texts) ∧
      (texts[rule.field]?.bind rule.pattern.matchStart? = none → rule.apply texts = texts) ∧
      ∀ groups, texts[rule.field]?.bind rule.pattern.matchStart? = some groups →
        (∀ target template, (target, template) ∈ rule.substitutions →
          (rule.apply texts)[target]? = rule.becomes texts groups target template) ∧
        (∀ key, (∀ template, (key, template) ∉ rule.substitutions) →
          (rule.apply texts)[key]? = texts[key]?) ∧
        (rule.arguments texts groups).groups = groups ∧
        ∀ key, (∃ index, (key, index) ∈ rule.pattern.names ∧
            (rule.arguments texts groups).named[key]? = some (groups[index]?.getD "")) ∨
          (∀ index, (key, index) ∉ rule.pattern.names) ∧
            (rule.arguments texts groups).named[key]? = texts[key]? := by
  refine ⟨fun order same => ?_, ?_⟩
  · have sameTexts : m.textsAfter (before ++ { rule with substitutions := order } :: after) root =
        m.textsAfter (before ++ rule :: after) root := by
      simp only [textsAfter, List.foldl_append, List.foldl_cons, Rule.apply_perm distinct same]
    rw [rewrite_eq, sameTexts, ← rewrite_eq]
  · rintro texts rfl
    refine ⟨by simp only [textsAfter, List.foldl_append, List.foldl_cons], fun unmatched => ?_,
      fun groups isMatch => ⟨fun target template => ?_, fun key => ?_, rfl, ?_⟩⟩
    · rw [Rule.apply, unmatched]
    · exact Rule.getElem?_apply_target isMatch distinct
    · exact Rule.getElem?_apply_other
    · exact Rule.getElem?_arguments rule _ groups

/-- Targets that other templates read, and a template without a group to take. -/
def exchange : Rule where
  field := "_path"
  pattern := ((Pattern.read? "^/music/(?P<kind>\\w+)/").getD ⟨"", .empty⟩)
  substitutions := [("_name", "\x7bmood\x7d \x7bkind\x7d"), ("mood", "\x7b_name\x7d \x7b_tags\x7d"),
    ("_tags", "\x7b_tags\x7d \x7bmood\x7d"), ("origin", "\x7b7\x7d")]

theorem exchange_simultaneous :
    (exchange.substitutions.map Prod.fst).Nodup ∧
    exchange.substitutions.reverse ≠ exchange.substitutions ∧
    (kick.rewrite ([] ++ exchange :: retitling) none).name = some "kick" ∧
    (kick.rewrite ([] ++ exchange :: retitling) none).custom["mood"]? = some " /808 drums kick" ∧
    (kick.rewrite ([] ++ exchange :: retitling) none).custom["origin"]? = none ∧
    kick.rewrite ([] ++ { exchange with substitutions := exchange.substitutions.reverse } :: retitling) none =
      kick.rewrite ([] ++ exchange :: retitling) none := by
  have distinct : (exchange.substitutions.map Prod.fst).Nodup := by decide
  have reversed : exchange.substitutions.reverse.Perm exchange.substitutions := List.reverse_perm _
  obtain ⟨same, -⟩ := substitutions_simultaneous kick none [] retitling distinct
  exact ⟨distinct, by decide, by decide +kernel, by decide +kernel, by decide +kernel, same _ reversed⟩

end Metadata

end SampleLibrary
