import SampleLibrary.Metadata.View
import SampleLibrary.Pattern.Matching
import SampleLibrary.Rewrite.Category
import SampleLibrary.Rewrite.Template

/-!
# Rewrite rules

A rule looks at one text of a record. If its pattern matches where the text begins, its templates
are filled in from the groups of the match and from the texts of the record, and each result is put
where the rule says: into the name, the tags or a custom value.
-/

namespace SampleLibrary

/-- A rule for the texts of a record. -/
structure Rule where
  field : String
  pattern : Pattern
  substitutions : List (String × String)
  deriving Repr, DecidableEq

namespace Rule

/-- The text of a rule is no pattern. -/
structure InvalidPattern where
  pattern : String
  deriving Repr, DecidableEq

def InvalidPattern.message (e : InvalidPattern) : String :=
  "invalid rewrite pattern " ++ Text.quoted e.pattern

def read (field pattern : String) (substitutions : List (String × String)) :
    Except InvalidPattern Rule :=
  match Pattern.read? pattern with
  | some pattern => .ok ⟨field, pattern, substitutions⟩
  | none => .error ⟨pattern⟩

/-- The key under which rules see the tags, with spaces between them. -/
def tagsKey : String := "_tags"

def categoryKey : String := "_auto_category"

/-- The name of the set of rules that is used when none is chosen. -/
def defaultSet : String := "default"

/-- The texts of the default rules: the name from the file name, and a tag from the folder. -/
def defaultTexts : List (String × String × List (String × String)) := [
  ("_path", "^(.*/)?([^/]*?)(\\.[^/.]*)?$", [("_name", "\x7b2\x7d")]),
  (categoryKey, "^/.*$", [(tagsKey, "\x7b_tags\x7d \x7b0\x7d")])]

def defaults : List Rule :=
  defaultTexts.filterMap fun (field, pattern, substitutions) =>
    (read field pattern substitutions).toOption

abbrev Texts := Std.ExtTreeMap String String

/-- May rules write under the key? The tags, the fields that may be edited and custom values. -/
def isTarget (key : String) : Bool :=
  key == tagsKey ||
  match Field.ofKey? key with
  | some f => f.isEditable
  | none => key.toList.head? != some '_' && CustomKey.isValid key

/-- What the templates of a rule see: the texts and the groups of a match, names of groups first. -/
def arguments (rule : Rule) (texts : Texts) (groups : List String) : Template.Arguments where
  groups := groups
  named := rule.pattern.names.foldl
    (fun named (name, index) => named.insert name (groups[index]?.getD "")) texts

/-- The texts that a rule writes for a match; a template that cannot be filled in writes nothing. -/
def written (rule : Rule) (texts : Texts) (groups : List String) : List (String × String) :=
  let a := rule.arguments texts groups
  (rule.substitutions.filter fun (target, _) => isTarget target).filterMap
    fun (target, template) => ((Template.render a template).toOption).map (target, ·)

def apply (rule : Rule) (texts : Texts) : Texts :=
  match texts[rule.field]?.bind rule.pattern.matchStart? with
  | none => texts
  | some groups => texts.insertMany (rule.written texts groups)

def visible (m : Metadata) (root : Option String) : Texts :=
  let texts := m.texts.insert tagsKey (Text.join " " m.tags.toList)
  match root.bind fun root => m.path.bind fun path => category? path root with
  | some category => texts.insert categoryKey category
  | none => texts

end Rule

/-- The record after the rules, one after the other. With a root, samples in folders below it have a
category for the rules to see. -/
def Metadata.rewrite (m : Metadata) (rules : List Rule) (root : Option String) : Metadata :=
  let texts := rules.foldl (fun texts rule => rule.apply texts) (Rule.visible m root)
  let tags := texts[Rule.tagsKey]?.getD ""
  let fields := ((texts.erase Rule.categoryKey).erase Rule.tagsKey).toList
  Metadata.ofFields (fields.map fun (key, text) => (key, .text text)) (Text.blankWords tags)

end SampleLibrary
