import Std.Data.ExtTreeMap
import SampleLibrary.FileInfo
import SampleLibrary.Metadata.Key
import SampleLibrary.Tag
import SampleLibrary.Value

/-!
# Records of samples

A record holds the fixed fields of a sample, its custom values and its tags. Whatever is put into a
record is checked: values that do not fit their field clear it, and invalid keys and tags are left
out.
-/

namespace SampleLibrary

/-- What is known about a sample. -/
structure Metadata where
  md5 : Option String := none
  path : Option String := none
  source : Option String := none
  name : Option String := none
  format : Option String := none
  formatSubtype : Option String := none
  sampleRate : Option Int64 := none
  channels : Option Int64 := none
  duration : Option Binary64 := none
  peakLevel : Option Binary64 := none
  custom : Std.ExtTreeMap String String := ∅
  tags : TagSet := ∅

namespace Metadata

def empty : Metadata := {}

def get? (m : Metadata) : Field → Option Value
  | .md5 => m.md5.map .text
  | .path => m.path.map .text
  | .source => m.source.map .text
  | .name => m.name.map .text
  | .format => m.format.map .text
  | .formatSubtype => m.formatSubtype.map .text
  | .sampleRate => m.sampleRate.map .integer
  | .channels => m.channels.map .integer
  | .duration => m.duration.map .float
  | .peakLevel => m.peakLevel.map .float

/-- The record with a field set to a value of the field's kind, or cleared. -/
def put (m : Metadata) (f : Field) (v : Option Value) : Metadata :=
  match f with
  | .md5 => { m with md5 := v.map Value.toText }
  | .path => { m with path := v.map Value.toText }
  | .source => { m with source := v.map Value.toText }
  | .name => { m with name := v.map Value.toText }
  | .format => { m with format := v.map Value.toText }
  | .formatSubtype => { m with formatSubtype := v.map Value.toText }
  | .sampleRate => { m with sampleRate := v.bind Value.asInteger? }
  | .channels => { m with channels := v.bind Value.asInteger? }
  | .duration => { m with duration := v.bind Value.asFloat? }
  | .peakLevel => { m with peakLevel := v.bind Value.asFloat? }

/-- The record with a field set to a value, brought to the kind of the field; a value for which this
cannot be done clears the field. -/
def set (m : Metadata) (f : Field) (v : Option Value) : Metadata :=
  m.put f (v.bind fun v => (v.coerce f).toOption)

/-- The record with a custom value, if the key is valid. -/
def setCustom (m : Metadata) (key value : String) : Metadata :=
  if CustomKey.isValid key then { m with custom := m.custom.insert key value } else m

def removeCustom (m : Metadata) (key : String) : Metadata :=
  { m with custom := m.custom.erase key }

/-- The record with further tags; invalid ones are left out. -/
def addTags (m : Metadata) (tags : List String) : Metadata :=
  { m with tags := m.tags.insertMany (tags.filter Tag.isValid) }

def setTags (m : Metadata) (tags : List String) : Metadata :=
  { m with tags := ∅ }.addTags tags

def removeTags (m : Metadata) (tags : List String) : Metadata :=
  { m with tags := m.tags.eraseMany (tags.filter Tag.isValid) }

/-- Why a value cannot be set under a key. -/
inductive SetError where
  | invalidKey (key : String)
  | coerce (e : CoerceError)
  deriving Repr, DecidableEq

def SetError.message : SetError → String
  | .invalidKey key => "invalid metadata key: " ++ Text.quoted key
  | .coerce e => e.message

/-- The text under a key: that of a fixed field or of a custom value. -/
def getKey? (m : Metadata) (key : String) : Option String :=
  match Field.ofKey? key with
  | some f => (m.get? f).map Value.toText
  | none => m.custom[key]?

def setKey (m : Metadata) (key value : String) : Except SetError Metadata :=
  match Field.ofKey? key with
  | some f =>
    match (Value.text value).coerce f with
    | .ok v => .ok (m.put f (some v))
    | .error e => .error (.coerce e)
  | none =>
    if CustomKey.isValid key then .ok { m with custom := m.custom.insert key value }
    else .error (.invalidKey key)

def addEntry (m : Metadata) (key : String) (value : Value) : Metadata :=
  match Field.ofKey? key with
  | some f => m.set f (some value)
  | none => m.setCustom key value.toText

/-- The record made of a list of fields, set one after the other, and of tags. -/
def ofFields (fields : List (String × Value)) (tags : List String) : Metadata :=
  (fields.foldl (fun m (key, value) => m.addEntry key value) empty).addTags tags

/-- The record of what an analyzer tells; an empty path is none. -/
def ofFileInfo (info : FileInfo) : Metadata where
  md5 := info.md5
  path := if info.path.isEmpty then none else some info.path
  format := info.format
  formatSubtype := info.formatSubtype
  sampleRate := info.sampleRate
  channels := info.channels
  duration := info.duration
  peakLevel := info.peakLevel

def toFileInfo (m : Metadata) : FileInfo where
  path := m.path.getD ""
  sampleRate := m.sampleRate
  channels := m.channels
  duration := m.duration
  format := m.format
  formatSubtype := m.formatSubtype
  peakLevel := m.peakLevel
  md5 := m.md5

def sameFloat : Option Binary64 → Option Binary64 → Bool
  | none, none => true
  | some x, some y => x.sameNumber y
  | _, _ => false

/-- Do the records say the same? A float that is no number differs from itself. -/
def same (m n : Metadata) : Bool :=
  m.md5 == n.md5 && m.path == n.path && m.source == n.source && m.name == n.name &&
  m.format == n.format && m.formatSubtype == n.formatSubtype &&
  m.sampleRate == n.sampleRate && m.channels == n.channels &&
  sameFloat m.duration n.duration && sameFloat m.peakLevel n.peakLevel &&
  m.custom.toList == n.custom.toList && m.tags.toList == n.tags.toList

end Metadata

end SampleLibrary
