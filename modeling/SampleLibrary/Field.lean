/-!
# The fixed fields of a sample

Every sample has the same ten fields. A field has a name, which is also its column in the database,
and a key, by which it appears among the keys of a record: the name after an underscore.
-/

namespace SampleLibrary

/-- What the values of a field are. -/
inductive FieldKind where
  | text
  | integer
  | float
  deriving Repr, DecidableEq

/-- The fixed fields, in the order in which they are listed and stored. -/
inductive Field where
  | md5
  | path
  | source
  | name
  | format
  | formatSubtype
  | sampleRate
  | channels
  | duration
  | peakLevel
  deriving Repr, DecidableEq

namespace Field

def all : List Field :=
  [md5, path, source, name, format, formatSubtype, sampleRate, channels, duration, peakLevel]

theorem mem_all (f : Field) : f ∈ all := by cases f <;> decide

def toName : Field → String
  | md5 => "md5"
  | path => "path"
  | source => "source"
  | name => "name"
  | format => "format"
  | formatSubtype => "format_subtype"
  | sampleRate => "sample_rate"
  | channels => "channels"
  | duration => "duration"
  | peakLevel => "peak_level"

/-- The key among the keys of a record. -/
def key (f : Field) : String := "_" ++ f.toName

def ofName? (s : String) : Option Field := all.find? fun f => f.toName == s

theorem ofName?_toName (f : Field) : ofName? f.toName = some f := by cases f <;> decide

def ofKey? (s : String) : Option Field := all.find? fun f => f.key == s

theorem ofKey?_key (f : Field) : ofKey? f.key = some f := by cases f <;> decide

def kind : Field → FieldKind
  | sampleRate | channels => .integer
  | duration | peakLevel => .float
  | _ => .text

/-- May users and rewrite rules change the field? Only the name is theirs. -/
def isEditable (f : Field) : Bool := f == name

/-- The unit in which values are shown. -/
def unit? : Field → Option String
  | sampleRate => some "frames/s"
  | duration => some "s"
  | peakLevel => some "dBFS"
  | _ => none

/-- Do values of the field go into the full-text document? -/
def isIndexable : Field → Bool
  | md5 | path | source | channels | peakLevel => false
  | _ => true

end Field

end SampleLibrary
