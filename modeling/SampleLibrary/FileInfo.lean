import SampleLibrary.Decimal.Binary

/-!
# What an analyzer tells about a file
-/

namespace SampleLibrary

/-- What an analyzer tells about a file. An analyzer need not know everything. -/
structure FileInfo where
  path : String
  sampleRate : Option Int64
  channels : Option Int64
  duration : Option Binary64
  format : Option String
  formatSubtype : Option String
  peakLevel : Option Binary64
  md5 : Option String
  deriving Repr, DecidableEq

def FileInfo.ofPath (path : String) : FileInfo :=
  ⟨path, none, none, none, none, none, none, none⟩

end SampleLibrary
