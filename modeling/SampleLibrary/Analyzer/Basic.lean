import SampleLibrary.Digest.Md5
import SampleLibrary.FileInfo
import SampleLibrary.Files.Basic
import SampleLibrary.Text.Case

/-!
# Analyzers

An analyzer tells what it knows about a file. The basic one computes the checksum of the content and
takes the format from the name.
-/

namespace SampleLibrary

/-- Why a file cannot be analyzed. -/
inductive AnalyzerError where
  | notAFile (path : String)
  | readFailed (path : String)
  deriving Repr, DecidableEq

def AnalyzerError.message : AnalyzerError → String
  | notAFile path => "Not a file: " ++ path
  | readFailed path => "Failed to read " ++ path

/-- An analyzer, which may keep something in `σ` from one file to the next. -/
structure Analyzer (σ : Type) where
  name : String
  analyze : Files → String → σ → Except AnalyzerError FileInfo × σ

namespace Analyzer

def checksum (fs : Files) (path : String) : Except AnalyzerError String :=
  match fs.read path with
  | .ok data => .ok (Md5.checksum data)
  | .error _ => .error (.readFailed path)

/-- The format of a file: its extension in capitals. -/
def format? (path : String) : Option String := do
  let name ← Path.fileName? path
  let extension ← (Path.splitExtension name).2
  if extension.isEmpty then none else some (Text.uppercase extension)

def inspect (fs : Files) (path : String) : Except AnalyzerError FileInfo :=
  if fs.isFile path then
    (checksum fs path).map fun md5 =>
      { FileInfo.ofPath path with format := format? path, md5 := some md5 }
  else .error (.notAFile path)

def basic : Analyzer Unit := ⟨"basic", fun fs path kept => (inspect fs path, kept)⟩

end Analyzer

end SampleLibrary
