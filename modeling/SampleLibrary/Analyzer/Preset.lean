import SampleLibrary.Analyzer.Basic

/-!
# Prepared answers

An analyzer that does not look at files but has an answer ready for some paths, and that remembers
what it was asked for.
-/

namespace SampleLibrary

/-- Answers by path, and the paths that were asked for. -/
structure Preset where
  answers : Std.ExtTreeMap (List String) FileInfo := ∅
  calls : List String := []

namespace Preset

def answer (p : Preset) (path : String) (info : FileInfo) : Preset :=
  { p with answers := p.answers.insert (Path.identity path) info }

def analyze (path : String) (p : Preset) : Except AnalyzerError FileInfo × Preset :=
  let outcome := match p.answers[Path.identity path]? with
    | some info => .ok info
    | none => .error (.notAFile path)
  (outcome, { p with calls := p.calls ++ [path] })

end Preset

def Analyzer.preset : Analyzer Preset := ⟨"mock", fun _ => Preset.analyze⟩

end SampleLibrary
