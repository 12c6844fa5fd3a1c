import SampleLibrary.Metadata.Basic
import SampleLibrary.Text.Case

/-!
# Views of a record

A record is seen as one map of texts, as labelled values for display, and as the document that the
full-text index holds.
-/

namespace SampleLibrary.Metadata

def fixedTexts (m : Metadata) : List (String × String) :=
  Field.all.filterMap fun f => (m.get? f).map fun v => (f.key, v.toText)

def texts (m : Metadata) : Std.ExtTreeMap String String :=
  (Std.ExtTreeMap.ofList m.fixedTexts).insertMany m.custom.toList

/-- A value for display: floats with two places, and the unit of the field. -/
def display (f : Field) (v : Value) : String :=
  let number := match v with
    | .float x => x.toPlaces 2
    | v => v.toText
  match f.unit? with
  | some unit => number ++ " " ++ unit
  | none => number

def labelled (m : Metadata) (key : String) : String × String :=
  let label := match key.toList with
    | '_' :: rest => String.ofList rest
    | _ => key
  let value := match Field.ofKey? key with
    | some f => (m.get? f).map (display f)
    | none => m.custom[key]?
  (Text.capitalize label, value.getD "")

/-- The values that can be found by their words: fields in order, then custom values by key. -/
def indexedValues (m : Metadata) : List String :=
  (Field.all.filter Field.isIndexable).filterMap (fun f => (m.get? f).map Value.toText)
    ++ m.custom.values

end SampleLibrary.Metadata
