import SampleLibrary.Text.Class

/-!
# Keys of custom values

A custom key starts with a letter or a digit and goes on, for at least one character, with letters,
digits, underscores, hyphens and spaces. No custom key is the key of a fixed field.
-/

namespace SampleLibrary.CustomKey

def isKeyChar (c : Char) : Bool := Text.isWord c || c == ' ' || c == '-'

def isValid (key : String) : Bool :=
  match key.toList with
  | first :: second :: rest => Text.isAlphanumeric first && (second :: rest).all isKeyChar
  | _ => false

end SampleLibrary.CustomKey
