import SampleLibrary.Text.Class

/-!
# Strings of TOML

Strings stand between quotes. Between double quotes a backslash starts an escape, between single
quotes every character stands for itself. Three quotes make a string that may go over several lines.
-/

namespace SampleLibrary.Toml

/-- A reader returns what it has read and what follows. -/
abbrev Reader (α : Type) := List Char → Option (α × List Char)

def isSpace (c : Char) : Bool := c == ' ' || c == '\t'

def isPlain (c : Char) : Bool := c == '\t' || (' ' ≤ c && c != '\x7f')

def hexDigit? (c : Char) : Option Nat :=
  if Text.isDecimal c then some (c.toNat - '0'.toNat)
  else if 'a' ≤ c && c ≤ 'f' then some (c.toNat - 'a'.toNat + 10)
  else if 'A' ≤ c && c ≤ 'F' then some (c.toNat - 'A'.toNat + 10)
  else none

/-- The character whose number is written in hexadecimal digits. -/
def scalar? (digits : List Char) : Option Char := do
  let n := (← digits.mapM hexDigit?).foldl (fun n d => 16 * n + d) 0
  if h : n.isValidChar then some ⟨n.toUInt32, by
    rcases h with h | ⟨h₁, h₂⟩
    · exact Or.inl (by simp [Nat.toUInt32, UInt32.toNat_ofNat']; omega)
    · exact Or.inr (by simp [Nat.toUInt32, UInt32.toNat_ofNat']; omega)⟩
  else none

/-- The character that a letter after a backslash stands for. -/
def escape? : Char → Option Char
  | 'b' => some '\x08'
  | 't' => some '\t'
  | 'n' => some '\n'
  | 'f' => some '\x0c'
  | 'r' => some '\r'
  | '"' => some '"'
  | '\\' => some '\\'
  | _ => none

def escaped? : Reader Char
  | 'u' :: a :: b :: c :: d :: rest => (scalar? [a, b, c, d]).map (·, rest)
  | c :: rest =>
    if c == 'U' then
      if rest.length < 8 then none else (scalar? (rest.take 8)).map (·, rest.drop 8)
    else (escape? c).map (·, rest)
  | [] => none

theorem length_lt_of_escaped? {cs rest : List Char} {c : Char} (h : escaped? cs = some (c, rest)) :
    rest.length < cs.length := by
  unfold escaped? at h
  split at h
  · simp only [Option.map_eq_some_iff, Prod.mk.injEq] at h
    obtain ⟨_, _, _, rfl⟩ := h
    simp only [List.length_cons]; omega
  · split at h
    · split at h
      · cases h
      · simp only [Option.map_eq_some_iff, Prod.mk.injEq] at h
        obtain ⟨_, _, _, rfl⟩ := h
        simp only [List.length_drop, List.length_cons]; omega
    · simp only [Option.map_eq_some_iff, Prod.mk.injEq] at h
      obtain ⟨_, _, _, rfl⟩ := h
      simp
  · cases h

def andThen (c : Char) (read : Option (List Char × List Char)) : Option (List Char × List Char) :=
  read.map fun (text, rest) => (c :: text, rest)

def afterNewline? : List Char → Option (List Char)
  | '\n' :: rest => some rest
  | '\r' :: '\n' :: rest => some rest
  | _ => none

def skipLines : List Char → List Char
  | [] => []
  | '\r' :: '\n' :: rest => skipLines rest
  | c :: rest => if isSpace c || c == '\n' then skipLines rest else c :: rest

theorem length_skipLines_le (cs : List Char) : (skipLines cs).length ≤ cs.length := by
  fun_induction skipLines cs <;> simp_all only [List.length_cons, List.length_nil] <;> omega

def readBasic : List Char → Option (List Char × List Char)
  | [] => none
  | '"' :: rest => some ([], rest)
  | '\\' :: rest =>
    match h : escaped? rest with
    | some (c, after) =>
      have := length_lt_of_escaped? h
      andThen c (readBasic after)
    | none => none
  | c :: rest => if isPlain c then andThen c (readBasic rest) else none
termination_by cs => cs.length

/-- Reads a string up to its three double quotes; up to two more quotes in front of them belong to the
string. A backslash at the end of a line takes away all blanks that follow. -/
def readLongBasic : List Char → Option (List Char × List Char)
  | [] => none
  | '"' :: '"' :: '"' :: '"' :: '"' :: rest => some (['"', '"'], rest)
  | '"' :: '"' :: '"' :: '"' :: rest => some (['"'], rest)
  | '"' :: '"' :: '"' :: rest => some ([], rest)
  | '\r' :: '\n' :: rest => andThen '\n' (readLongBasic rest)
  | '\n' :: rest => andThen '\n' (readLongBasic rest)
  | '\\' :: rest =>
    if (afterNewline? (rest.dropWhile isSpace)).isSome then
      have := length_skipLines_le rest
      readLongBasic (skipLines rest)
    else match h : escaped? rest with
      | some (c, after) =>
        have := length_lt_of_escaped? h
        andThen c (readLongBasic after)
      | none => none
  | c :: rest => if isPlain c then andThen c (readLongBasic rest) else none
termination_by cs => cs.length

def readLiteral : List Char → Option (List Char × List Char)
  | [] => none
  | '\'' :: rest => some ([], rest)
  | c :: rest => if isPlain c then andThen c (readLiteral rest) else none

/-- Reads a string up to its three single quotes; up to two more quotes in front of them belong to the
string. -/
def readLongLiteral : List Char → Option (List Char × List Char)
  | [] => none
  | '\'' :: '\'' :: '\'' :: '\'' :: '\'' :: rest => some (['\'', '\''], rest)
  | '\'' :: '\'' :: '\'' :: '\'' :: rest => some (['\''], rest)
  | '\'' :: '\'' :: '\'' :: rest => some ([], rest)
  | '\r' :: '\n' :: rest => andThen '\n' (readLongLiteral rest)
  | '\n' :: rest => andThen '\n' (readLongLiteral rest)
  | c :: rest => if isPlain c then andThen c (readLongLiteral rest) else none

def dropNewline (cs : List Char) : List Char := (afterNewline? cs).getD cs

def readShort : Reader String
  | '"' :: rest => (readBasic rest).map fun (text, rest) => (String.ofList text, rest)
  | '\'' :: rest => (readLiteral rest).map fun (text, rest) => (String.ofList text, rest)
  | _ => none

def readString : Reader String
  | '"' :: '"' :: '"' :: rest =>
    (readLongBasic (dropNewline rest)).map fun (text, rest) => (String.ofList text, rest)
  | '\'' :: '\'' :: '\'' :: rest =>
    (readLongLiteral (dropNewline rest)).map fun (text, rest) => (String.ofList text, rest)
  | cs => readShort cs

end SampleLibrary.Toml
