import SampleLibrary.Text.Class

/-!
# The shape of patterns

A pattern is a regular expression with groups that remember what they matched. This module has its
shape, apart from how it is written and what it matches.
-/

namespace SampleLibrary.Pattern

/-- A part of a character set: some ranges, or everything outside them. -/
structure CharItem where
  ranges : List (Char × Char)
  negated : Bool := false
  deriving Repr, DecidableEq

def CharItem.has (item : CharItem) (c : Char) : Bool :=
  (item.ranges.any fun (lo, hi) => lo ≤ c && c ≤ hi) != item.negated

/-- The same ASCII letter in the other case. -/
def otherCase (c : Char) : Char :=
  if 'a' ≤ c && c ≤ 'z' then Char.ofNat (c.toNat - 32)
  else if 'A' ≤ c && c ≤ 'Z' then Char.ofNat (c.toNat + 32)
  else c

/-- A set of characters: the union of its parts, the letters in both cases if cases are folded, and
all that turned around if it is negated. -/
structure CharSet where
  items : List CharItem
  foldCase : Bool := false
  negated : Bool := false
  deriving Repr, DecidableEq

def CharSet.has (s : CharSet) (c : Char) : Bool :=
  (s.items.any fun item => item.has c || (s.foldCase && item.has (otherCase c))) != s.negated

def CharSet.single (c : Char) : CharSet := { items := [⟨[(c, c)], false⟩] }

/-- What a position in the text can be asked for without moving. -/
inductive Look where
  | start
  | stop
  | startOfLine (crlf : Bool)
  | endOfLine (crlf : Bool)
  | wordBoundary
  | noWordBoundary
  | wordStart
  | wordEnd
  | wordStartHalf
  | wordEndHalf
  deriving Repr, DecidableEq

/-- A regular expression. Groups are numbered from one, in the order in which they open. -/
inductive Node where
  | empty
  | char (set : CharSet)
  | look (l : Look)
  | seq (first second : Node)
  | either (first second : Node)
  | group (index : Nat) (name : Option String) (body : Node)
  | loop (low : Nat) (high : Option Nat) (greedy : Bool) (body : Node)
  deriving Repr, DecidableEq

namespace Node

def groups : Node → List (Nat × Option String)
  | empty | char _ | look _ => []
  | seq a b | either a b => a.groups ++ b.groups
  | group index name body => (index, name) :: body.groups
  | loop _ _ _ body => body.groups

def matchesEmpty : Node → Bool
  | empty | look _ => true
  | char _ => false
  | seq a b => a.matchesEmpty && b.matchesEmpty
  | either a b => a.matchesEmpty || b.matchesEmpty
  | group _ _ body => body.matchesEmpty
  | loop low _ _ body => low == 0 || body.matchesEmpty

/-- The number of bytes that a set of characters takes in the search program. -/
def setBytes (s : CharSet) : Nat :=
  32 + 8 * (s.items.flatMap fun item => item.ranges).length

/-- The number of bytes that the search program of the expression takes. A branching takes 32 bytes
and four for each way on. -/
def bytes : Node → Nat
  | empty | look _ => 32
  | char set => setBytes set
  | seq a b => a.bytes + b.bytes
  | either a b => a.bytes + b.bytes + 72
  | group _ _ body => body.bytes + 80
  | loop 0 (some 1) _ body => body.bytes + 72
  | loop 0 none _ body => body.bytes + if body.matchesEmpty then 112 else 40
  | loop low none _ body => low * body.bytes + 40
  | loop low (some high) _ body =>
    if low == high then low * body.bytes
    else high * body.bytes + 40 * (high - low) + 32

end Node

/-- The largest search program, in bytes. -/
def maxBytes : Nat := 10 * 1024 * 1024

/-- The deepest nesting of groups. -/
def maxDepth : Nat := 50

end SampleLibrary.Pattern
