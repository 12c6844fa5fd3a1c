import SampleLibrary.Decimal.Reading
import SampleLibrary.Pattern.Syntax
import SampleLibrary.Text.Class.Number
import SampleLibrary.Text.Split

/-!
# Written patterns

Patterns are written in the usual way: `.`, sets in brackets, the classes `\d`, `\s` and `\w` for
ASCII, anchors, groups with and without names, greedy and lazy repetitions, and switches such as
`(?i)`. Main definition: `Node.read?`, which refuses whatever is no pattern.
-/

namespace SampleLibrary.Pattern

open Text

/-- The switches that are on. -/
structure Switches where
  foldCase : Bool := false
  multiLine : Bool := false
  dotAll : Bool := false
  lazyFirst : Bool := false
  crlf : Bool := false
  spaced : Bool := false

/-- Where the reader of a pattern stands. -/
structure Reader where
  rest : List Char
  switches : Switches := {}
  groups : Nat := 0
  names : List String := []

abbrev Read := StateT Reader Option

def skipSpace (inComment : Bool) : List Char → List Char
  | [] => []
  | c :: cs =>
    if inComment then skipSpace (c != '\n') cs
    else if isBlank c then skipSpace false cs
    else if c == '#' then skipSpace true cs
    else c :: cs

namespace Read

def peek : Read (Option Char) := return (← get).rest.head?

def peekSecond : Read (Option Char) := return (← get).rest.tail.head?

def advance : Read Unit := modify fun r => { r with rest := r.rest.tail }

/-- Skips what the switch for spaced patterns lets the reader skip. -/
def skip : Read Unit := modify fun r =>
  if r.switches.spaced then { r with rest := skipSpace false r.rest } else r

def advanceSkip : Read Unit := do advance; skip

def take? (front : String) : Read Bool := do
  match afterFront? front.toList (← get).rest with
  | some rest =>
    modify fun r => { r with rest }
    return true
  | none => return false

def expect (c : Char) : Read Unit := do
  guard ((← peek) == some c)
  advance

/-- The longest run of characters that satisfy `p`, with skipping between them if asked for; `fuel`
bounds its length. -/
def run (p : Char → Bool) (skipping : Bool) : Nat → Read (List Char)
  | 0 => return []
  | fuel + 1 => do
    match ← peek with
    | some c =>
      if p c then
        if skipping then advanceSkip else advance
        return c :: (← run p skipping fuel)
      else return []
    | none => return []

def left : Read Nat := return (← get).rest.length

end Read

open Read

/-- A character with a meaning of its own. -/
def isMeta (c : Char) : Bool := "\\.+*?()|[]\x7b\x7d^$#&-~".toList.contains c

/-- May the character follow a backslash to stand for itself? -/
def isEscapable (c : Char) : Bool :=
  isMeta c || (c.toNat < 128 && !isAsciiAlphanumeric c && c != '<' && c != '>')

def isHex (c : Char) : Bool := isDecimal c || ('a' ≤ c && c ≤ 'f') || ('A' ≤ c && c ≤ 'F')

def hexValue (c : Char) : Nat :=
  if isDecimal c then c.toNat - 48 else (asciiLower c).toNat - 87

/-- The character with a code point given in hexadecimal digits. -/
def charOfHex? (digits : List Char) : Option Char :=
  let n := digits.foldl (fun n c => 16 * n + hexValue c) 0
  if digits.isEmpty then none
  else if h : n.isValidChar then some (Char.ofNatAux n h)
  else none

/-- The node of one character, in both cases if cases are folded. -/
def charNode (c : Char) : Read Node := do
  let folded := (← get).switches.foldCase && otherCase c != c
  return .char { CharSet.single c with foldCase := folded }

/-- A code point in hexadecimal, after the letter that announces `width` digits. -/
def readHex (width : Nat) : Read Node := do
  advanceSkip
  if (← peek) == some '{' then
    advanceSkip
    let digits ← run isHex true (← left)
    guard ((← peek) == some '}')
    advanceSkip
    charNode (← charOfHex? digits)
  else
    let digits ← run isHex true width
    guard (digits.length == width)
    charNode (← charOfHex? digits)

def letterClass : Char → Option (List (Char × Char))
  | 'd' => some [('0', '9')]
  | 's' => some [('\t', '\r'), (' ', ' ')]
  | 'w' => some [('0', '9'), ('A', 'Z'), ('_', '_'), ('a', 'z')]
  | _ => none

/-- A word boundary, after the letter: plain, or with the kind in braces. -/
def readBoundary : Read Node := do
  let isKindChar (c : Char) : Bool := ('A' ≤ c && c ≤ 'Z') || ('a' ≤ c && c ≤ 'z') || c == '-'
  let before ← get
  if (← peek) == some '{' then
    advanceSkip
    match ← peek with
    | none => failure
    | some c =>
      if isKindChar c then
        let kind ← run isKindChar true (← left)
        expect '}'
        match String.ofList kind with
        | "start" => return .look .wordStart
        | "end" => return .look .wordEnd
        | "start-half" => return .look .wordStartHalf
        | "end-half" => return .look .wordEndHalf
        | _ => failure
      else
        set before
        return .look .wordBoundary
  else return .look .wordBoundary

/-- What a backslash announces. -/
def readEscape : Read Node := do
  advance
  match ← peek with
  | none => failure
  | some c =>
    match c with
    | 'x' => readHex 2
    | 'u' => readHex 4
    | 'U' => readHex 8
    | _ =>
      advance
      match letterClass (asciiLower c) with
      | some ranges =>
        return .char { items := [⟨ranges, asciiLower c != c⟩] }
      | none =>
        if isEscapable c then charNode c
        else match c with
          | 'a' => charNode '\x07'
          | 'f' => charNode '\x0c'
          | 't' => charNode '\t'
          | 'n' => charNode '\n'
          | 'r' => charNode '\r'
          | 'v' => charNode '\x0b'
          | 'A' => return .look .start
          | 'z' => return .look .stop
          | 'b' => readBoundary
          | 'B' => return .look .noWordBoundary
          | '<' => return .look .wordStart
          | '>' => return .look .wordEnd
          | _ => failure

def namedClass : String → Option (List (Char × Char))
  | "alnum" => some [('0', '9'), ('A', 'Z'), ('a', 'z')]
  | "alpha" => some [('A', 'Z'), ('a', 'z')]
  | "ascii" => some [('\x00', '\x7f')]
  | "blank" => some [('\t', '\t'), (' ', ' ')]
  | "cntrl" => some [('\x00', '\x1f'), ('\x7f', '\x7f')]
  | "digit" => some [('0', '9')]
  | "graph" => some [('!', '~')]
  | "lower" => some [('a', 'z')]
  | "print" => some [(' ', '~')]
  | "punct" => some [('!', '/'), (':', '@'), ('[', Char.ofNat 0x60), ('\x7b', '~')]
  | "space" => some [('\t', '\r'), (' ', ' ')]
  | "upper" => some [('A', 'Z')]
  | "word" => some [('0', '9'), ('A', 'Z'), ('_', '_'), ('a', 'z')]
  | "xdigit" => some [('0', '9'), ('A', 'F'), ('a', 'f')]
  | _ => none

/-- A class with a name inside a set, such as `[:alpha:]`. -/
def readNamedClass : Read CharItem := do
  expect '['
  expect ':'
  let negated ← take? "^"
  let name ← run (· != ':') false (← left)
  guard (← take? ":]")
  return ⟨← namedClass (String.ofList name), negated⟩

def readMember : Read Node := do
  match ← peek with
  | none => failure
  | some '\\' => readEscape
  | some c =>
    advance
    return .char (.single c)

def memberItems : Node → Option (List CharItem)
  | .char set =>
    if set.foldCase then
      some (set.items ++ set.items.map fun item =>
        ⟨item.ranges.map fun (lo, hi) => (otherCase lo, otherCase hi), item.negated⟩)
    else some set.items
  | _ => none

def memberChar? : Node → Option Char
  | .char ⟨[⟨[(lo, hi)], false⟩], false, false⟩ => if lo == hi then some lo else none
  | _ => none

def readRange : Read (List CharItem) := do
  let first ← readMember
  skip
  match ← peek with
  | none => failure
  | some c =>
    let r ← get
    let next := (if r.switches.spaced then skipSpace false r.rest.tail else r.rest.tail).head?
    if c != '-' || next == some ']' || next == some '-' then memberItems first
    else
      advanceSkip
      let second ← readMember
      let lo ← memberChar? first
      let hi ← memberChar? second
      guard (lo ≤ hi)
      return [⟨[(lo, hi)], false⟩]

/-- The members of a set up to its closing bracket; `fuel` bounds their number. -/
def readMembers : Nat → Read (List CharItem)
  | 0 => failure
  | fuel + 1 => do
    skip
    match ← peek with
    | none => failure
    | some '[' =>
      let item ← readNamedClass
      return item :: (← readMembers fuel)
    | some ']' =>
      advance
      return []
    | some c =>
      if (c == '&' || c == '-' || c == '~') && (← peekSecond) == some c then failure
      else
        let items ← readRange
        return items ++ (← readMembers fuel)

/-- The hyphens at the start of a set. -/
def readHyphens : Nat → Read (List CharItem)
  | 0 => return []
  | fuel + 1 => do
    if (← peek) == some '-' then
      advanceSkip
      return ⟨[('-', '-')], false⟩ :: (← readHyphens fuel)
    else return []

/-- A set in brackets. A bracket that closes it right at its start stands for itself. -/
def readSet : Read Node := do
  advanceSkip
  let negated := (← peek) == some '^'
  if negated then advanceSkip
  let hyphens ← readHyphens (← left)
  let closing ← if hyphens.isEmpty && (← peek) == some ']' then do
      advanceSkip
      pure [⟨[(']', ']')], false⟩]
    else pure []
  let items ← readMembers ((← left) + 1)
  return .char { items := hyphens ++ closing ++ items, foldCase := (← get).switches.foldCase, negated }

/-- A count inside braces, below `2 ^ 32`. -/
def readCount : Read Nat := do
  let _ ← run isBlank false (← left)
  let digits ← run isDecimal true (← left)
  let _ ← run isBlank true (← left)
  let n ← Decimal.readDigits? digits
  guard (n < UInt32.size)
  return n

def readLazy : Read Bool := do
  if (← peek) == some '?' then
    advance
    return true
  else return false

/-- A repetition; counts that leave nothing to repeat make nothing, and one time is no repetition. -/
def repeated (low : Nat) (high : Option Nat) (lazyMark : Bool) (body : Node) : Read Node := do
  if low == 0 && high == some 0 then return .empty
  else if low == 1 && high == some 1 then return body
  else return .loop low high (lazyMark == (← get).switches.lazyFirst) body

def readCounted (body : Node) : Read Node := do
  advanceSkip
  let low ← readCount
  let high ← if (← peek) == some ',' then do
      advanceSkip
      if (← peek) == some '}' then pure none else some <$> readCount
    else pure (some low)
  guard ((← peek) == some '}')
  advanceSkip
  let lazyMark ← readLazy
  guard (high.all (low ≤ ·))
  repeated low high lazyMark body

/-- The switches with one turned on or off. -/
def Switches.turn (s : Switches) (on : Bool) : Char → Option Switches
  | 'i' => some { s with foldCase := on }
  | 'm' => some { s with multiLine := on }
  | 's' => some { s with dotAll := on }
  | 'U' => some { s with lazyFirst := on }
  | 'R' => some { s with crlf := on }
  | 'x' => some { s with spaced := on }
  | 'u' => some s
  | _ => none

/-- The switches turned by a list of letters, those after a hyphen off. No letter comes twice. -/
def Switches.turnAll (s : Switches) : List Char → Option Switches
  | letters =>
    let (on, off) := (letters.takeWhile (· != '-'), letters.dropWhile (· != '-'))
    let all := letters.filter (· != '-')
    if all.Nodup && (off.isEmpty || (off.length ≥ 2 && !off.tail.contains '-')) then
      (on.foldlM (fun (s : Switches) c => s.turn true c) s).bind fun (s : Switches) =>
        off.tail.foldlM (fun (s : Switches) c => s.turn false c) s
    else none

def isNameChar (first : Bool) (c : Char) : Bool :=
  c == '_' || (if first then isAlphanumeric c && !numberRanges.has c.toNat
    else isAlphanumeric c || c == '.' || c == '[' || c == ']')

/-- The name of a group, up to the bracket that ends it. No name comes twice. -/
def readName : Read String := do
  let name ← run (· != '>') false (← left)
  expect '>'
  match name with
  | [] => failure
  | c :: cs =>
    let name := String.ofList name
    guard (isNameChar true c && cs.all (isNameChar false) && !(← get).names.contains name)
    modify fun r => { r with names := name :: r.names }
    return name

/-- What opens a group: a numbered group, or only brackets, or only switches. -/
inductive Opening where
  | numbered (index : Nat) (name : Option String)
  | plain
  | switches

def readOpening : Read Opening := do
  advanceSkip
  let rest := (← get).rest
  let starts (front : String) : Bool := front.toList.isPrefixOf rest
  if starts "?=" || starts "?!" || starts "?<=" || starts "?<!" then failure
  if (← take? "?P<") || (← take? "?<") then
    let index := (← get).groups + 1
    modify fun r => { r with groups := index }
    return .numbered index (some (← readName))
  else if ← take? "?" then
    let letters ← run (fun c => c != ':' && c != ')') false (← left)
    let switches ← (← get).switches.turnAll letters
    modify fun r => { r with switches }
    match ← peek with
    | some ':' =>
      advance
      return .plain
    | some ')' =>
      guard !letters.isEmpty
      return .switches
    | _ => failure
  else
    let index := (← get).groups + 1
    modify fun r => { r with groups := index }
    return .numbered index none

/-- A character outside of sets that is no operator. -/
def readAtom (c : Char) : Read Node := do
  let s := (← get).switches
  match c with
  | '\\' => readEscape
  | '[' => readSet
  | '.' =>
    advance
    if s.dotAll then return .char { items := [], negated := true }
    else
      let excluded := if s.crlf then [('\n', '\n'), ('\r', '\r')] else [('\n', '\n')]
      return .char { items := [⟨excluded, true⟩] }
  | '^' =>
    advance
    return .look (if s.multiLine then .startOfLine s.crlf else .start)
  | '$' =>
    advance
    return .look (if s.multiLine then .endOfLine s.crlf else .stop)
  | c =>
    advance
    charNode c

def sequence : List Node → Node
  | [] => .empty
  | [n] => n
  | n :: ns => .seq n (sequence ns)

/-- One of the nodes, the first ones preferred. -/
def choice : List Node → Node
  | [] => .empty
  | [n] => n
  | n :: ns => .either n (choice ns)

/-- The alternatives up to the end of a group or of the pattern. `done` are the finished alternatives
and `parts` the parts of the current one, both last one first; `fuel` bounds the steps. -/
def readChoice (depth : Nat) : (fuel : Nat) → (done parts : List Node) → Read Node
  | 0, _, _ => failure
  | fuel + 1, done, parts => do
    skip
    let finish : Read Node :=
      return choice (sequence parts.reverse :: done).reverse
    match ← peek with
    | none => finish
    | some ')' => if depth == 0 then failure else finish
    | some '|' =>
      advance
      readChoice depth fuel (sequence parts.reverse :: done) []
    | some '(' =>
      let outer := (← get).switches
      match ← readOpening with
      | .switches =>
        expect ')'
        readChoice depth fuel done parts
      | opening =>
        guard (depth + 1 ≤ maxDepth)
        let body ← readChoice (depth + 1) fuel [] []
        expect ')'
        modify fun r => { r with switches := outer }
        let node := match opening with
          | .numbered index name => Node.group index name body
          | _ => body
        readChoice depth fuel done (node :: parts)
    | some c =>
      if c == '?' || c == '*' || c == '+' || c == '{' then
        match parts with
        | [] => failure
        | body :: parts =>
          let node ← if c == '{' then readCounted body else do
            advance
            let lazyMark ← readLazy
            repeated (if c == '+' then 1 else 0) (if c == '?' then some 1 else none) lazyMark body
          readChoice depth fuel done (node :: parts)
      else
        let node ← readAtom c
        readChoice depth fuel done (node :: parts)

/-- The expression that a text writes, if it writes one of bearable size. -/
def Node.read? (cs : List Char) : Option Node := do
  let (node, r) ← StateT.run (readChoice 0 (cs.length + 2) [] []) { rest := cs }
  guard r.rest.isEmpty
  guard (node.bytes + 128 + 16 * (node.groups.length + 1) ≤ maxBytes)
  return node

end SampleLibrary.Pattern
