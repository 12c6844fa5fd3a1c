import SampleLibrary.Pattern.Reading

/-!
# What patterns match

From a position in a text an expression leads to other positions. They are listed in the order of
preference, earlier alternatives first and longer or shorter repetitions first, and each position
only once: coming to it a second time, over a less preferred way, changes nothing.

Main definitions: `Node.outcomes` and `Pattern.matchStart?`, the preferred match that begins where the
text begins.
-/

namespace SampleLibrary

namespace Pattern

/-- A position in a text: what lies before it, nearest character first, and what lies after it. -/
structure Place where
  before : List Char
  after : List Char
  deriving Repr, DecidableEq

/-- Number of characters before the position. -/
def Place.index (p : Place) : Nat := p.before.length

/-- What groups have matched so far, latest first: group, start and end. -/
abbrev Groups := List (Nat × Nat × Nat)

/-- A way through an expression: where it ends and what its groups matched. -/
abbrev Way := Place × Groups

/-- An ASCII letter, digit or underscore. -/
def isWordByte (c : Char) : Bool := Text.isAsciiAlphanumeric c || c == '_'

def Look.holds (l : Look) (p : Place) : Bool :=
  let previous := p.before.head?
  let next := p.after.head?
  let wordBefore := previous.any isWordByte
  let wordAfter := next.any isWordByte
  match l with
  | .start => previous.isNone
  | .stop => next.isNone
  | .startOfLine false => previous.all (· == '\n')
  | .startOfLine true => previous.all fun c => c == '\n' || (c == '\r' && next != some '\n')
  | .endOfLine false => next.all (· == '\n')
  | .endOfLine true => next.all fun c => c == '\r' || (c == '\n' && previous != some '\r')
  | .wordBoundary => wordBefore != wordAfter
  | .noWordBoundary => wordBefore == wordAfter
  | .wordStart => !wordBefore && wordAfter
  | .wordEnd => wordBefore && !wordAfter
  | .wordStartHalf => !wordBefore
  | .wordEndHalf => !wordAfter

/-- The ways that come first to their position. -/
def firstWays (seen : List Nat) : List Way → List Way
  | [] => []
  | w :: ws =>
    if seen.contains w.1.index then firstWays seen ws
    else w :: firstWays (w.1.index :: seen) ws

/-- Ways after ways: from the end of each of the first ones on. -/
def andThen (ws : List Way) (f : Place → Groups → List Way) : List Way :=
  firstWays [] (ws.flatMap fun (p, g) => f p g)

/-- Exactly `n` rounds of `body`. -/
def rounds (body : Place → Groups → List Way) : Nat → Place → Groups → List Way
  | 0, p, g => [(p, g)]
  | n + 1, p, g => andThen (body p g) (rounds body n)

/-- At most `n` further rounds of `body`. -/
def upTo (greedy : Bool) (body : Place → Groups → List Way) : Nat → Place → Groups → List Way
  | 0, p, g => [(p, g)]
  | n + 1, p, g =>
    let more := (body p g).flatMap fun (q, h) => upTo greedy body n q h
    firstWays [] (if greedy then more ++ [(p, g)] else (p, g) :: more)

/-- Any number of further rounds after one that ended with the way `w`. `ended` are the positions
where rounds have ended before; from the position `origin` a round has been tried already. The
answer has the ways in order and the positions where rounds have ended now; `fuel` bounds the number
of characters that are left. -/
def furtherRounds (greedy : Bool) (body : Place → Groups → List Way) (origin : Nat) :
    (fuel : Nat) → (ended : List Nat) → (w : Way) → List Way × List Nat
  | 0, ended, w => if ended.contains w.1.index then ([], ended) else ([w], w.1.index :: ended)
  | fuel + 1, ended, w =>
    if ended.contains w.1.index then ([], ended)
    else
      let next := if w.1.index == origin then [] else body w.1 w.2
      let (more, ended) := next.foldl
        (fun (ways, ended) v =>
          let (further, ended) := furtherRounds greedy body origin fuel ended v
          (ways ++ further, ended))
        ([], w.1.index :: ended)
      (if greedy then more ++ [w] else w :: more, ended)

/-- One round of `body` or more. -/
def oneOrMore (greedy : Bool) (body : Place → Groups → List Way) (p : Place) (g : Groups) :
    List Way :=
  ((body p g).foldl
    (fun (ways, ended) v =>
      let (further, ended) := furtherRounds greedy body p.index (p.after.length + 1) ended v
      (ways ++ further, ended))
    (([], []) : List Way × List Nat)).1

def anyNumber (greedy : Bool) (body : Place → Groups → List Way) (p : Place) (g : Groups) :
    List Way :=
  let more := oneOrMore greedy body p g
  firstWays [] (if greedy then more ++ [(p, g)] else (p, g) :: more)

/-- The ways through an expression from a position, in order of preference. -/
def Node.outcomes : Node → Place → Groups → List Way
  | .empty, p, g => [(p, g)]
  | .char set, p, g =>
    match p.after with
    | [] => []
    | c :: cs => if set.has c then [(⟨c :: p.before, cs⟩, g)] else []
  | .look l, p, g => if l.holds p then [(p, g)] else []
  | .seq a b, p, g => andThen (a.outcomes p g) b.outcomes
  | .either a b, p, g => firstWays [] (a.outcomes p g ++ b.outcomes p g)
  | .group index _ body, p, g =>
    (body.outcomes p g).map fun (q, h) => (q, (index, p.index, q.index) :: h)
  | .loop 0 none greedy body, p, g => anyNumber greedy body.outcomes p g
  | .loop (low + 1) none greedy body, p, g =>
    andThen (rounds body.outcomes low p g) (oneOrMore greedy body.outcomes)
  | .loop low (some high) greedy body, p, g =>
    andThen (rounds body.outcomes low p g) (upTo greedy body.outcomes (high - low))

end Pattern

/-- A pattern: its text and the expression that the text writes. -/
structure Pattern where
  text : String
  node : Pattern.Node
  deriving Repr, DecidableEq

namespace Pattern

def read? (text : String) : Option Pattern := (Node.read? text.toList).map (⟨text, ·⟩)

def groupCount (p : Pattern) : Nat := (p.node.groups.map (·.1)).foldl max 0 + 1

def names (p : Pattern) : List (String × Nat) :=
  p.node.groups.filterMap fun (index, name) => name.map (·, index)

/-- The texts of the groups in a match that begins where the text begins: the whole match first; a
group that took no part is empty. -/
def matchStart? (p : Pattern) (text : String) : Option (List String) :=
  let cs := text.toList
  match p.node.outcomes ⟨[], cs⟩ [] with
  | [] => none
  | (stop, groups) :: _ =>
    let cut (span : Nat × Nat) : String := String.ofList ((cs.drop span.1).take (span.2 - span.1))
    some ((List.range p.groupCount).map fun index =>
      if index == 0 then cut (0, stop.index)
      else ((groups.lookup index).map cut).getD "")

end Pattern

end SampleLibrary
