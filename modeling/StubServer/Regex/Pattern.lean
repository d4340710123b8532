import StubServer.Regex.CharClass

namespace StubServer.Regex

inductive WordEdge where
  | boundary
  | interior
  | start
  | finish
  | halfStart
  | halfFinish
  deriving DecidableEq, Repr

inductive Anchor where
  | textStart
  | textEnd
  | lineStart
  | lineEnd
  | anyLineStart
  | anyLineEnd
  | word (edge : WordEdge) (ascii : Bool)
  deriving DecidableEq, Repr

inductive Pattern (χ α : Type) where
  | empty
  | one (c : χ)
  | check (a : α)
  | seq (p q : Pattern χ α)
  | alt (p q : Pattern χ α)
  | times (p : Pattern χ α) (least : Nat) (most : Option Nat)
  deriving Repr

namespace Anchor

def inWord (ascii : Bool) : Option Char → Bool
  | none => false
  | some c => if ascii then c.isAlphanum || c = '_' else Text.isWordChar c

def holds (before after : Option Char) : Anchor → Bool
  | .textStart => before.isNone
  | .textEnd => after.isNone
  | .lineStart => before.isNone || before = some '\n'
  | .lineEnd => after.isNone || after = some '\n'
  | .anyLineStart =>
    before.isNone || before = some '\n' || (before = some '\r' && after != some '\n')
  | .anyLineEnd =>
    after.isNone || after = some '\r' || (after = some '\n' && before != some '\r')
  | .word edge ascii =>
    let left := inWord ascii before
    let right := inWord ascii after
    match edge with
    | .boundary => left != right
    | .interior => left == right
    | .start => !left && right
    | .finish => left && !right
    | .halfStart => !left
    | .halfFinish => !right

end Anchor

namespace Pattern

def map {χ α χ' α' : Type} (f : χ → χ') (g : α → α') : Pattern χ α → Pattern χ' α'
  | .empty => .empty
  | .one c => .one (f c)
  | .check a => .check (g a)
  | .seq p q => .seq (p.map f g) (q.map f g)
  | .alt p q => .alt (p.map f g) (q.map f g)
  | .times p least most => .times (p.map f g) least most

def placesOf : List Bool → Nat
  | [] => 0
  | b :: rest => 2 * placesOf rest + b.toNat

def charPlaces (text : List Char) (c : CharClass) : Nat := placesOf (text.map c.mem)

def anchorHolds (a : Anchor) (before : Option Char) : List Char → List Bool
  | [] => [a.holds before none]
  | c :: rest => a.holds before (some c) :: anchorHolds a (some c) rest

def anchorPlaces (text : List Char) (a : Anchor) : Nat := placesOf (anchorHolds a none text)

def repeated (step : Nat → Nat) : Nat → Nat → Nat
  | 0, places => places
  | k + 1, places =>
    let next := step places
    if next = places then places else repeated step k next

/-- All places reached from `fresh` by up to `k` steps, besides those already `seen`. -/
def closure (step : Nat → Nat) : Nat → Nat → Nat → Nat
  | 0, seen, _ => seen
  | k + 1, seen, fresh =>
    let next := step fresh
    let new := next ^^^ (next &&& seen)
    if new = 0 then seen else closure step k (seen ||| new) new

/-- The places where a match may end that begins at one of the given places. Conditions are sets of
places already, of a text with `length` characters; a set of places is a number with one bit for
each. -/
def reach (length : Nat) : Pattern Nat Nat → Nat → Nat
  | .empty, places => places
  | .one chars, places => (places &&& chars) <<< 1
  | .check holds, places => places &&& holds
  | .seq p q, places => reach length q (reach length p places)
  | .alt p q, places => reach length p places ||| reach length q places
  | .times p least most, places =>
    let start := repeated (reach length p) least places
    let rounds := match most with
      | some most => min (most - least) (length + 1)
      | none => length + 1
    closure (reach length p) rounds start start

def occursIn (p : Pattern CharClass Anchor) (text : List Char) : Bool :=
  let placed := p.map (charPlaces text) (anchorPlaces text)
  reach text.length placed (1 <<< (text.length + 1) - 1) != 0

def classSize (c : CharClass) : Nat :=
  if c.isAscii then 24 + 8 * c.extent else 62 * c.extent + 32

/-- About the room the pattern takes once it is compiled, in bytes: repeated parts count as often as
they are written out. -/
def size {α : Type} : Pattern CharClass α → Nat
  | .empty => 0
  | .one c => classSize c
  | .check _ => 32
  | .seq p q => p.size + q.size
  | .alt p q => p.size + q.size + 32
  | .times p least most => (p.size + 32) * max 1 (most.getD least)

end Pattern

end StubServer.Regex
