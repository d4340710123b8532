import StubServer.Json.Value
import StubServer.Decimal.FloatText

namespace StubServer.Json

structure NumberText where
  negative : Bool
  whole : List Nat
  fraction : Option (List Nat)
  exponent : Option (Bool × List Nat)
  deriving Repr

def wordMax : Nat := 1 <<< 64 - 1

def gather : Nat → List Nat → Nat × List Nat
  | s, [] => (s, [])
  | s, d :: rest => if s * 10 + d ≤ wordMax then gather (s * 10 + d) rest else (s, d :: rest)

def digitsValue (digits : List Nat) : Nat := digits.foldl (fun n d => n * 10 + d) 0

def signed (negative : Bool) (x : Float) : Number := .float (if negative then -x else x)

/-- An integer that fits a word. A negative one that fits no signed word, or zero, is a float. -/
def ofWord (negative : Bool) (n : Nat) : Number :=
  if !negative then .int n
  else if n = 0 ∨ 1 <<< 63 < n then .float (-n.toUInt64.toFloat)
  else .int (-n)

namespace NumberText

def value? (t : NumberText) : Option Number :=
  let (s, left) := gather 0 t.whole
  let (s, shift) : Nat × Int := match t.fraction with
    | none => (s, left.length)
    | some digits =>
      let (s', ignored) := gather s digits
      (s', (left.length : Int) - (digits.length - ignored.length : Nat))
  match t.fraction, t.exponent with
  | none, none =>
    if left.isEmpty then some (ofWord t.negative s)
    else (Decimal.scaled? s shift).map (signed t.negative)
  | _, none => (Decimal.scaled? s shift).map (signed t.negative)
  | _, some (down, digits) =>
    let e := digitsValue digits
    if 1 <<< 31 ≤ e then
      -- An exponent of this size makes any number zero or too large.
      if s ≠ 0 ∧ !down then none else some (signed t.negative 0.0)
    else
      (Decimal.scaled? s (if down then shift - e else shift + e)).map (signed t.negative)

end NumberText

end StubServer.Json
