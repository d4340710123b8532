namespace StubServer

structure Duration where
  nanos : Nat
  deriving DecidableEq, Repr

namespace Duration

def zero : Duration := ⟨0⟩

def ofMillis (millis : Nat) : Duration := ⟨millis * 1000000⟩

instance : LE Duration := ⟨fun a b => a.nanos ≤ b.nanos⟩

instance (a b : Duration) : Decidable (a ≤ b) := inferInstanceAs (Decidable (a.nanos ≤ b.nanos))

def millis (d : Duration) : Nat := (d.nanos + 999999) / 1000000

def fractionDigits (places fraction : Nat) : List Char :=
  let digits := Nat.toDigits 10 fraction
  let padded := List.replicate (places - digits.length) '0' ++ digits
  (padded.reverse.dropWhile (· = '0')).reverse

def inUnits (nanos places : Nat) : String :=
  let unit := Nat.pow 10 places
  let fraction := if nanos % unit = 0 then [] else fractionDigits places (nanos % unit)
  toString (nanos / unit) ++ (if fraction.isEmpty then "" else "." ++ String.ofList fraction)

def text (d : Duration) : String :=
  if 1000000000 ≤ d.nanos then inUnits d.nanos 9 ++ "s"
  else if 1000000 ≤ d.nanos then inUnits d.nanos 6 ++ "ms"
  else if 1000 ≤ d.nanos then inUnits d.nanos 3 ++ "µs"
  else toString d.nanos ++ "ns"

end Duration

end StubServer
