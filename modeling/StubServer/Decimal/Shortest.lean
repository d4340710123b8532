namespace StubServer.Decimal

/-- A positive finite number `mantissa · 2 ^ exponent`. `atEdge` says that the next number below is
nearer than the next one above. -/
structure Binary where
  mantissa : Nat
  exponent : Int
  atEdge : Bool
  deriving DecidableEq, Repr

structure Digits where
  digits : Nat
  exponent : Int
  deriving DecidableEq, Repr

def Binary.ofBits? (bits : UInt64) : Option Binary :=
  let fraction : Nat := bits.toNat % 1 <<< 52
  let field : Nat := bits.toNat >>> 52 % 2048
  if field = 2047 then none
  else if field = 0 then
    if fraction = 0 then none else some ⟨fraction, -1074, false⟩
  else some ⟨1 <<< 52 + fraction, (field : Int) - 1075, fraction = 0 ∧ 1 < field⟩

def scaled (n : Nat) (e : Int) : Nat × Nat :=
  if 0 ≤ e then (n <<< e.toNat, 1) else (n, 1 <<< (-e).toNat)

def width (n : Nat) : Nat := (Nat.toDigits 10 n).length

def leading (n d : Nat) : Int :=
  if d ≤ n then (width (n / d) : Int) - 1
  else
    let guess := width d - width n
    if d ≤ n * Nat.pow 10 guess then -(guess : Int) else -(guess : Int) - 1

def Digits.fraction (x : Digits) : Nat × Nat :=
  if 0 ≤ x.exponent then (x.digits * Nat.pow 10 x.exponent.toNat, 1)
  else (x.digits, Nat.pow 10 (-x.exponent).toNat)

def Binary.holds (b : Binary) (x : Digits) : Bool :=
  let (n, d) := x.fraction
  let (low, unit) := scaled (4 * b.mantissa - (if b.atEdge then 1 else 2)) (b.exponent - 2)
  let (high, _) := scaled (4 * b.mantissa + 2) (b.exponent - 2)
  -- The ends of the interval round to the even mantissa.
  if b.mantissa % 2 = 0 then low * d ≤ n * unit && n * unit ≤ high * d
  else low * d < n * unit && n * unit < high * d

/-- The point of the grid with `count` digits that stands for the number, if one does. -/
def Binary.onGrid? (b : Binary) (count : Nat) : Option Digits :=
  let (n, d) := scaled b.mantissa b.exponent
  let exponent := leading n d - (count : Int) + 1
  let (n, d) := if 0 ≤ exponent then (n, d * Nat.pow 10 exponent.toNat)
    else (n * Nat.pow 10 (-exponent).toNat, d)
  let below : Digits := ⟨n / d, exponent⟩
  let above : Digits := ⟨n / d + 1, exponent⟩
  match b.holds below, b.holds above with
  | true, true =>
    -- The nearer one, and of two that are equally near the even one.
    let twice := 2 * (n % d)
    if twice < d ∨ (twice = d ∧ below.digits % 2 = 0) then some below else some above
  | true, false => some below
  | false, true => some above
  | false, false => none

def Digits.trim (x : Digits) : Nat → Digits
  | 0 => x
  | fuel + 1 => if x.digits % 10 = 0 ∧ x.digits ≠ 0
      then Digits.trim ⟨x.digits / 10, x.exponent + 1⟩ fuel else x

/-- The shortest decimal that reads back as the number: a point of the first grid that has one among
the reals that round to it, and of two such points the nearer. Seventeen digits always do. -/
def Binary.shortest (b : Binary) : Digits :=
  (((List.range 17).findSome? fun i => b.onGrid? (i + 1)).getD ⟨b.mantissa, 0⟩).trim 20

end StubServer.Decimal
