import StubServer.Decimal.Shortest

namespace StubServer.Decimal

/-- How decimals are written: positional while the exponent of the leading digit lies between
`lowest` and `highest`, with an exponent beyond. -/
structure Notation where
  lowest : Int
  highest : Int
  plusSign : Bool
  deriving DecidableEq, Repr

def jsonNotation : Notation := ⟨-5, 15, true⟩

def zeros (count : Nat) : List Char := List.replicate count '0'

def positional (digits : List Char) (leading : Int) : List Char :=
  if leading < 0 then ['0', '.'] ++ zeros (-leading - 1).toNat ++ digits
  else
    let whole := leading.toNat + 1
    let front := digits.take whole ++ zeros (whole - digits.length)
    let back := digits.drop whole
    front ++ ['.'] ++ if back.isEmpty then ['0'] else back

def exponential (plusSign : Bool) (digits : List Char) (leading : Int) : List Char :=
  let point := match digits with
    | [] => []
    | [d] => [d]
    | d :: rest => d :: '.' :: rest
  let sign := if leading < 0 then ['-'] else if plusSign then ['+'] else []
  point ++ ['e'] ++ sign ++ Nat.toDigits 10 leading.natAbs

def Notation.write (style : Notation) (x : Digits) : List Char :=
  let digits := Nat.toDigits 10 x.digits
  let leading := x.exponent + digits.length - 1
  if style.lowest ≤ leading ∧ leading ≤ style.highest then positional digits leading
  else exponential style.plusSign digits leading

def Notation.floatText (style : Notation) (x : Float) : String :=
  let magnitude := match Binary.ofBits? x.toBits with
    | some b => style.write b.shortest
    | none => ['0', '.', '0']
  String.ofList (if x.toBits.toNat >>> 63 = 1 then '-' :: magnitude else magnitude)

/-- The float nearest to `digits · 10 ^ exponent`. Exponents far outside the range of floats are cut
first, so that no huge power is ever built. -/
def nearest (digits : Nat) (exponent : Int) : Float :=
  let size : Int := (Nat.toDigits 10 digits).length
  if digits = 0 then 0.0
  else if size + exponent > 400 then 1.0 / 0.0
  else if size + exponent < -400 then 0.0
  else if 0 ≤ exponent then Float.ofScientific digits false exponent.toNat
  else Float.ofScientific digits true (-exponent).toNat

def powerOfTen (n : Nat) : Float := Float.ofScientific 1 false n

def scaleDown (x : Float) (amount : Nat) : Float :=
  if h : amount ≤ 308 then x / powerOfTen amount
  else if x == 0.0 then x
  else scaleDown (x / powerOfTen 308) (amount - 308)
termination_by amount

/-- What a fast reader makes of `significand · 10 ^ exponent`, by one rounding of the significand
and one of the scaling; nothing when the result is too large. -/
def scaled? (significand : Nat) (exponent : Int) : Option Float :=
  let x := significand.toUInt64.toFloat
  if exponent < 0 then some (scaleDown x exponent.natAbs)
  else if 308 < exponent then if x == 0.0 then some x else none
  else
    let y := x * powerOfTen exponent.toNat
    if y.isInf then none else some y

end StubServer.Decimal
