namespace StubServer

abbrev Bytes := List UInt8

namespace Text.Utf8

def encodeChar (c : Char) : Bytes :=
  let n := c.toNat
  if n < 0x80 then [n.toUInt8]
  else if n < 0x800 then [(0xc0 + n / 64).toUInt8, (0x80 + n % 64).toUInt8]
  else if n < 0x10000 then
    [(0xe0 + n / 4096).toUInt8, (0x80 + n / 64 % 64).toUInt8, (0x80 + n % 64).toUInt8]
  else
    [(0xf0 + n / 262144).toUInt8, (0x80 + n / 4096 % 64).toUInt8, (0x80 + n / 64 % 64).toUInt8,
      (0x80 + n % 64).toUInt8]

def encode (s : String) : Bytes := s.toList.flatMap encodeChar

/-- Where a reader stands: between characters, or inside one whose bytes so far make `value`, with
`owed` more to come and the next of them between `low` and `high`. -/
inductive Reading where
  | between
  | inside (value owed low high : Nat)
  deriving DecidableEq, Repr

def start (b : Nat) : List (Option Char) × Reading :=
  -- The second byte is bounded so that there are no overlong forms, no surrogates and nothing
  -- beyond the last code point.
  if b < 0x80 then ([some (Char.ofNat b)], .between)
  else if b < 0xc2 then ([none], .between)
  else if b < 0xe0 then ([], .inside (b - 0xc0) 1 0x80 0xbf)
  else if b = 0xe0 then ([], .inside 0 2 0xa0 0xbf)
  else if b = 0xed then ([], .inside 13 2 0x80 0x9f)
  else if b < 0xf0 then ([], .inside (b - 0xe0) 2 0x80 0xbf)
  else if b = 0xf0 then ([], .inside 0 3 0x90 0xbf)
  else if b < 0xf4 then ([], .inside (b - 0xf0) 3 0x80 0xbf)
  else if b = 0xf4 then ([], .inside 4 3 0x80 0x8f)
  else ([none], .between)

/-- Takes one byte. A byte that cannot continue the character ends it as a hole and begins anew. -/
def feed : Reading → Nat → List (Option Char) × Reading
  | .between, b => start b
  | .inside value owed low high, b =>
    if low ≤ b ∧ b ≤ high then
      let value := value * 64 + (b - 0x80)
      if owed ≤ 1 then ([some (Char.ofNat value)], .between)
      else ([], .inside value (owed - 1) 0x80 0xbf)
    else
      let (out, next) := start b
      (none :: out, next)

/-- Every byte sequence has a reading: a list of characters, with a hole for each ill-formed part. A
part is as long as the bytes that could still have begun a character. -/
def scan : Reading → Bytes → List (Option Char)
  | .between, [] => []
  | .inside .., [] => [none]
  | r, b :: rest =>
    let (out, next) := feed r b.toNat
    out ++ scan next rest

def decode? (bytes : Bytes) : Option String :=
  (scan .between bytes).mapM id |>.map String.ofList

def replacement : Char := '\ufffd'

def decodeLossy (bytes : Bytes) : String :=
  String.ofList ((scan .between bytes).map (·.getD replacement))

end Text.Utf8

end StubServer
