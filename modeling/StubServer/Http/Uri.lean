import StubServer.Http.Basic
import StubServer.Text.Casing

namespace StubServer.Http

structure Uri where
  scheme : Option String
  authority : Option String
  rawPath : String
  query : Option String
  deriving DecidableEq, Repr

namespace Uri

/-- The path. After a scheme there always is one. -/
def path (uri : Uri) : String :=
  if uri.rawPath.isEmpty ∧ (uri.scheme.isSome ∨ uri.query.isSome) then "/" else uri.rawPath

def text (uri : Uri) : String :=
  (match uri.scheme with | some s => s ++ "://" | none => "") ++ uri.authority.getD "" ++ uri.path
    ++ (match uri.query with | some q => "?" ++ q | none => "")

def lengthLimit : Nat := 1 <<< 16 - 2

def schemeLimit : Nat := 64

def colonLimit : Nat := 8

def isPathByte (b : UInt8) : Bool :=
  b == 0x21 || b == 0x22 || (0x24 ≤ b && b ≤ 0x3b) || b == 0x3d || (0x40 ≤ b && b ≤ 0x5f)
    || 0x61 ≤ b

def isQueryByte (b : UInt8) : Bool :=
  b == 0x21 || (0x24 ≤ b && b ≤ 0x3b) || b == 0x3d || 0x3f ≤ b

def isAuthorityByte (b : UInt8) : Bool :=
  let c := Char.ofNat b.toNat
  c.isAlphanum || "!$&'()*+,-.:;=@[]_~".toList.contains c

def pathAndQuery? (bytes : Bytes) : Option (String × Option String) := do
  let bytes := bytes.takeWhile (· != 0x23)
  let path := bytes.takeWhile (· != 0x3f)
  guard (path.all isPathByte)
  let rest := bytes.drop path.length
  guard (rest.tail.all isQueryByte)
  let path ← Text.Utf8.decode? path
  if rest.isEmpty then return (path, none)
  return (path, some (← Text.Utf8.decode? rest.tail))

/-- What has been seen of an authority: colons and percent signs since the last sign that ends a part,
brackets, and whether the last byte was an at sign. -/
structure AuthorityScan where
  colons : Nat
  opened : Bool
  closed : Bool
  percent : Bool
  endsInAt : Bool

def AuthorityScan.step (s : AuthorityScan) (b : UInt8) : Option AuthorityScan :=
  let s := { s with endsInAt := false }
  match Char.ofNat b.toNat with
  | ':' => if s.colons < colonLimit then some { s with colons := s.colons + 1 } else none
  | '[' => if s.percent || s.opened then none else some { s with opened := true }
  | ']' =>
    if !s.opened || s.closed then none
    else some { s with closed := true, colons := 0, percent := false }
  -- What stood before the at sign was no host.
  | '@' => some { s with colons := 0, percent := false, endsInAt := true }
  | '%' => some { s with percent := true }
  | _ => if isAuthorityByte b then some s else none

def isAuthority (bytes : Bytes) : Bool :=
  match bytes.foldlM AuthorityScan.step ⟨0, false, false, false, false⟩ with
  | some s => s.opened == s.closed && s.colons ≤ 1 && !s.endsInAt && !s.percent
  | none => false

def authorityBytes (bytes : Bytes) : Bytes :=
  bytes.takeWhile fun b => b != 0x2f && b != 0x3f && b != 0x23

def isSchemeByte (b : UInt8) : Bool :=
  let c := Char.ofNat b.toNat
  c.isAlphanum || c = '+' || c = '-' || c = '.'

def scheme? (bytes : Bytes) : Option String :=
  let scheme := bytes.takeWhile isSchemeByte
  if (bytes.drop scheme.length).take 3 = [0x3a, 0x2f, 0x2f] then
    let name := asciiText scheme
    some (if ["http", "https"].contains (Text.lowerAscii name) then Text.lowerAscii name else name)
  else none

def parse? (bytes : Bytes) : Option Uri := do
  guard (bytes.length ≤ lengthLimit)
  match bytes with
  | [] => none
  -- The asterisk stands for the server as a whole.
  | [0x2a] => return ⟨none, none, "*", none⟩
  | 0x2f :: _ =>
    let (path, query) ← pathAndQuery? bytes
    return ⟨none, none, path, query⟩
  | _ =>
    match scheme? bytes with
    | some scheme =>
      guard (scheme.length ≤ schemeLimit)
      let rest := bytes.drop (scheme.length + 3)
      let authority := authorityBytes rest
      guard (!authority.isEmpty && isAuthority authority)
      let (path, query) ← pathAndQuery? (rest.drop authority.length)
      return ⟨some scheme, some (asciiText authority), path, query⟩
    | none =>
      guard (isAuthority bytes && authorityBytes bytes = bytes)
      return ⟨none, some (asciiText bytes), "", none⟩

end Uri

end StubServer.Http
