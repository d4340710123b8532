namespace StubServer.Yaml

structure Cursor where
  rest : List Char
  index : Nat
  line : Nat
  column : Nat
  deriving Repr

def isBreak (c : Char) : Bool :=
  c = '\n' || c = '\r' || c.toNat = 0x85 || c.toNat = 0x2028 || c.toNat = 0x2029

def isGap (c : Char) : Bool := c = ' ' || c = '\t'

def isNameChar (c : Char) : Bool := c.isAlphanum || c = '_' || c = '-'

namespace Cursor

def peek (p : Cursor) (n : Nat) : Option Char := p.rest[n]?

def at? (p : Cursor) (n : Nat) (c : Char) : Bool := p.peek n = some c

def is (p : Cursor) (n : Nat) (f : Char → Bool) : Bool := (p.peek n).any f

def endsWord (p : Cursor) (n : Nat) : Bool := (p.peek n).all fun c => isGap c || isBreak c

def endsLine (p : Cursor) : Bool := (p.peek 0).all isBreak

def skip (p : Cursor) : Cursor := ⟨p.rest.tail, p.index + 1, p.line, p.column + 1⟩

def skipN (p : Cursor) (n : Nat) : Cursor := ⟨p.rest.drop n, p.index + n, p.line, p.column + n⟩

/-- Past the line end that stands here, with the characters that it contributes to a scalar. -/
def readBreak (p : Cursor) : List Char × Cursor :=
  match p.rest with
  | '\r' :: '\n' :: rest => (['\n'], ⟨rest, p.index + 2, p.line + 1, 0⟩)
  | c :: rest =>
    let next : Cursor := ⟨rest, p.index + 1, p.line + 1, 0⟩
    if c = '\n' ∨ c = '\r' ∨ c.toNat = 0x85 then (['\n'], next)
    else if isBreak c then ([c], next)
    else ([], p)
  | [] => ([], p)

def skipBreak (p : Cursor) : Cursor := p.readBreak.2

def takeWhile (p : Cursor) (f : Char → Bool) : List Char × Cursor :=
  let taken := p.rest.takeWhile f
  (taken, p.skipN taken.length)

def skipWhile (p : Cursor) (f : Char → Bool) : Cursor := (p.takeWhile f).2

def skipLine (p : Cursor) : Cursor := p.skipWhile fun c => !isBreak c

def atDocumentMark (p : Cursor) (c : Char) : Bool :=
  p.column = 0 && p.at? 0 c && p.at? 1 c && p.at? 2 c && p.endsWord 3

def atAnyDocumentMark (p : Cursor) : Bool := p.atDocumentMark '-' || p.atDocumentMark '.'

end Cursor

def isAllowed (c : Char) : Bool :=
  let n := c.toNat
  n = 9 || n = 0xa || n = 0xd || (0x20 ≤ n && n ≤ 0x7e) || n = 0x85 || (0xa0 ≤ n && n ≤ 0xd7ff)
    || (0xe000 ≤ n && n ≤ 0xfffd && n ≠ 0xfeff) || 0x10000 ≤ n

def Cursor.ofText? (s : String) : Option Cursor :=
  let cs := match s.toList with
    | '\ufeff' :: rest => rest
    | cs => cs
  if cs.all isAllowed then some ⟨cs, 0, 0, 0⟩ else none

end StubServer.Yaml
