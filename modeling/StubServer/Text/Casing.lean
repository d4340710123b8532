import StubServer.Text.CaseTable
import StubServer.Text.CaseContext

namespace StubServer.Text

def imageIn? (rows : List CaseRow) (n : Nat) : Option Nat := rows.findSome? (·.image? n)

def lowerChar (c : Char) : List Char :=
  if c.toNat < 0x80 then [c.toLower]
  else if c = 'İ' then ['i', '\u0307']
  else [((imageIn? lowerRows c.toNat).map Char.ofNat).getD c]

def upperChar (c : Char) : List Char :=
  if c.toNat < 0x80 then [c.toUpper]
  else match upperExpansions.lookup c.toNat with
    | some image => image.map Char.ofNat
    | none => [((imageIn? upperRows c.toNat).map Char.ofNat).getD c]

def nextIsCased : List Char → Bool
  | [] => false
  | c :: rest => if isCaseIgnorable c then nextIsCased rest else isCased c

/-- Lower case of the characters after `before`, which is kept in reverse. A character has the same
lower case everywhere, except that a capital sigma that ends a word becomes the final form. -/
def lowerFrom (before : List Char) : List Char → List Char
  | [] => []
  | c :: rest =>
    (if c = 'Σ' then
        [if nextIsCased before && !nextIsCased rest then 'ς' else 'σ']
      else lowerChar c) ++ lowerFrom (c :: before) rest

def lower (s : String) : String := String.ofList (lowerFrom [] s.toList)

def upper (s : String) : String := String.ofList (s.toList.flatMap upperChar)

def lowerAscii (s : String) : String := String.ofList (s.toList.map Char.toLower)

def upperAscii (s : String) : String := String.ofList (s.toList.map Char.toUpper)

def CaseRow.preimage? (row : CaseRow) (n : Nat) : Option Nat :=
  let m := (n - row.offset : Int).toNat
  if row.image? m = some n then some m else none

def preimagesIn (rows : List CaseRow) (n : Nat) : List Nat := rows.filterMap (·.preimage? n)

def isTurkish (n : Nat) : Bool := n = 0x130 || n = 0x131

/-- All characters of the same letter: the lower case of their upper case is the same. The dotted
and the dotless i of Turkish stay apart from the plain one. -/
def sameLetter (c : Char) : List Char :=
  if isTurkish c.toNat then [c]
  else
    let image (rows : List CaseRow) (n : Nat) := (imageIn? rows n).getD n
    let low := image lowerRows (image upperRows c.toNat)
    let high := image upperRows low
    let others := preimagesIn lowerRows low ++ preimagesIn upperRows high
    c :: Char.ofNat low :: Char.ofNat high ::
      (others.filter (!isTurkish ·)).map Char.ofNat

end StubServer.Text
