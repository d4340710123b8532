import StubServer.Text.Casing
import StubServer.Text.Category
import StubServer.Text.Script
import StubServer.Text.Traits

namespace StubServer.Regex

inductive Property where
  | any
  | assigned
  | category (code : String)
  | group (letter : Char)
  | casedLetter
  | script (code : String)
  | alphabetic
  | uppercase
  | lowercase
  | blank
  | word
  | cased
  | caseIgnorable
  | nameStart
  | namePart
  | plainNameStart
  | plainNamePart
  | trait (t : Text.Trait)
  deriving DecidableEq, Repr

def otherUppercase : List (Nat × Nat) :=
  [(0x2160, 0x216f), (0x24b6, 0x24cf), (0x1f130, 0x1f149), (0x1f150, 0x1f169), (0x1f170, 0x1f189)]

def otherLowercase : List (Nat × Nat) :=
  [(0xaa, 0xaa), (0xba, 0xba), (0x2b0, 0x2b8), (0x2c0, 0x2c1), (0x2e0, 0x2e4), (0x345, 0x345),
   (0x37a, 0x37a), (0x10fc, 0x10fc), (0x1d2c, 0x1d6a), (0x1d78, 0x1d78), (0x1d9b, 0x1dbf),
   (0x2071, 0x2071), (0x207f, 0x207f), (0x2090, 0x209c), (0x2170, 0x217f), (0x24d0, 0x24e9),
   (0x2c7c, 0x2c7d), (0xa69c, 0xa69d), (0xa770, 0xa770), (0xa7f1, 0xa7f4), (0xa7f8, 0xa7f9),
   (0xab5c, 0xab5f), (0xab69, 0xab69), (0x10780, 0x10780), (0x10783, 0x10785),
   (0x10787, 0x107b0), (0x107b2, 0x107ba), (0x1e030, 0x1e06d)]

def otherNameStart : List (Nat × Nat) :=
  [(0x1885, 0x1886), (0x2118, 0x2118), (0x212e, 0x212e), (0x309b, 0x309c)]

def otherNamePart : List (Nat × Nat) :=
  [(0xb7, 0xb7), (0x387, 0x387), (0x1369, 0x1371), (0x19da, 0x19da), (0x200c, 0x200d),
   (0x30fb, 0x30fb), (0xff65, 0xff65)]

def unstableInNames : List (Nat × Nat) :=
  [(0x37a, 0x37a), (0x309b, 0x309c), (0xfc5e, 0xfc63), (0xfdfa, 0xfdfb), (0xfe70, 0xfe70),
   (0xfe72, 0xfe72), (0xfe74, 0xfe74), (0xfe76, 0xfe76), (0xfe78, 0xfe78), (0xfe7a, 0xfe7a),
   (0xfe7c, 0xfe7c), (0xfe7e, 0xfe7e)]

def unstableAtStart : List (Nat × Nat) :=
  [(0xe33, 0xe33), (0xeb3, 0xeb3), (0xff9e, 0xff9f)]

def isNameStart (c : Char) : Bool :=
  (Text.inGroup 'L' (Text.category c) || Text.category c = "Nl"
    || Text.inRanges otherNameStart c.toNat) && !Text.Trait.holds c .patternSyntax

def isNamePart (c : Char) : Bool :=
  isNameStart c || ["Mn", "Mc", "Nd", "Pc"].contains (Text.category c)
    || Text.inRanges otherNamePart c.toNat

def Property.holds (c : Char) : Property → Bool
  | .any => true
  | .assigned => Text.category c != "Cn"
  | .category code => Text.category c = code
  | .group letter => Text.inGroup letter (Text.category c)
  | .casedLetter => ["Lu", "Ll", "Lt"].contains (Text.category c)
  | .script code => Text.script c = code
  | .alphabetic => Text.isAlphabetic c
  | .uppercase => Text.category c = "Lu" || Text.inRanges otherUppercase c.toNat
  | .lowercase => Text.category c = "Ll" || Text.inRanges otherLowercase c.toNat
  | .blank => Text.isBlank c
  | .word => Text.isWordChar c
  | .cased => Text.isCased c
  | .caseIgnorable => Text.isCaseIgnorable c
  | .nameStart => isNameStart c
  | .namePart => isNamePart c
  | .plainNameStart => isNameStart c && !Text.inRanges unstableInNames c.toNat
    && !Text.inRanges unstableAtStart c.toNat
  | .plainNamePart => isNamePart c && !Text.inRanges unstableInNames c.toNat
  | .trait t => Text.Trait.holds c t

/-- About how many ranges it takes to list the characters with the property. -/
def Property.extent : Property → Nat
  | .any => 1
  | .assigned => 736
  | .category code => (Text.categoryRuns.filter (·.kind = code)).length
  | .group _ | .casedLetter | .alphabetic | .uppercase | .lowercase => 600
  | .script code => (Text.scriptRuns.filter (·.kind = code)).length
  | .blank => 10
  | .word => 802
  | .cased => 158
  | .caseIgnorable => 464
  | .nameStart | .namePart | .plainNameStart | .plainNamePart => 700
  | .trait t => (t.runs.filter (·.kind = "Y")).length

inductive CharClass where
  | range (first last : Char)
  | property (p : Property)
  | nothing
  | union (a b : CharClass)
  | inter (a b : CharClass)
  | diff (a b : CharClass)
  | symmDiff (a b : CharClass)
  | compl (a : CharClass)
  | folded (a : CharClass)
  deriving Repr

namespace CharClass

def single (c : Char) : CharClass := .range c c

def ascii : CharClass := .range '\x00' '\x7f'

def unions : List CharClass → CharClass := List.foldr .union .nothing

def mem : CharClass → Char → Bool
  | .range first last, c => first ≤ c && c ≤ last
  | .property p, c => p.holds c
  | .nothing, _ => false
  | .union a b, c => a.mem c || b.mem c
  | .inter a b, c => a.mem c && b.mem c
  | .diff a b, c => a.mem c && !b.mem c
  | .symmDiff a b, c => a.mem c != b.mem c
  | .compl a, c => !a.mem c
  | .folded a, c => (Text.sameLetter c).any a.mem

def isAscii : CharClass → Bool
  | .range _ last => last.toNat < 0x80
  | .property _ => false
  | .nothing => true
  | .union a b => a.isAscii && b.isAscii
  | .inter a b => a.isAscii || b.isAscii
  | .diff a _ => a.isAscii
  | .symmDiff a b => a.isAscii && b.isAscii
  | .compl _ => false
  | .folded a => a.isAscii

def extent : CharClass → Nat
  | .range .. => 1
  | .property p => p.extent
  | .nothing => 0
  | .union a b | .symmDiff a b => a.extent + b.extent
  | .inter a b | .diff a b => max a.extent b.extent
  | .compl a => a.extent + 1
  | .folded a => 2 * a.extent

end CharClass

end StubServer.Regex
