import StubServer.Matching.StringMatcher
import StubServer.Regex.Reader

namespace StubServer.Text

def occursIn (needle : List Char) : List Char → Bool
  | [] => needle.isEmpty
  | c :: rest => needle.isPrefixOf (c :: rest) || occursIn needle rest

def contains (text needle : String) : Bool := occursIn needle.toList text.toList

def startsWith (text lead : String) : Bool := lead.toList.isPrefixOf text.toList

def endsWith (text tail : String) : Bool := tail.toList.isSuffixOf text.toList

end StubServer.Text

namespace StubServer.Matching

/-- The text that a literal comparison compares with. Where case does not matter, it and the value
are lowered as whole texts. -/
structure Operand where
  text : String
  caseSensitive : Bool
  deriving DecidableEq, Repr

namespace Operand

def of (text : String) (caseSensitive : Bool) : Operand :=
  ⟨if caseSensitive then text else Text.lower text, caseSensitive⟩

def test (operand : Operand) (compare : String → String → Bool) (value : String) : Bool :=
  compare (if operand.caseSensitive then value else Text.lower value) operand.text

end Operand

inductive Comparison where
  | equals (operand : Operand)
  | contains (operand : Operand)
  | startsWith (operand : Operand)
  | endsWith (operand : Operand)
  | matchesPattern (regex : Regex)
  | present (expected : Bool)

/-- A comparison with the form it was made from. -/
structure StringTest where
  comparison : Comparison
  source : StringMatcher

namespace Comparison

/-- Whether the comparison holds of the value; nothing means that there is no value. -/
def holds : Comparison → Option String → Bool
  | .present expected, value? => expected == value?.isSome
  | _, none => false
  | .equals operand, some value => operand.test (· == ·) value
  | .contains operand, some value => operand.test Text.contains value
  | .startsWith operand, some value => operand.test Text.startsWith value
  | .endsWith operand, some value => operand.test Text.endsWith value
  | .matchesPattern regex, some value => regex.isMatch value

end Comparison

namespace StringMatcher

def comparison? (caseSensitive : Bool) : StringMatcher → Option Comparison
  | .equals s => some (.equals (.of s caseSensitive))
  | .contains s => some (.contains (.of s caseSensitive))
  | .startsWith s => some (.startsWith (.of s caseSensitive))
  | .endsWith s => some (.endsWith (.of s caseSensitive))
  | .matchesPattern s => (Regex.compile? s caseSensitive).map .matchesPattern
  | .present b => some (.present b)

def compile? (m : StringMatcher) (caseSensitive : Bool) : Option StringTest :=
  (m.comparison? caseSensitive).map (⟨·, m⟩)

end StringMatcher

namespace StringTest

def accepts (test : StringTest) (value? : Option String) : Bool := test.comparison.holds value?

def describe (test : StringTest) : String := test.source.describe

end StringTest

end StubServer.Matching
