import StubServer.Document.Fault
import StubServer.Decimal.FloatText

namespace StubServer.Document

inductive ScalarStyle where
  | plain
  | literal
  | other
  deriving DecidableEq, Repr

structure Scalar where
  text : String
  style : ScalarStyle
  tag : Option String
  deriving DecidableEq, Repr

/-- What is known of a collection besides its members: whether its end was found, whether it is
nested too deeply to be read, and whether it carries a tag of the document's own. -/
structure Frame where
  closed : Bool
  tooDeep : Bool
  tag : Option String
  deriving DecidableEq, Repr

def Frame.whole : Frame := ⟨true, false, none⟩

/-- A document as a tree. That of an ill-formed text ends where the text stops making sense, so that
a reader who goes through it in order first meets what is wrong with the content before that point.
-/
inductive Node where
  | null
  | bool (b : Bool)
  | int (i : Int)
  | float (x : Float)
  | text (s : String)
  | scalar (s : Scalar)
  | list (items : List Node) (frame : Frame)
  | table (entries : List (Node × Node)) (frame : Frame)
  /-- Well-formed, but without a value: a number too large, half of a character. -/
  | unreadable
  /-- Not well-formed from here on. -/
  | broken
  deriving Repr

instance : Inhabited Node := ⟨.null⟩

structure Source where
  root : Node
  trailing : Bool

namespace Node

def found : Node → String
  | .null => "null"
  | .bool b => "boolean " ++ ticked (Text.shownBool b)
  | .int i => "integer " ++ ticked (toString i)
  | .float x => "floating point " ++ ticked (Decimal.jsonNotation.floatText x)
  | .text s => "string " ++ Text.quoted s
  | .scalar s => "string " ++ Text.quoted s.text
  | .list .. => "sequence"
  | .table .. => "map"
  | .unreadable => "value"
  | .broken => "value"

/-- The complaint that the tree is not what was expected. What has no value at all is ill-formed. -/
def wrongType (node : Node) (expected : String) : Fault :=
  match node with
  | .unreadable | .broken => .illFormed
  | _ => .mismatch (.wrongType node.found expected)

mutual

def isWhole : Node → Bool
  | .list items frame => frame.closed && areWhole items
  | .table entries frame => frame.closed && entriesAreWhole entries
  | .broken => false
  | _ => true

def areWhole : List Node → Bool
  | [] => true
  | node :: rest => isWhole node && areWhole rest

def entriesAreWhole : List (Node × Node) → Bool
  | [] => true
  | (key, value) :: rest => isWhole key && isWhole value && entriesAreWhole rest

end

def skip (node : Node) : Except Fault Unit :=
  if node.isWhole then .ok () else .error .illFormed

end Node

end StubServer.Document
