import StubServer.Document.Reader

namespace StubServer.Matching

open StubServer.Document

/-- A comparison. Only `present` says anything of a text that is not there. -/
inductive StringMatcher where
  | equals (text : String)
  | contains (text : String)
  | startsWith (text : String)
  | endsWith (text : String)
  | matchesPattern (pattern : String)
  | present (expected : Bool)
  deriving DecidableEq, Repr

namespace StringMatcher

instance : Inhabited StringMatcher := ⟨.present true⟩

def operators : List String :=
  ["equals", "contains", "startsWith", "endsWith", "matches", "exists"]

def operator : StringMatcher → String
  | .equals _ => "equals"
  | .contains _ => "contains"
  | .startsWith _ => "startsWith"
  | .endsWith _ => "endsWith"
  | .matchesPattern _ => "matches"
  | .present _ => "exists"

def operand : StringMatcher → Json.Value
  | .equals s | .contains s | .startsWith s | .endsWith s | .matchesPattern s => .string s
  | .present b => .bool b

def toJson (m : StringMatcher) : Json.Value := .object [(m.operator, m.operand)]

def describe : StringMatcher → String
  | .equals s => "equals " ++ Text.quoted s
  | .contains s => "contains " ++ Text.quoted s
  | .startsWith s => "startsWith " ++ Text.quoted s
  | .endsWith s => "endsWith " ++ Text.quoted s
  | .matchesPattern s => "matches /" ++ s ++ "/"
  | .present true => "exists"
  | .present false => "absent"

def shown : StringMatcher → String
  | .equals s => "Equals(" ++ Text.quoted s ++ ")"
  | .contains s => "Contains(" ++ Text.quoted s ++ ")"
  | .startsWith s => "StartsWith(" ++ Text.quoted s ++ ")"
  | .endsWith s => "EndsWith(" ++ Text.quoted s ++ ")"
  | .matchesPattern s => "Matches(" ++ Text.quoted s ++ ")"
  | .present b => "Exists(" ++ Text.shownBool b ++ ")"

def expected : String := "a map with exactly one of " ++ ", ".intercalate operators

def readOperand (name : String) (node : Node) : Except Fault StringMatcher :=
  match name with
  | "equals" => .equals <$> node.readText
  | "contains" => .contains <$> node.readText
  | "startsWith" => .startsWith <$> node.readText
  | "endsWith" => .endsWith <$> node.readText
  | "matches" => .matchesPattern <$> node.readText
  | "exists" => .present <$> node.readBool
  | _ => .error (.mismatch (.unknownVariant name operators))

def readEntries (closed : Bool) : List (Node × Node) → Except Fault StringMatcher
  | [] => if closed then .error (.mismatch (.wrongLength 0 expected)) else .error .illFormed
  | (key, operand) :: rest => do
    let m ← readOperand (← key.readText) operand
    match rest with
    | [] => if closed then return m else throw .illFormed
    | (second, _) :: _ =>
      second.skip
      throw (.mismatch (.wrongLength 2 expected))

def read (node : Node) : Except Fault StringMatcher :=
  match node with
  | .table entries frame => do
    Node.checkDepth frame
    readEntries frame.closed entries
  | .scalar s => if s.isEmpty then readEntries true [] else .error (node.wrongType expected)
  | _ => .error (node.wrongType expected)

end StringMatcher

end StubServer.Matching
