import StubServer.Text.Quoted

namespace StubServer.Document

inductive Mismatch where
  | wrongType (found expected : String)
  | wrongValue (found expected : String)
  | wrongLength (length : Nat) (expected : String)
  | unknownVariant (name : String) (known : List String)
  | missingField (name : String)
  | duplicateField (name : String)
  | noVariant (name : String)
  | badTimestamp (reason : String)
  deriving DecidableEq, Repr

inductive Fault where
  | illFormed
  | mismatch (reason : Mismatch)
  deriving DecidableEq, Repr

def ticked (name : String) : String := "\x60" ++ name ++ "\x60"

def knownVariants : List String → String
  | [] => "there are no variants"
  | [a] => "expected " ++ ticked a
  | [a, b] => "expected " ++ ticked a ++ " or " ++ ticked b
  | names => "expected one of " ++ ", ".intercalate (names.map ticked)

def Mismatch.message : Mismatch → String
  | .wrongType found expected => "invalid type: " ++ found ++ ", expected " ++ expected
  | .wrongValue found expected => "invalid value: " ++ found ++ ", expected " ++ expected
  | .wrongLength length expected => "invalid length " ++ toString length ++ ", expected " ++ expected
  | .unknownVariant name known => "unknown variant " ++ ticked name ++ ", " ++ knownVariants known
  | .missingField name => "missing field " ++ ticked name
  | .duplicateField name => "duplicate field " ++ ticked name
  | .noVariant name => "data did not match any variant of untagged enum " ++ name
  | .badTimestamp reason => reason

end StubServer.Document

namespace StubServer

inductive ConfigError where
  | unreadableFile
  | badYaml
  | badJson (fault : Document.Fault)
  | badPattern
  | invalid (reason : String)
  deriving DecidableEq, Repr

/-- The error in words. What exactly is wrong with a file or a pattern is left out. -/
def ConfigError.message : ConfigError → String
  | .unreadableFile => "Failed to read config file"
  | .badYaml => "Invalid YAML"
  | .badJson _ => "Invalid JSON"
  | .badPattern => "Invalid regex"
  | .invalid reason => "Invalid configuration: " ++ reason

end StubServer
