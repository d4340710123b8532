import StubServer.Document.Fault
import StubServer.Http.Headers
import StubServer.Matching.Matcher

namespace StubServer.Matching

open Http

def methodIs (method : String) : Matcher String :=
  .ofBool ("method == " ++ method) (· == method)

def pathIs (path : String) : Matcher String :=
  .ofBool ("path == " ++ Text.quoted path) (· == path)

def pathPasses (test : StringTest) : Matcher String :=
  .ofBool ("path " ++ test.describe) fun path => test.accepts (some path)

def headerIs (name value : String) : Matcher Headers :=
  .ofBool ("header " ++ name ++ " == " ++ Text.quoted value) fun headers =>
    (headers.getAll name).any fun v => visibleText? v == some value

def headerExists (name : String) : Matcher Headers :=
  .ofBool ("header " ++ name ++ " exists") (·.contains name)

/-- The test accepts one of the values of a header that are visible text. A header without such a
value counts as absent. -/
def headerPasses (name : String) (test : StringTest) : Matcher Headers :=
  .ofBool ("header " ++ name ++ " " ++ test.describe) fun headers =>
    match (headers.getAll name).filterMap visibleText? with
    | [] => test.accepts none
    | values => values.any fun v => test.accepts (some v)

def bodyContains (needle : String) : Matcher String :=
  .ofBool ("body contains " ++ Text.quoted needle) fun body => Text.contains body needle

/-- The test accepts the text of the body; an empty body counts as absent. -/
def bodyPasses (test : StringTest) : Matcher String :=
  .ofBool ("body " ++ test.describe) fun body =>
    test.accepts (if body.isEmpty then none else some body)

def badHeaderName : String := "invalid HTTP header name"

def compile (m : StringMatcher) (caseSensitive : Bool) : Except ConfigError StringTest :=
  match m.compile? caseSensitive with
  | some test => .ok test
  | none => .error .badPattern

def pathMatching (m : StringMatcher) (caseSensitive : Bool) : Except ConfigError (Matcher String) :=
  pathPasses <$> compile m caseSensitive

def bodyMatching (m : StringMatcher) (caseSensitive : Bool) : Except ConfigError (Matcher String) :=
  bodyPasses <$> compile m caseSensitive

def headerMatching (name : String) (m : StringMatcher) (caseSensitive : Bool) :
    Except ConfigError (Matcher Headers) :=
  match headerNamed? name with
  | none => .error (.invalid ("header name " ++ Text.quoted name ++ ": " ++ badHeaderName))
  | some header => headerPasses header <$> compile m caseSensitive

end StubServer.Matching
