import StubServer.Basic
import StubServer.Matching.Decoder
import StubServer.Matching.Matcher
import StubServer.Request.Basic

namespace StubServer.Matching

open StubServer.Request (Head BodyError)

def defaultPriority : Int := (1 <<< 31 - 1 : Nat)

/-- What evaluating a specification comes to: a verdict, an error, or a decoder that panicked. -/
inductive Ruling where
  | settled (result : Except MatchError Bool)
  | escaped (reason : String)

structure Evaluation where
  ruling : Ruling
  log : List LogEvent

/-- What the head of a request tells: either the ruling, or how it depends on the body. -/
inductive Judgement where
  | decided (ruling : Ruling)
  | onBody (rule : Except BodyError Bytes → Evaluation)

/-- A specification as stubs hold it, whatever the payload of its decoder. -/
structure RequestMatch where
  judge : Head → Judgement
  priority : Int
  description : String

structure Specification (P : Type) where
  method : Option (Matcher String)
  path : Option (Matcher String)
  headers : List (Matcher Http.Headers)
  body : List (Matcher P)
  bodyText : List (Matcher String)
  priority : Option Int
  decoder : Decoder P

inductive Criterion (P : Type) where
  | method (m : Matcher String)
  | path (m : Matcher String)
  | header (m : Matcher Http.Headers)
  | body (m : Matcher P)
  | bodyText (m : Matcher String)
  | priority (value : Int)

namespace Specification

variable {P : Type}

def any (decoder : Decoder P) : Specification P := ⟨none, none, [], [], [], none, decoder⟩

/-- Adds a criterion. A method, path or priority takes the place of the one before. -/
def add (spec : Specification P) : Criterion P → Specification P
  | .method m => { spec with method := some m }
  | .path m => { spec with path := some m }
  | .header m => { spec with headers := spec.headers ++ [m] }
  | .body m => { spec with body := spec.body ++ [m] }
  | .bodyText m => { spec with bodyText := spec.bodyText ++ [m] }
  | .priority value => { spec with priority := some value }

def ofCriteria (decoder : Decoder P) (criteria : List (Criterion P)) : Specification P :=
  criteria.foldl add (any decoder)

def testOptional {α : Type} (m? : Option (Matcher α)) (a : α) : Except MatchError Bool :=
  match m? with
  | some m => m.test a
  | none => .ok true

def onHead (spec : Specification P) (head : Head) : Except MatchError Bool := do
  if !(← testOptional spec.method head.method) then return false
  if !(← testOptional spec.path head.path) then return false
  Matcher.testAll spec.headers head.headers

def needsBody (spec : Specification P) : Bool := !spec.body.isEmpty || !spec.bodyText.isEmpty

def undecodable (spec : Specification P) (bytes : Bytes) (reason : String) : LogEvent :=
  ⟨.debug, .specification, "Request body: " ++ Text.Utf8.decodeLossy bytes ++ ". Cause: "
    ++ Request.withReason ("not decodable as " ++ spec.decoder.name) reason⟩

def onText (spec : Specification P) (bytes : Bytes) : Except MatchError Bool :=
  Matcher.testAll spec.bodyText (Text.Utf8.decodeLossy bytes)

def onBytes (spec : Specification P) (bytes : Bytes) : Evaluation :=
  if spec.body.isEmpty then ⟨.settled (spec.onText bytes), []⟩
  else match spec.decoder.decode bytes with
    | .failed reason => ⟨.settled (.ok false), [spec.undecodable bytes reason]⟩
    | .panicked reason => ⟨.escaped reason, []⟩
    | .returned payload =>
      match Matcher.testAll spec.body payload with
      | .ok true => ⟨.settled (spec.onText bytes), []⟩
      | result => ⟨.settled result, []⟩

def onBody (spec : Specification P) : Except BodyError Bytes → Evaluation
  | .error e => ⟨.settled (.error (.body e)), []⟩
  | .ok bytes => spec.onBytes bytes

/-- The criteria are asked in a fixed order, method, path, headers, payload and body text, up to the
first that does not pass. The body is asked for only when one of them needs it. -/
def judge (spec : Specification P) (head : Head) : Judgement :=
  match spec.onHead head with
  | .ok true => if spec.needsBody then .onBody spec.onBody else .decided (.settled (.ok true))
  | result => .decided (.settled result)

def effectivePriority (spec : Specification P) : Int := spec.priority.getD defaultPriority

def describe (spec : Specification P) : String :=
  let row (present : Bool) (label text : String) :=
    if present then label ++ ": " ++ text ++ "\n" else ""
  let one (label : String) (m? : Option (Matcher String)) :=
    row m?.isSome label ((m?.map Matcher.description).getD "")
  one "method" spec.method ++ one "path" spec.path
    ++ row (!spec.headers.isEmpty) "headers" (Matcher.describeAll spec.headers)
    ++ row (!spec.body.isEmpty) ("body (" ++ spec.decoder.name ++ ")") (Matcher.describeAll spec.body)
    ++ row (!spec.bodyText.isEmpty) "bodyText" (Matcher.describeAll spec.bodyText)
    ++ row spec.priority.isSome "priority" ((spec.priority.map toString).getD "")

def shown (spec : Specification P) : String :=
  Text.shownRecord "RequestSpecification" [
    ("method", Text.shownOption Matcher.shown spec.method),
    ("path", Text.shownOption Matcher.shown spec.path),
    ("headers", Text.shownList Matcher.shown spec.headers),
    ("body", Text.shownList Matcher.shown spec.body),
    ("body_text", Text.shownList Matcher.shown spec.bodyText),
    ("priority", Text.shownOption toString spec.priority),
    ("decoder", spec.decoder.shown)]

def erase (spec : Specification P) : RequestMatch :=
  ⟨spec.judge, spec.effectivePriority, spec.describe⟩

end Specification

structure Evaluated where
  evaluation : Evaluation
  body : Request.Body
  elapsed : Nat

/-- Evaluates the specification on a request, reading its body if that is needed. -/
def RequestMatch.evaluate (spec : RequestMatch) (request : Request) : Evaluated :=
  match spec.judge request.head with
  | .decided ruling => ⟨⟨ruling, []⟩, request.body, 0⟩
  | .onBody rule =>
    let (result, body, elapsed) := request.body.read
    ⟨rule result, body, elapsed⟩

end StubServer.Matching
