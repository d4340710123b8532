import StubServer.Matching.Specification
import StubServer.Response.Basic
import StubServer.Stub.Configuration

namespace StubServer

/-- What a responder does before it has a result: it may wait, and it may ask for the body. -/
inductive Work (α : Type) where
  | done (a : α)
  | sleep (millis : Nat) (next : Work α)
  | readBody (next : Except Request.BodyError Bytes → Work α)

namespace Work

def run {α : Type} : Work α → Request.Body → α × Request.Body × Nat
  | .done a, body => (a, body, 0)
  | .sleep millis next, body =>
    let (a, body, elapsed) := next.run body
    (a, body, millis + elapsed)
  | .readBody next, body =>
    let (result, body, readTime) := body.read
    let (a, body, elapsed) := (next result).run body
    (a, body, readTime + elapsed)

end Work

abbrev Responder := Request.Head → Work (Outcome Response.Definition)

/-- A stub. The number of its creation tells it from all others, for fewer than `2 ^ 64` creations
are assumed. -/
structure Stub where
  configuration : StubConfiguration
  specification : Matching.RequestMatch
  responder : Responder
  created : Nat

/-- An answer: the response and when its head is ready, the events with their times, what is left of
the body of the request, and a response body that was begun in vain, if there is one. -/
structure Answer where
  response : Response
  readyAt : Nat
  log : List (Nat × LogEvent)
  body : Request.Body
  abandoned : Option Response.Feed

namespace Stub

def priority (stub : Stub) : Int := stub.specification.priority

def before (a b : Stub) : Bool :=
  a.priority < b.priority || (a.priority = b.priority && a.created < b.created)

def order (a b : Stub) : Ordering :=
  if a.before b then .lt else if b.before a then .gt else .eq

def text (stub : Stub) : String :=
  let name := match stub.configuration.name with
    | some name => if Text.isBlankText name then "" else "('" ++ name ++ "')"
    | none => ""
  "Stub" ++ name ++ "[config=" ++ stub.configuration.text ++ " requestSpec="
    ++ stub.specification.description ++ "]"

def shown (stub : Stub) (count : Nat) : String :=
  Text.shownRecord "Stub" [("name", Text.shownOption Text.quoted stub.configuration.name),
    ("priority", toString stub.priority), ("creation_order", toString stub.created),
    ("match_count", toString count)]

def internalError (body : String) : Response := Response.plain 500 [] (some body)

/-- Answers a request. A responder that fails or panics, and a callback that panics, make for a
response that says so. -/
def respond (stub : Stub) (request : Request) (verbose : Bool) (now : Nat) : Answer :=
  let (outcome, body, elapsed) := (stub.responder request.head).run request.body
  let failure (readyAt : Nat) (log : List LogEvent) (abandoned : Option Response.Feed)
      (what reason : String) : Answer :=
    let event : LogEvent :=
      ⟨.error, .stub, "Responder " ++ what ++ " for " ++ stub.text ++ ": " ++ reason⟩
    ⟨internalError ("Stub responder " ++ what ++ ": " ++ reason), readyAt,
      (log ++ [event]).map ((readyAt, ·)), body, abandoned⟩
  match outcome with
  | .failed reason => failure (now + elapsed) [] none "failed" reason
  | .panicked reason => failure (now + elapsed) [] none "panicked" reason
  | .returned definition =>
    let rendering := definition.render verbose
    let readyAt := now + elapsed + rendering.delay
    match rendering.outcome with
    | .returned response =>
      ⟨response, readyAt, rendering.log.map ((readyAt, ·)), body, rendering.abandoned⟩
    | .failed reason => failure readyAt rendering.log rendering.abandoned "failed" reason
    | .panicked reason => failure readyAt rendering.log rendering.abandoned "panicked" reason

end Stub

end StubServer
