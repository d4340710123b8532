import StubServer.Basic
import StubServer.Matching.StringTest
import StubServer.Request.Body

namespace StubServer.Matching

inductive MatchError where
  | failed (matcher reason : String)
  | panicked (matcher reason : String)
  | body (error : Request.BodyError)
  deriving DecidableEq, Repr

def MatchError.message : MatchError → String
  | .failed matcher reason => "Matcher '" ++ matcher ++ "' failed: " ++ reason
  | .panicked matcher reason => "Matcher '" ++ matcher ++ "' panicked: " ++ reason
  | .body error => error.message

structure Matcher (α : Type) where
  description : String
  predicate : α → Outcome Bool

namespace Matcher

variable {α : Type}

def ofBool (description : String) (p : α → Bool) : Matcher α := ⟨description, fun a => .returned (p a)⟩

/-- Tests the value. Failures and panics become errors. -/
def test (m : Matcher α) (a : α) : Except MatchError Bool :=
  match m.predicate a with
  | .returned passed => .ok passed
  | .failed reason => .error (.failed m.description reason)
  | .panicked reason => .error (.panicked m.description reason)

def testAll : List (Matcher α) → α → Except MatchError Bool
  | [], _ => .ok true
  | m :: rest, a => do
    if ← m.test a then testAll rest a else return false

def shown (m : Matcher α) : String := "Matcher(" ++ Text.quoted m.description ++ ")"

def describeAll (ms : List (Matcher α)) : String :=
  Text.shownList Matcher.description ms

end Matcher

end StubServer.Matching
