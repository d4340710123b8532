import StubServer.Clock.Duration
import StubServer.Text.Quoted

namespace StubServer

inductive TimeoutError where
  | negativeGrace (millis : Int)
  | negativeTimeout (millis : Int)
  | timeoutBeforeGrace (grace timeout : Duration)
  deriving DecidableEq, Repr

def TimeoutError.message : TimeoutError → String
  | .negativeGrace millis =>
    "Shutdown grace period must not be negative, got " ++ toString millis ++ "ms"
  | .negativeTimeout millis =>
    "Shutdown timeout must not be negative, got " ++ toString millis ++ "ms"
  | .timeoutBeforeGrace grace timeout =>
    "Shutdown timeout " ++ timeout.text ++ " is shorter than grace period " ++ grace.text

/-- A grace period and a timeout that is not shorter. -/
structure Timeouts where
  grace : Duration
  timeout : Duration
  ordered : grace ≤ timeout
  deriving DecidableEq

namespace Timeouts

def immediate : Timeouts := ⟨.zero, .zero, Nat.le_refl 0⟩

def default : Timeouts := ⟨.ofMillis 500, .ofMillis 1000, by decide⟩

instance : Inhabited Timeouts := ⟨default⟩

def of (grace timeout : Duration) : Except TimeoutError Timeouts :=
  if h : grace ≤ timeout then .ok ⟨grace, timeout, h⟩ else .error (.timeoutBeforeGrace grace timeout)

def ofMillis (grace timeout : Int) : Except TimeoutError Timeouts :=
  if grace < 0 then .error (.negativeGrace grace)
  else if timeout < 0 then .error (.negativeTimeout timeout)
  else of (.ofMillis grace.toNat) (.ofMillis timeout.toNat)

def remaining (t : Timeouts) : Duration := ⟨t.timeout.nanos - t.grace.nanos⟩

def shown (t : Timeouts) : String :=
  Text.shownRecord "ShutdownTimeouts" [("grace_period", t.grace.text), ("timeout", t.timeout.text)]

end Timeouts

end StubServer
