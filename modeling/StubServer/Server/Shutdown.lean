import StubServer.Basic
import StubServer.Server.Timeouts

namespace StubServer

structure Connection where
  /-- When the connection ends if it is left alone, if ever. -/
  alone : Option Nat
  /-- How long after it has been told to close, at the given time, it ends, if ever. -/
  reaction : Nat → Option Nat

namespace Shutdown

structure Pending where
  number : Nat
  connection : Connection
  endsAt : Option Nat

inductive Phase where
  | waiting
  | closing
  | over
  deriving DecidableEq, Repr

/-- A shutdown under way: its phase and when that ends, the connections that are still open, when
they were told to close, which ones were aborted, and the events so far. Up to the grace period
connections are left alone; then they are told to close; whatever is open at the timeout is aborted.
Times are nanoseconds since the shutdown began. -/
structure Drain where
  phase : Phase
  now : Nat
  deadline : Nat
  pending : List Pending
  toldAt : Option Nat
  aborted : List Nat
  log : List LogEvent

def number : Nat → List Connection → List Pending
  | _, [] => []
  | n, c :: rest => ⟨n, c, c.alone⟩ :: number (n + 1) rest

def firstEnd : List Pending → Option Nat
  | [] => none
  | p :: rest =>
    match p.endsAt, firstEnd rest with
    | some a, some b => some (min a b)
    | some a, none => some a
    | none, b => b

def Pending.hasEnded (p : Pending) (time : Nat) : Bool :=
  match p.endsAt with
  | some e => e ≤ time
  | none => false

def Pending.tell (p : Pending) (time : Nat) : Pending :=
  { p with endsAt := (p.connection.reaction time).map (time + ·) }

def closingEvent (count : Nat) : LogEvent :=
  ⟨.debug, .shutdown, toString count ++ " connections still open after grace period, closing gracefully"⟩

def abortingEvent (count : Nat) (timeouts : Timeouts) : LogEvent :=
  ⟨.warn, .shutdown, "Aborting " ++ toString count ++ " connections still open after " ++
    timeouts.timeout.text⟩

namespace Drain

def start (timeouts : Timeouts) (connections : List Connection) : Drain :=
  ⟨.waiting, 0, timeouts.grace.nanos, number 0 connections, none, [], []⟩

def advance (time : Nat) (d : Drain) : Drain :=
  { d with now := max d.now time, pending := d.pending.filter fun p => !p.hasEnded time }

/-- The end of a phase. Connections that are told to close have what remains of the timeout for it. -/
def expire (timeouts : Timeouts) (d : Drain) : Drain :=
  match d.phase with
  | .waiting =>
    { d with
      phase := .closing
      now := d.deadline
      deadline := d.deadline + timeouts.remaining.nanos
      pending := d.pending.map (·.tell d.deadline)
      toldAt := some d.deadline
      log := d.log ++ [closingEvent d.pending.length] }
  | .closing =>
    { d with
      phase := .over
      now := d.deadline
      pending := []
      aborted := d.pending.map (·.number)
      log := d.log ++ [abortingEvent d.pending.length timeouts] }
  | .over => d

def step (timeouts : Timeouts) (d : Drain) : Drain :=
  if d.phase = .over then d
  else if d.pending.isEmpty then { d with phase := .over }
  else match firstEnd d.pending with
    -- A connection that ends at the deadline itself still counts as ended.
    | some time => if time ≤ d.deadline then d.advance time else d.expire timeouts
    | none => d.expire timeouts

def steps (timeouts : Timeouts) : Nat → Drain → Drain
  | 0, d => d
  | n + 1, d => steps timeouts n (d.step timeouts)

/-- The whole shutdown. Every step but three ends a connection. -/
def run (timeouts : Timeouts) (connections : List Connection) : Drain :=
  steps timeouts (connections.length + 3) (start timeouts connections)

end Drain

end Shutdown

end StubServer
