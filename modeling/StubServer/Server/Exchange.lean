import StubServer.Server.Handling

namespace StubServer

abbrev TimedLog := List (Nat × LogEvent)

def TimedLog.events (log : TimedLog) : List LogEvent :=
  (log.mergeSort fun a b => a.1 ≤ b.1).map (·.2)

/-- The answer as it is seen by a reader of at most `most` frames, and all events on the way. -/
def Answer.readOut (answer : Answer) (most : Nat) : Response.Transcript × TimedLog :=
  let out := answer.response.readOut answer.readyAt 0 most
  (out.transcript, answer.log ++ Response.abandonedLog answer.readyAt answer.abandoned ++ out.log)

structure FoundAll where
  results : List (Outcome (Option Stub))
  registry : Registry
  log : TimedLog

def Registry.findAll (registry : Registry) (verbose : Bool) : List Request → Nat → FoundAll
  | [], _ => ⟨[], registry, []⟩
  | request :: rest, now =>
    let found := registry.find request verbose now
    let others := findAll found.registry verbose rest found.endedAt
    ⟨found.result :: others.results, others.registry, found.log ++ others.log⟩

structure Exchanged where
  transcripts : List (Except String Response.Transcript)
  state : ServerState
  handlingLog : TimedLog
  readingLog : TimedLog

/-- All events. What the sources of bodies do comes after the handling of requests at the same time. -/
def Exchanged.log (exchanged : Exchanged) : TimedLog := exchanged.handlingLog ++ exchanged.readingLog

namespace ServerState

def exchange (state : ServerState) (timestamp : Timestamp) (most : Nat) (request : Request)
    (now : Nat) : Except String Response.Transcript × Handled × TimedLog :=
  let handled := state.handle request timestamp now
  match handled.answer with
  | .error reason => (.error reason, handled, [])
  | .ok answer =>
    let (transcript, log) := { answer with log := [] }.readOut most
    (.ok transcript, handled, log)

/-- The exchanges for requests that come in together. Their stubs are found one after the other,
each as soon as the one before is done; what follows does not wait for others. -/
def exchangeAll (state : ServerState) (timestamp : Timestamp) (most : Nat) :
    List Request → Nat → Exchanged
  | [], _ => ⟨[], state, [], []⟩
  | request :: rest, now =>
    let (transcript, handled, log) := state.exchange timestamp most request now
    let others := exchangeAll handled.state timestamp most rest handled.foundAt
    ⟨transcript :: others.transcripts, others.state, handled.log ++ others.handlingLog,
      log ++ others.readingLog⟩

end ServerState

end StubServer
