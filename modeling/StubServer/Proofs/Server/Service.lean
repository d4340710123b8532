import StubServer.Proofs.Stub.Polls
import StubServer.Server.Verification

namespace StubServer

inductive Handling where
  | finding (find : Find)
  | answering (answer : Answer)
  | answered (answer : Answer)
  | failed (reason : String)
  | abandoned

/-- A request that is handled, and what its find has come back with, together with the record of the
request. -/
structure Exchange where
  request : Request
  query : Find.Query
  handling : Handling
  found : Option (RecordedRequest × Option Stub)

/-- What matters of the past: what finds have come back with, and resets, each with the stubs that were
registered then. -/
inductive Milestone where
  | found (n : Nat) (record : RecordedRequest) (stub? : Option Stub)
  | reset (registered : List Stub)

namespace Exchange

def new (number : Nat) (verbose : Bool) (request : Request) : Exchange :=
  ⟨request, ⟨number, request.head, verbose, if verbose then request.format else ""⟩,
    .finding .start, none⟩

/-- Handles the request up to the next wait. There is no wait between the end of the find and the
record. -/
def resume (state : ServerState) (timestamp : Timestamp) (now : Nat) (e : Exchange) :
    ServerState × Exchange × List LogEvent :=
  match e.handling with
  | .finding find =>
    let (world, find) := find.poll e.query ⟨state.registry, e.request.body, []⟩
    let state := { state with registry := world.registry }
    let request := { e.request with body := world.body }
    match find with
    | .finished stub? =>
      let record := RecordedRequest.ofHead timestamp request.head
      let state := state.record record stub?
      (state, ⟨request, e.query, .answering (state.answer request record stub? now),
        some (record, stub?)⟩, world.log)
    | .escaped reason => (state, { e with request, handling := .failed reason }, world.log)
    | find => (state, { e with request, handling := .finding find }, world.log)
  | .answering answer => (state, { e with handling := .answered answer }, answer.log.map (·.2))
  | _ => (state, e, [])

/-- Abandons the handling wherever it waits; one that is over is left as it is. -/
def abandon (state : ServerState) (e : Exchange) : ServerState × Exchange :=
  match e.handling with
  | .finding find =>
    if find.isWaiting then
      let world := Find.cancel e.query ⟨state.registry, e.request.body, []⟩
      ({ state with registry := world.registry },
        { e with request := { e.request with body := world.body }, handling := .abandoned })
    else (state, e)
  | .answering _ => (state, { e with handling := .abandoned })
  | _ => (state, e)

/-- What happens to the find of request `n` in a step. -/
def milestones (n : Nat) (e e' : Exchange) : List Milestone :=
  match e.found, e'.found with
  | none, some (record, stub?) => [.found n record stub?]
  | _, _ => []

end Exchange

/-- A server in use: what its connections share, the stubs created so far, the requests in the order
in which they came in, the events, and the milestones. Requests are handled side by side, each from
one wait to the next with nobody else around. -/
structure Service where
  state : ServerState
  created : List Stub
  exchanges : List Exchange
  log : List LogEvent
  history : List Milestone

namespace Service

/-- What may happen next. Stubs go by their place among all that were created, requests by number. -/
inductive Event where
  | create (configuration : StubConfiguration) (specification : Matching.RequestMatch)
      (responder : Responder)
  | register (place : Nat)
  | unregister (place : Nat)
  | clear
  | arrive (request : Request)
  | resume (n : Nat) (timestamp : Timestamp) (now : Nat)
  | abandon (n : Nat)
  | reset

def Event.isReset : Event → Bool
  | .reset => true
  | _ => false

def start (verbose : Bool) (mode : JournalMode) : Service := ⟨.new verbose mode, [], [], [], []⟩

def withRegistry (s : Service) (registry : Registry) : Service :=
  { s with state := { s.state with registry } }

/-- What is left when the event has happened. What cannot happen changes nothing. -/
def step (s : Service) : Event → Service
  | .create configuration specification responder =>
    { s with created :=
        s.created ++ [⟨configuration, specification, responder, s.created.length + 1⟩] }
  | .register place =>
    match s.created[place]? with
    | some stub => s.withRegistry (s.state.registry.add stub).1
    | none => s
  | .unregister place =>
    match s.created[place]? with
    | some stub => s.withRegistry (s.state.registry.remove stub).1
    | none => s
  | .clear => s.withRegistry s.state.registry.clear
  | .arrive request =>
    { s with exchanges := s.exchanges ++ [.new s.exchanges.length s.state.verbose request] }
  | .resume n timestamp now =>
    match s.exchanges[n]? with
    | some e =>
      let (state, e', log) := e.resume s.state timestamp now
      { s with
        state
        exchanges := s.exchanges.set n e'
        log := s.log ++ log
        history := s.history ++ e.milestones n e' }
    | none => s
  | .abandon n =>
    match s.exchanges[n]? with
    | some e =>
      let (state, e') := e.abandon s.state
      { s with
        state
        exchanges := s.exchanges.set n e' }
    | none => s
  | .reset =>
    { s with
      state := s.state.reset
      history := s.history ++ [.reset s.state.registry.list] }

/-- What is left of a new server when these events have happened one after the other. -/
def run (verbose : Bool) (mode : JournalMode) (events : List Event) : Service :=
  events.foldl step (start verbose mode)

theorem run_concat (verbose : Bool) (mode : JournalMode) (events : List Event) (event : Event) :
    run verbose mode (events ++ [event]) = (run verbose mode events).step event :=
  List.foldl_concat _ _ _ _

end Service

end StubServer
