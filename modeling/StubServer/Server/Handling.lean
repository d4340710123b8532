import StubServer.Request.Journal
import StubServer.Stub.Find

namespace StubServer

structure ServerState where
  registry : Registry
  journal : Journal
  verbose : Bool

namespace ServerState

def new (verbose : Bool) (mode : JournalMode) : ServerState := ⟨.empty, .new mode, verbose⟩

def catalogue (state : ServerState) : String :=
  "\n---\n".intercalate (state.registry.list.map Stub.text)

/-- The answer to a request that matches no stub. A verbose server lists its stubs. -/
def noMatch (state : ServerState) (request : Request) (record : RecordedRequest) (now : Nat) :
    Answer :=
  let body := "No matched mapping for request: " ++ record.line
  let catalogue := state.catalogue
  let (body, event) : String × LogEvent :=
    if state.verbose then
      (body ++ "\n\nAvailable stubs:\n" ++ catalogue,
        ⟨.warn, .handler, "No stubs found for the request: " ++ record.line ++ ". Available stubs: "
          ++ toString state.registry.list.length ++ "\n---\n" ++ request.format ++ "---\n"
          ++ catalogue⟩)
    else (body, ⟨.warn, .handler, body⟩)
  ⟨Response.plain 404 [] (some body), now, [(now, event)], request.body, none⟩

def record (state : ServerState) (record : RecordedRequest) (found : Option Stub) : ServerState :=
  { state with journal := match found with
    | some _ => state.journal.recordMatched record
    | none => state.journal.recordUnmatched record }

def answer (state : ServerState) (request : Request) (record : RecordedRequest)
    (found : Option Stub) (now : Nat) : Answer :=
  match found with
  | none => state.noMatch request record now
  | some stub =>
    let verbose := state.verbose || stub.configuration.verbose
    let log := if verbose then
        [(now, (⟨.info, .handler, "Request matched: " ++ record.line ++ " by " ++ stub.text ++ "\n---\n"
          ++ request.format ++ "---"⟩ : LogEvent))]
      else []
    let answer := stub.respond request verbose now
    { answer with log := log ++ answer.log }

end ServerState

/-- What handling a request leaves: the answer, unless code of the user brought it down, the time when
the find was over, and the events. -/
structure Handled where
  state : ServerState
  answer : Except String Answer
  foundAt : Nat
  log : List (Nat × LogEvent)

namespace ServerState

/-- Finds a stub and counts it, records the request, and answers with the response of the stub or
says that there is none. -/
def handle (state : ServerState) (request : Request) (timestamp : Timestamp) (now : Nat) : Handled :=
  let found := state.registry.find request state.verbose now
  let state := { state with registry := found.registry }
  let request := { request with body := found.body }
  match found.result with
  | .returned stub? =>
    let record := RecordedRequest.ofHead timestamp request.head
    let state := state.record record stub?
    let answer := state.answer request record stub? found.endedAt
    ⟨state, .ok answer, found.endedAt, found.log ++ answer.log⟩
  | .failed reason | .panicked reason => ⟨state, .error reason, found.endedAt, found.log⟩

end ServerState

end StubServer
