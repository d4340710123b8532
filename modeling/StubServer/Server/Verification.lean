import StubServer.Server.Handling

namespace StubServer

inductive VerificationError where
  | unmatchedStubs (descriptions : List String)
  | unexpectedRequests (lines : List String)
  deriving DecidableEq, Repr

def VerificationError.message : VerificationError → String
  | .unmatchedStubs descriptions =>
    "The following stubs were not matched: " ++ ", ".intercalate descriptions
  | .unexpectedRequests lines =>
    "The following requests were unexpected: " ++ ", ".intercalate lines

namespace ServerState

def unmatchedStubs (state : ServerState) : List Matching.RequestMatch :=
  state.registry.unmatched.map (·.specification)

def unexpectedRequests (state : ServerState) : List RecordedRequest := state.journal.unmatched.value

def matchedRequests (state : ServerState) : List RecordedRequest := state.journal.matched.value

def reset (state : ServerState) : ServerState :=
  { state with registry := state.registry.resetCounts, journal := state.journal.clear }

def verifyStubs (state : ServerState) : Except VerificationError Unit :=
  match state.unmatchedStubs with
  | [] => .ok ()
  | stubs => .error (.unmatchedStubs (stubs.map (·.description)))

def verifyRequests (state : ServerState) : Except VerificationError Unit :=
  match state.unexpectedRequests with
  | [] => .ok ()
  | requests => .error (.unexpectedRequests (requests.map RecordedRequest.line))

end ServerState

end StubServer
