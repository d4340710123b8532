import Mathlib.Algebra.Group.Pi.Basic
import Mathlib.Algebra.Group.Prod
import Mathlib.Algebra.Order.Group.Multiset
import StubServer.Proofs.Server.Accounts

namespace StubServer

/-- What a journal keeps of a request, but for the time. -/
abbrev Gist := String × String × List (String × List String)

def RecordedRequest.gist (record : RecordedRequest) : Gist := (record.method, record.uri, record.headers)

/-- Counts by the number of the stub, requests that matched nothing, and requests that matched a stub. -/
abbrev Tally := (Nat → Nat) × Multiset Gist × Multiset Gist

namespace JournalMode

def keepsMissed (gist : Gist) : Option Stub → Multiset Gist
  | none => {gist}
  | some _ => 0

def keepsServed (mode : JournalMode) (gist : Gist) : Option Stub → Multiset Gist
  | none => 0
  | some _ => if mode = .full then {gist} else 0

def entry (mode : JournalMode) (gist : Gist) (found : Option Stub) : Tally :=
  (fun number => if found.any (·.created = number) then 1 else 0, keepsMissed gist found,
    mode.keepsServed gist found)

end JournalMode

namespace ServerState

def missedGists (state : ServerState) : Multiset Gist :=
  ↑(state.unexpectedRequests.map RecordedRequest.gist)

def servedGists (state : ServerState) : Multiset Gist :=
  ↑(state.matchedRequests.map RecordedRequest.gist)

def tally (state : ServerState) : Tally := (state.registry.counts, state.missedGists, state.servedGists)

theorem gists_concat (records : List RecordedRequest) (record : RecordedRequest) :
    (↑((records ++ [record]).map RecordedRequest.gist) : Multiset Gist) =
      ↑(records.map RecordedRequest.gist) + {record.gist} := by
  rw [List.map_append, ← Multiset.coe_add]
  rfl

theorem missedGists_record (state : ServerState) (record : RecordedRequest) (found : Option Stub) :
    (state.record record found).missedGists =
      state.missedGists + JournalMode.keepsMissed record.gist found := by
  cases found with
  | none =>
    rw [missedGists, unexpectedRequests, ServerState.record, Journal.recordUnmatched_unmatched]
    exact gists_concat state.unexpectedRequests record
  | some stub =>
    rw [missedGists, unexpectedRequests, ServerState.record, Journal.recordMatched_unmatched]
    exact (add_zero _).symm

theorem servedGists_record (state : ServerState) (record : RecordedRequest) (found : Option Stub) :
    (state.record record found).servedGists =
      state.servedGists + state.journal.mode.keepsServed record.gist found := by
  cases found with
  | none => exact (add_zero _).symm
  | some stub =>
    rw [servedGists, matchedRequests, ServerState.record, Journal.recordMatched_matched,
      JournalMode.keepsServed]
    split
    · exact gists_concat state.matchedRequests record
    · rw [List.append_nil]
      exact (add_zero _).symm

variable {state state' : ServerState} {record : RecordedRequest} {found : Option Stub}

theorem tally_found (hjournal : state'.journal = (state.record record found).journal)
    (hcounts : ∀ number, state'.registry.counts number =
      state.registry.counts number + if found.any (·.created = number) then 1 else 0) :
    state'.tally = state.tally + state.journal.mode.entry record.gist found := by
  have hmissed : state'.missedGists = (state.record record found).missedGists := by
    simp only [missedGists, unexpectedRequests, hjournal]
  have hserved : state'.servedGists = (state.record record found).servedGists := by
    simp only [servedGists, matchedRequests, hjournal]
  rw [tally, hmissed, hserved, missedGists_record, servedGists_record]
  exact Prod.ext (funext hcounts) rfl

theorem tally_of_agrees (h : state.Agrees state') : state'.tally = state.tally := by
  simp only [tally, missedGists, servedGists, unexpectedRequests, matchedRequests, h.counts, h.journal]

end ServerState

namespace Exchange

def entry (mode : JournalMode) (e : Exchange) : Tally :=
  match e.found with
  | none => 0
  | some (record, found) => mode.entry record.gist found

end Exchange

end StubServer
