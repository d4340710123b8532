import StubServer.Proofs.Response.Verbosity
import StubServer.Proofs.Server.Containment
import StubServer.Proofs.Server.Tally
import StubServer.Proofs.Stub.Verbosity

namespace StubServer

/-- The answers differ in nothing but events and verbosity. -/
structure Answer.Twins (answer answer' : Answer) : Prop where
  response : answer.response.Twins answer'.response
  readyAt : answer.readyAt = answer'.readyAt
  body : answer.body = answer'.body
  abandoned : Option.Rel Response.Feed.Twins answer.abandoned answer'.abandoned

theorem Stub.twins_respond {stub stub' : Stub} (h : stub.hushed = stub'.hushed) (request : Request)
    (verbose verbose' : Bool) (now : Nat) :
    (stub.respond request verbose now).Twins (stub'.respond request verbose' now) := by
  simp only [respond, responder_of_hushed h]
  generalize (stub'.responder request.head).run request.body = ran
  obtain ⟨outcome, body, elapsed⟩ := ran
  cases outcome with
  | failed reason => exact ⟨.refl_full _ _ _, rfl, rfl, .none⟩
  | panicked reason => exact ⟨.refl_full _ _ _, rfl, rfl, .none⟩
  | returned definition =>
    obtain ⟨hdelay, houtcome, habandoned⟩ := definition.twins_render verbose verbose'
    simp only [hdelay]
    generalize definition.render verbose = rendering at houtcome habandoned ⊢
    generalize definition.render verbose' = rendering' at houtcome habandoned ⊢
    obtain ⟨delay, outcome, log, abandoned⟩ := rendering
    obtain ⟨delay', outcome', log', abandoned'⟩ := rendering'
    cases houtcome with
    | returned hresponse => exact ⟨hresponse, rfl, rfl, habandoned⟩
    | failed reason => exact ⟨.refl_full _ _ _, rfl, rfl, habandoned⟩
    | panicked reason => exact ⟨.refl_full _ _ _, rfl, rfl, habandoned⟩

/-- The journals have the same entries, times of day aside. -/
structure Journal.Twins (journal journal' : Journal) : Prop where
  mode : journal.mode = journal'.mode
  matched : journal.matched.value.map RecordedRequest.gist =
    journal'.matched.value.map RecordedRequest.gist
  unmatched : journal.unmatched.value.map RecordedRequest.gist =
    journal'.unmatched.value.map RecordedRequest.gist

/-- The requests are the same, at different times of day perhaps. -/
structure Visit.Twins (visit visit' : Visit) : Prop where
  head : visit.head = visit'.head
  frames : visit.frames = visit'.frames
  now : visit.now = visit'.now

theorem Visit.Twins.request_eq {visit visit' : Visit} (h : visit.Twins visit') :
    visit.request = visit'.request := by
  rw [request, request, h.head, h.frames]

namespace ServerState

variable {state state' : ServerState}

/-- The servers differ in nothing but verbosity, their own and that of their stubs, and in times of
day. -/
structure Twins (state state' : ServerState) : Prop where
  registry : state.registry.hushed = state'.registry.hushed
  journal : state.journal.Twins state'.journal

theorem twins_record (h : state.journal.Twins state'.journal) (head : Request.Head)
    (timestamp timestamp' : Timestamp)
    {found found' : Option Stub} (hfound : found.isSome = found'.isSome) :
    (state.record (.ofHead timestamp head) found).journal.Twins
      (state'.record (.ofHead timestamp' head) found').journal := by
  cases found with
  | none =>
    cases found' with
    | some => cases hfound
    | none =>
      refine ⟨h.mode, h.matched, ?_⟩
      simp only [record, Journal.recordUnmatched_unmatched, List.map_append, h.unmatched]
      rfl
  | some =>
    cases found' with
    | none => cases hfound
    | some =>
      refine ⟨?_, ?_, ?_⟩
      · simp only [record, Journal.recordMatched_mode, h.mode]
      · simp only [record, Journal.recordMatched_matched, List.map_append, h.matched, h.mode]
        split <;> rfl
      · simp only [record, Journal.recordMatched_unmatched, h.unmatched]

/-- What a quiet server says of a request that matches nothing. -/
def regret (head : Request.Head) : String :=
  "No matched mapping for request: " ++ (head.method ++ " " ++ head.uri.text)

/-- What a verbose server adds to it. -/
def advice (state : ServerState) : String :=
  if state.verbose then "\n\nAvailable stubs:\n" ++ state.catalogue else ""

inductive Answered (state state' : ServerState) (head : Request.Head) :
    Except String Answer → Except String Answer → Prop
  | down (reason : String) : Answered state state' head (.error reason) (.error reason)
  | missed {answer answer' : Answer} (hresponse : answer.response =
      .plain 404 [] (some (regret head ++ state.advice)))
      (hresponse' : answer'.response = .plain 404 [] (some (regret head ++ state'.advice)))
      (hready : answer.readyAt = answer'.readyAt) (hbody : answer.body = answer'.body) :
      Answered state state' head (.ok answer) (.ok answer')
  | served {answer answer' : Answer} (htwins : answer.Twins answer')
      (hreads : answer.response.ReadsLike answer'.response) :
        Answered state state' head (.ok answer) (.ok answer')

/-- What becomes of a request that comes to both servers. -/
structure Fares (state state' : ServerState) (visit visit' : Visit) : Prop where
  found : (state.registry.find visit.request state.verbose visit.now).Twins
    (state'.registry.find visit'.request state'.verbose visit'.now)
  foundAt : (state.serve visit).foundAt = (state'.serve visit').foundAt
  answered : Answered (state.serve visit).state (state'.serve visit').state visit.head
    (state.serve visit).answer
    (state'.serve visit').answer

theorem answer_none (state : ServerState) (request : Request) (timestamp : Timestamp) (now : Nat) :
    (state.answer request (.ofHead timestamp request.head) none now).response =
      .plain 404 [] (some (regret request.head ++ state.advice)) := by
  change Response.plain 404 [] (some (if state.verbose then
    (regret request.head ++ "\n\nAvailable stubs:\n" ++ state.catalogue, _)
      else (regret request.head, _)).1) = _
  rw [advice]
  split
  · rw [String.append_assoc]
  · rw [String.append_empty]

/-- What handling a request leaves when this has been found. -/
def conclude (state : ServerState) (request : Request) (timestamp : Timestamp) (found : Found) :
    Handled :=
  let state := { state with registry := found.registry }
  let request := { request with body := found.body }
  match found.result with
  | .returned stub? =>
    let record := RecordedRequest.ofHead timestamp request.head
    let state := state.record record stub?
    let answer := state.answer request record stub? found.endedAt
    ⟨state, .ok answer, found.endedAt, found.log ++ answer.log⟩
  | .failed reason | .panicked reason => ⟨state, .error reason, found.endedAt, found.log⟩

theorem serve_eq_conclude (state : ServerState) (visit : Visit) : state.serve visit =
    state.conclude visit.request visit.timestamp
      (state.registry.find visit.request state.verbose visit.now) := rfl

theorem Twins.conclude (h : state.Twins state') {found found' : Found} (hfound : found.Twins found')
    (request : Request) (timestamp timestamp' : Timestamp) :
    (state.conclude request timestamp found).state.Twins
      (state'.conclude request timestamp' found').state ∧
      (state.conclude request timestamp found).foundAt =
        (state'.conclude request timestamp' found').foundAt ∧
      Answered (state.conclude request timestamp found).state
        (state'.conclude request timestamp' found').state
        request.head (state.conclude request timestamp found).answer
        (state'.conclude request timestamp' found').answer := by
  obtain ⟨result, registry, body, endedAt, log⟩ := found
  obtain ⟨result', registry', body', endedAt', log'⟩ := found'
  obtain ⟨hresult, hregistry, hbody, hended⟩ := hfound
  obtain rfl : body = body' := hbody
  obtain rfl : endedAt = endedAt' := hended
  cases Outcome.rel_of_map_eq hresult with
  | failed reason => exact ⟨⟨hregistry, h.journal⟩, rfl, .down reason⟩
  | panicked reason => exact ⟨⟨hregistry, h.journal⟩, rfl, .down reason⟩
  | @returned found found' hsame =>
    have hsome : found.isSome = found'.isSome := by
      rw [← Option.isSome_map, hsame, Option.isSome_map]
    have hjournal :
        (({ state with registry } : ServerState).record (.ofHead timestamp request.head)
          found).journal.Twins
          (({ state' with registry := registry' } : ServerState).record (.ofHead timestamp' request.head)
            found').journal :=
      twins_record h.journal request.head timestamp timestamp' hsome
    cases found with
    | none =>
      cases found' with
      | some => cases hsome
      | none =>
        exact ⟨⟨hregistry, hjournal⟩, rfl,
          .missed (answer_none _ { request with body } timestamp endedAt)
          (answer_none _ { request with body } timestamp' endedAt) rfl rfl⟩
    | some stub =>
      cases found' with
      | none => cases hsome
      | some stub' =>
        have htwins := Stub.twins_respond (Option.some.inj hsame) { request with body }
          (state.verbose || stub.configuration.verbose)
            (state'.verbose || stub'.configuration.verbose) endedAt
        exact ⟨⟨hregistry, hjournal⟩, rfl, .served ⟨htwins.response, htwins.readyAt, htwins.body,
          htwins.abandoned⟩
          htwins.response.readsLike⟩

theorem Twins.serve (h : state.Twins state') {visit visit' : Visit} (hvisit : visit.Twins visit') :
    (state.serve visit).state.Twins (state'.serve visit').state ∧ Fares state state' visit visit' := by
  have hfind : (state.registry.find visit.request state.verbose visit.now).Twins
      (state'.registry.find visit'.request state'.verbose visit'.now) := by
    rw [← hvisit.request_eq, ← hvisit.now]
    exact Registry.find_twins h.registry visit.request state.verbose state'.verbose visit.now
  obtain ⟨hstate, hfoundAt, hanswered⟩ := h.conclude hfind visit.request visit.timestamp visit'.timestamp
  have hserve' : state'.serve visit' = state'.conclude visit.request visit'.timestamp
      (state'.registry.find visit'.request state'.verbose visit'.now) := by
    rw [serve_eq_conclude, hvisit.request_eq]
  refine ⟨?_, hfind, ?_, ?_⟩
  · rwa [serve_eq_conclude, hserve']
  · rwa [serve_eq_conclude, hserve']
  · rwa [serve_eq_conclude, hserve']

theorem Twins.serveAll (h : state.Twins state') {visits visits' : List Visit}
    (hvisits : List.Forall₂ Visit.Twins visits visits') :
    (state.serveAll visits).Twins (state'.serveAll visits') := by
  induction hvisits generalizing state state' with
  | nil => exact h
  | cons hvisit hvisits ih => exact ih (h.serve hvisit).1

/-- Verbosity is only seen in what is reported. Two servers that differ in nothing else stay so, and
every request fares alike in both. -/
theorem verbosity_unseen (h : state.Twins state') {visits visits' : List Visit}
    (hvisits : List.Forall₂ Visit.Twins visits visits') :
    (state.serveAll visits).Twins (state'.serveAll visits') ∧
      ∀ visit visit' : Visit, visit.Twins visit' →
        Fares (state.serveAll visits) (state'.serveAll visits') visit visit' := by
  have htwins := h.serveAll hvisits
  exact ⟨htwins, fun visit visit' hvisit => (htwins.serve hvisit).2⟩

def telling (verbose : Bool) : ServerState :=
  let stub : Stub := ⟨⟨none, true, verbose⟩, (Matching.Specification.any .text).erase,
    fun _ => .readBody fun _ => .done (.returned (.chunks (.list ["a", "b"]))), 1⟩
  ⟨⟨.new [stub], fun _ => 0, []⟩, .new .full, verbose⟩

def posted (timestamp : Timestamp) : Visit :=
  ⟨⟨"POST", ⟨none, none, "/", none⟩, .http11, ⟨[]⟩⟩, [⟨3, .data [97]⟩], timestamp, 0⟩

theorem verbosity_unseen_telling :
    (telling false).Twins (telling true) ∧ (posted ⟨1, 0⟩).Twins (posted ⟨2, 0⟩) ∧
      ((telling false).serveAll [posted ⟨1, 0⟩]).Twins ((telling true).serveAll [posted ⟨2, 0⟩]) ∧
      ∀ visit visit' : Visit, visit.Twins visit' →
        Fares ((telling false).serveAll [posted ⟨1, 0⟩]) ((telling true).serveAll [posted ⟨2, 0⟩])
          visit visit' := by
  have hstates : (telling false).Twins (telling true) := ⟨rfl, rfl, rfl, rfl⟩
  have hvisits : (posted ⟨1, 0⟩).Twins (posted ⟨2, 0⟩) := ⟨rfl, rfl, rfl⟩
  exact ⟨hstates, hvisits, verbosity_unseen hstates (.cons hvisits .nil)⟩

end ServerState

end StubServer
