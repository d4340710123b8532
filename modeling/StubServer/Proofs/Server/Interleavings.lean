import StubServer.Proofs.Server.Schedules
import StubServer.Proofs.Server.Tally

namespace StubServer

/-- What a journal will keep of the request, but for the time. -/
def Request.gist (request : Request) : Gist := (RecordedRequest.ofHead ⟨0, 0⟩ request.head).gist

namespace ServerState

variable {state state' state'' : ServerState}

/-- What does not change while requests are handled. -/
structure Steady (state state' : ServerState) : Prop where
  list : state'.registry.list = state.registry.list
  verbose : state'.verbose = state.verbose
  mode : state'.journal.mode = state.journal.mode

theorem Steady.trans (h : state.Steady state') (h' : state'.Steady state'') : state.Steady state'' :=
  ⟨h'.list.trans h.list, h'.verbose.trans h.verbose, h'.mode.trans h.mode⟩

theorem record_mode (state : ServerState) (record : RecordedRequest) (found : Option Stub) :
    (state.record record found).journal.mode = state.journal.mode := by
  cases found with
  | none => rfl
  | some stub => exact Journal.recordMatched_mode state.journal record

def chosen (state : ServerState) (request : Request) : Outcome (Option Stub) :=
  choose (·.ruling request) state.registry.list

/-- What becomes of a request with nobody else around: it gets a stub, or none, and a response; or
code of the user brings it down. -/
def ending (state : ServerState) (request : Request) : Except String (Option Stub × Response) :=
  match state.chosen request with
  | .returned found => .ok (found, state.responseTo request found)
  | .failed reason | .panicked reason => .error reason

def entry (state : ServerState) (request : Request) : Tally :=
  match state.chosen request with
  | .returned found => state.journal.mode.entry request.gist found
  | .failed _ | .panicked _ => 0

end ServerState

namespace Exchange

/-- How far request number `n` has come on the way to what becomes of it with nobody else around. -/
inductive Stands (state : ServerState) (request : Request) (n : Nat) (e : Exchange) : Prop
  | finding {find : Find} (h : e.Awaits state.registry.list request n find)
  | replied {answer : Answer} {timestamp : Timestamp} {found : Option Stub}
      (h : e.handling = .answering answer ∨ e.handling = .answered answer)
      (hfound : e.found = some (.ofHead timestamp request.head, found))
      (hchosen : state.chosen request = .returned found)
      (hresponse : answer.response = state.responseTo request found)
  | failed {reason : String} (h : e.handling = .failed reason) (hfound : e.found = none)
      (hchosen : state.chosen request = .panicked reason)

structure Advances (state : ServerState) (request : Request) (n : Nat) (before : ServerState)
    (e : Exchange) (after : ServerState) (e' : Exchange) : Prop where
  steady : before.Steady after
  stands : e'.Stands state request n
  turn : e.Turn n before.registry.queue e' after.registry.queue
  tally : after.tally + e.entry before.journal.mode = before.tally + e'.entry before.journal.mode
  left_lt : e.ending? = none → (e.handling = .finding .queued → before.registry.queue.head? = some n) →
    e'.left state.registry.list < e.left state.registry.list

variable {state before : ServerState} {request : Request} {n : Nat} {e : Exchange}

theorem ending?_of_stands (h : e.Stands state request n) :
    e.ending? = none ∨ e.ending? = some (state.ending request) := by
  cases h with
  | finding h => exact .inl (by simp only [ending?, h.handling])
  | replied h hfound hchosen hresponse =>
    obtain h | h := h
    · exact .inl (by simp only [ending?, h])
    · exact .inr (by simp only [ending?, h, hfound, ServerState.ending, hchosen, hresponse])
  | failed h hfound hchosen => exact .inr (by simp only [ending?, h, ServerState.ending, hchosen])

theorem entry_of_stands (h : e.Stands state request n) (hover : e.ending?.isSome) :
    e.entry state.journal.mode = state.entry request := by
  cases h with
  | finding h =>
    simp only [ending?, h.handling] at hover
    cases hover
  | replied h hfound hchosen hresponse =>
    simp only [entry, hfound, ServerState.entry, hchosen]
    rfl
  | failed h hfound hchosen => simp only [entry, hfound, ServerState.entry, hchosen]

theorem tally_of_agrees {after : ServerState} {e' : Exchange} {mode : JournalMode}
    (h : before.Agrees after)
    (hfound : e'.found = e.found) : after.tally + e.entry mode = before.tally + e'.entry mode := by
  rw [ServerState.tally_of_agrees h, entry, entry, hfound]

section

variable (hsteady : state.Steady before)
  (honce : ∀ stub ∈ state.registry.list, stub.configuration.removeAfterMatch = false)
  (hfirst : e.isServed → before.registry.queue.head? = some n)
  (hin : before.registry.queue.head? = some n → e.isInLine)

include hsteady honce hfirst hin

theorem advances_finding {find : Find} (h : e.Awaits state.registry.list request n find)
    (timestamp : Timestamp) (now : Nat) :
    Advances state request n before e (e.resume before timestamp now).1
      (e.resume before timestamp now).2.1 := by
  have hnothing : e.entry before.journal.mode = 0 := by rw [entry, h.found]
  rw [← hsteady.list] at h
  have hproceeds := proceeds_resume h hfirst hin timestamp now
  generalize (e.resume before timestamp now).1 = after,
    (e.resume before timestamp now).2.1 = e' at hproceeds ⊢
  have hlist := hsteady.list
  cases hproceeds with
  | waits h' hlist' hcounts hturn hleft =>
    refine ⟨⟨hlist', rfl, rfl⟩, .finding (hlist ▸ h'), hturn, ?_, fun _ hqueued => hlist ▸ hleft hqueued⟩
    exact tally_of_agrees ⟨hlist', hcounts, rfl⟩ (h'.found.trans h.found.symm)
  | @finds registry _ answer found hchosen _ hturn hlist' hcounts hanswer hfound' hresponse hless =>
    have hchosen' : state.chosen request = .returned found := by
      rw [← hchosen, hlist, ServerState.chosen]
    -- The stub that has been found stays.
    have hleft : Find.listLeft found before.registry.list = before.registry.list := by
      cases found with
      | none => rfl
      | some stub => rw [Find.listLeft, Find.listAfter, honce stub (mem_of_choose hchosen')]; rfl
    have hkept :
      before.Steady ({ before with registry }.record (.ofHead timestamp request.head) found) :=
      ⟨hlist'.trans hleft, rfl, ServerState.record_mode { before with registry } _ found⟩
    have hresponse' : answer.response = state.responseTo request found := by
      rw [hresponse]
      exact ServerState.responseTo_congr (hsteady.trans hkept).list
        (hsteady.trans hkept).verbose request found
    refine ⟨hkept, .replied (.inl hanswer) hfound' hchosen' hresponse', hturn, ?_, fun _ _ =>
      hlist ▸ hless⟩
    rw [hnothing, add_zero, entry, hfound']
    exact ServerState.tally_found rfl hcounts
  | @escapes _ _ reason hchosen hturn hlist' hcounts hfailed hfound' hless =>
    have hchosen' : state.chosen request = .panicked reason := by
      rw [← hchosen, hlist, ServerState.chosen]
    refine ⟨⟨hlist', rfl, rfl⟩, .failed hfailed hfound' hchosen', hturn, ?_, fun _ _ => hlist ▸ hless⟩
    exact tally_of_agrees ⟨hlist', hcounts, rfl⟩ (hfound'.trans h.found.symm)

theorem advances_resume (h : e.Stands state request n) (timestamp : Timestamp) (now : Nat) :
    Advances state request n before e (e.resume before timestamp now).1
      (e.resume before timestamp now).2.1 := by
  cases h with
  | finding h => exact advances_finding hsteady honce hfirst hin h timestamp now
  | replied h hfound hchosen hresponse =>
    obtain ⟨hstate, hanswered, hfound', hturn, hleft⟩ :=
      ends_resume h (Option.isSome_of_eq_some hfound) before n
      timestamp now
    have hagrees : before.Agrees (e.resume before timestamp now).1 ∧
        before.Steady (e.resume before timestamp now).1 := by
      rw [hstate]
      exact ⟨⟨rfl, rfl, rfl⟩, rfl, rfl, rfl⟩
    refine ⟨hagrees.2, .replied (.inr hanswered) (hfound'.trans hfound) hchosen hresponse, hturn, ?_,
      fun hopen _ => hleft _ hopen⟩
    exact tally_of_agrees hagrees.1 hfound'
  | failed h hfound hchosen =>
    simp only [resume, h]
    refine ⟨⟨rfl, rfl, rfl⟩, .failed h hfound hchosen, .keeps rfl hfirst, rfl, fun hopen _ => ?_⟩
    simp only [ending?, h] at hopen
    cases hopen

end

end Exchange

namespace Service

structure Among (state : ServerState) (requests : List Request) (s : Service) : Prop where
  steady : state.Steady s.state
  stands : Each (fun n request e => e.Stands state request n) requests s.exchanges
  queues : s.Queues
  tally : s.state.tally = state.tally + (s.exchanges.map (·.entry state.journal.mode)).sum

variable {state : ServerState} {requests : List Request} {s : Service} {n : Nat} {e : Exchange}

theorem among_idle (hidle : state.registry.queue = []) : Among state [] (idle state) :=
  ⟨⟨rfl, rfl, rfl⟩, .nil, queues_idle hidle, (add_zero _).symm⟩

theorem among_arrive (h : Among state requests s) {request : Request}
    (hfresh : request.body.queue = []) :
    Among state (requests ++ [request]) (s.step (.arrive request)) := by
  refine ⟨h.steady, h.stands.concat ?_, h.queues.arrive request, ?_⟩
  · exact .finding (Exchange.awaits_new hfresh state.registry.list _ s.state.verbose)
  · rw [step, List.map_append, List.sum_append, h.tally]
    exact congrArg _ (add_zero _).symm

section

variable (honce : ∀ stub ∈ state.registry.list, stub.configuration.removeAfterMatch = false)

include honce in
theorem Among.advances (h : Among state requests s) (hn : s.exchanges[n]? = some e)
    (timestamp : Timestamp)
    (now : Nat) : ∃ request, requests[n]? = some request ∧ Exchange.Advances state request n s.state e
      (e.resume s.state timestamp now).1 (e.resume s.state timestamp now).2.1 := by
  obtain ⟨request, hrequest, hstands⟩ := h.stands.request hn
  exact ⟨request, hrequest, Exchange.advances_resume h.steady honce (h.queues.first n e hn)
    (h.queues.isInLine hn)
    hstands timestamp now⟩

include honce in
theorem among_resume (h : Among state requests s) (n : Nat) (timestamp : Timestamp) (now : Nat) :
    Among state requests (s.step (.resume n timestamp now)) := by
  cases hn : s.exchanges[n]? with
  | none =>
    rw [step, hn]
    exact h
  | some e =>
    obtain ⟨request, hrequest, hadvances⟩ := h.advances honce hn timestamp now
    rw [step_resume hn]
    generalize e.resume s.state timestamp now = resumed at hadvances
    refine ⟨h.steady.trans hadvances.steady,
      h.stands.set hrequest hadvances.stands fun _ _ _ _ _ hm => hm,
      h.queues.set hn hadvances.turn, ?_⟩
    -- What comes into the books is what the find of this request has come back with.
    have hsum := sum_map_set (Exchange.entry state.journal.mode) hn resumed.2.1
    have htally := hadvances.tally
    rw [h.steady.mode, h.tally, add_assoc, ← hsum, ← add_assoc] at htally
    exact add_right_cancel htally

include honce in
theorem among_run (hidle : state.registry.queue = []) {events : List Event}
    (hevents : ∀ event ∈ events, event.isHandling)
    (hfresh : ∀ request ∈ arrivals events, request.body.queue = []) :
    Among state (arrivals events) (runFrom state events) :=
  runFrom_induction (among_idle hidle) (fun _ _ _ hfresh h => among_arrive h hfresh)
    (fun _ _ n timestamp now h => among_resume honce h n timestamp now) hevents hfresh

include honce in
theorem over_of_resumes (h : Among state requests s) (timestamp : Timestamp) (now : Nat) :
    ∃ turns : List Nat, ((turns.map fun n => Event.resume n timestamp now).foldl step s).isOver := by
  refine over_of_lowers (P := Among state requests)
    (fun s => (s.exchanges.map (Exchange.left state.registry.list)).sum) (fun _ h => h.queues)
    (fun _ n h => among_resume honce h n timestamp now) (fun s n e h hn hopen hturn => ?_) h
  obtain ⟨request, -, hadvances⟩ := h.advances honce hn timestamp now
  have hless := hadvances.left_lt hopen hturn
  have hsum := sum_map_set (Exchange.left state.registry.list) hn (e.resume s.state timestamp now).2.1
  rw [step_resume hn]
  dsimp only
  omega

theorem ending_of_over (h : Among state requests s) (hover : s.isOver) {request : Request}
    (hrequest : requests[n]? = some request) : s.ending? n = some (state.ending request) := by
  obtain ⟨e, hn, hstands⟩ := h.stands.exchange hrequest
  have hsome := List.all_eq_true.mp hover _ (List.mem_of_getElem? hn)
  rw [ending?, hn, Option.bind_some]
  obtain hnone | hending := Exchange.ending?_of_stands hstands
  · rw [hnone] at hsome
    cases hsome
  · exact hending

/-- When all requests are over, each has added to the books what it would add with nobody else around. -/
theorem tally_of_over (h : Among state requests s) (hover : s.isOver) :
    s.state.tally = state.tally + (requests.map state.entry).sum := by
  have hentries : s.exchanges.map (Exchange.entry state.journal.mode) = requests.map state.entry := by
    refine List.ext_getElem (by rw [List.length_map, List.length_map, h.stands.length_eq])
      fun n hn hn' => ?_
    rw [List.length_map] at hn hn'
    rw [List.getElem_map, List.getElem_map]
    exact Exchange.entry_of_stands (h.stands.each n _ _ (List.getElem?_eq_getElem hn')
      (List.getElem?_eq_getElem hn))
      (List.all_eq_true.mp hover _ (List.getElem_mem hn))
  rw [h.tally, hentries]

/-- The same has become of requests, in two servers to which they have come in different order. -/
structure Alike (requests requests' : List Request) (s s' : Service) : Prop where
  endings : ∀ (n n' : Nat) (request : Request), requests[n]? = some request →
    requests'[n']? = some request →
    ∃ ending, s.ending? n = some ending ∧ s'.ending? n' = some ending
  counts : ∀ stub, s.state.registry.countOf stub = s'.state.registry.countOf stub
  missed : s.state.missedGists = s'.state.missedGists
  served : s.state.servedGists = s'.state.servedGists

/-- Requests fare alike in all interleavings, as long as no stub is for single use; and every
interleaving goes on until all requests are over. -/
theorem interleavings_agree {state : ServerState} (hidle : state.registry.queue = [])
    (honce : ∀ stub ∈ state.registry.list, stub.configuration.removeAfterMatch = false)
      {events events' : List Event}
    (hevents : ∀ event ∈ events, event.isHandling) (hevents' : ∀ event ∈ events', event.isHandling)
    (hfresh : ∀ request ∈ arrivals events, request.body.queue = [])
    (hsame : (arrivals events).Perm (arrivals events')) :
    (∀ timestamp now, ∃ turns : List Nat,
      (runFrom state (events ++ turns.map fun n => Event.resume n timestamp now)).isOver) ∧
      ((runFrom state events).isOver → (runFrom state events').isOver →
        Alike (arrivals events) (arrivals events') (runFrom state events) (runFrom state events')) := by
  have hamong := among_run honce hidle hevents hfresh
  have hamong' := among_run honce hidle hevents' fun request hin =>
    hfresh request (hsame.mem_iff.mpr hin)
  refine ⟨fun timestamp now => ?_, fun hover hover' => ?_⟩
  · obtain ⟨turns, hdone⟩ := over_of_resumes honce hamong timestamp now
    refine ⟨turns, ?_⟩
    rwa [runFrom, List.foldl_append]
  · have htally : (runFrom state events).state.tally = (runFrom state events').state.tally := by
      rw [tally_of_over hamong hover, tally_of_over hamong' hover', (hsame.map state.entry).sum_eq]
    refine ⟨fun n n' request hn hn' => ?_, fun stub => ?_, ?_, ?_⟩
    · exact ⟨_, ending_of_over hamong hover hn, ending_of_over hamong' hover' hn'⟩
    · exact congrFun (congrArg Prod.fst htally) stub.created
    · exact congrArg (·.2.1) htally
    · exact congrArg (·.2.2) htally

end

def waiting : ServerState :=
  ⟨⟨.new [⟨.blank, (Matching.Specification.ofCriteria .text
    [.bodyText (.ofBool "" fun text => text == "a")]).erase,
    fun _ => .readBody fun _ => .done (.failed ""), 1⟩], fun _ => 0, []⟩, .new .full, false⟩

def posting (bytes : Bytes) : Request :=
  ⟨⟨"POST", ⟨none, none, "/", none⟩, .http11, ⟨[]⟩⟩, .ofFrames [⟨5, .data bytes⟩]⟩

def sideBySide : List Event :=
  .arrive (posting [97]) :: .arrive (posting []) :: (List.range 16).map fun i => .resume (i % 2) ⟨i, 0⟩ i

def oneByOne : List Event :=
  .arrive (posting []) :: List.replicate 5 (.resume 0 ⟨0, 0⟩ 0) ++
    .arrive (posting [97]) :: List.replicate 5 (.resume 1 ⟨0, 0⟩ 0)

theorem interleavings_agree_waiting :
    (runFrom waiting sideBySide).isOver ∧ (runFrom waiting oneByOne).isOver ∧
      Alike (arrivals sideBySide) (arrivals oneByOne) (runFrom waiting sideBySide)
        (runFrom waiting oneByOne) :=
  ⟨rfl, rfl, (interleavings_agree (rfl : waiting.registry.queue = []) (by decide) (by decide)
    (by decide) (by decide) (by decide)).2 rfl rfl⟩

end Service

end StubServer
