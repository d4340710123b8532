import Mathlib.Data.List.Forall2
import StubServer.Proofs.Matching.Calm
import StubServer.Proofs.Server.Alone
import StubServer.Proofs.Stub.Answering

namespace StubServer

open Matching (Ruling Specification)
open Request (BodyError)

theorem Matching.Ruling.verdict_eq_true {ruling : Ruling} :
    ruling.verdict = .ok true ↔ ruling = .settled (.ok true) := by
  cases ruling with
  | escaped reason => simp [verdict]
  | settled result =>
    cases result with
    | error e => simp [verdict, Matching.passes]
    | ok passed => simp [verdict, Matching.passes]

section

variable {rulingOf rulingOf' : Stub → Ruling} {stubs stubs' : List Stub}

theorem choose_cons {stub : Stub} {rest : List Stub} {passed : Bool}
    (h : (rulingOf stub).verdict = .ok passed) :
    choose rulingOf (stub :: rest) = if passed then .returned (some stub) else choose rulingOf rest := by
  rw [choose]
  cases hruling : rulingOf stub with
  | escaped reason =>
    rw [hruling] at h
    cases h
  | settled result =>
    rw [hruling] at h
    cases h
    cases result with
    | error e => rfl
    | ok passed => cases passed <;> rfl

theorem choose_cases (h : ∀ stub ∈ stubs, ∃ passed, (rulingOf stub).verdict = .ok passed) :
    (choose rulingOf stubs = .returned none ∧ ∀ stub ∈ stubs, rulingOf stub ≠ .settled (.ok true)) ∨
      ∃ before stub rest, stubs = before ++ stub :: rest ∧
        (∀ s ∈ before, rulingOf s ≠ .settled (.ok true)) ∧ rulingOf stub = .settled (.ok true) ∧
        choose rulingOf stubs = .returned (some stub) := by
  induction stubs with
  | nil => exact .inl ⟨rfl, by simp⟩
  | cons head tail ih =>
    obtain ⟨passed, hpassed⟩ := h head List.mem_cons_self
    have hchoose : choose rulingOf (head :: tail) = _ := choose_cons hpassed
    cases passed with
    | true => exact .inr ⟨[], head, tail, rfl, by simp, Ruling.verdict_eq_true.mp hpassed, hchoose⟩
    | false =>
      have hhead : rulingOf head ≠ .settled (.ok true) := by
        intro he
        rw [Ruling.verdict_eq_true.mpr he] at hpassed
        cases hpassed
      rw [hchoose]
      obtain ⟨hnone, hall⟩ | ⟨before, stub, rest, rfl, hbefore, haccepts, hsome⟩ :=
        ih fun stub hstub => h stub (List.mem_cons_of_mem head hstub)
      · exact .inl ⟨hnone, List.forall_mem_cons.mpr ⟨hhead, hall⟩⟩
      · refine .inr ⟨head :: before, stub, rest, rfl, ?_, haccepts, hsome⟩
        exact List.forall_mem_cons.mpr ⟨hhead, hbefore⟩

end

/-- The stub has matchers of any kind, and a decoder that may fail but does not panic. -/
def Stub.Decodes (stub : Stub) : Prop :=
  ∃ (P : Type) (spec : Specification P), spec.Decodes ∧ stub.specification = spec.erase

theorem Stub.verdict_of_decodes {stub : Stub} (h : stub.Decodes) {request : Request}
    (hfresh : request.body.queue = []) : ∃ passed, (stub.ruling request).verdict = .ok passed := by
  obtain ⟨P, spec, hdecodes, hspec⟩ := h
  rw [stub.ruling_eq hfresh, rulingOn, hspec, Specification.erase]
  simp only [Specification.judge]
  cases spec.onHead request.head with
  | error e => exact ⟨_, rfl⟩
  | ok passed =>
    cases passed with
    | false => exact ⟨_, rfl⟩
    | true =>
      cases spec.needsBody with
      | false => exact ⟨_, rfl⟩
      | true => exact Specification.verdict_onBody_of_decodes hdecodes request.body.outcome

namespace ServerState

def counted (state : ServerState) (request : Request) (timestamp : Timestamp) (stub : Stub) :
    ServerState :=
  { state with
    registry := state.registry.after (.returned (some stub))
    journal := state.journal.recordMatched (.ofHead timestamp request.head) }

/-- How a request is served: the response, and the state that is left. -/
inductive Serves (state : ServerState) (request : Request) (timestamp : Timestamp) :
    Response → ServerState → Prop
  | missed (h : ∀ stub ∈ state.registry.list, ¬stub.Accepts request) :
      Serves state request timestamp (state.notFound request.head)
        { state with journal := state.journal.recordUnmatched (.ofHead timestamp request.head) }
  | matched {before rest : List Stub} {stub : Stub} (h : state.registry.list = before ++ stub :: rest)
      (hbefore : ∀ s ∈ before, ¬s.Accepts request) (haccepts : stub.Accepts request) :
      Serves state request timestamp
        (match stub.yields request.head request.body.outcome
          (state.verbose || stub.configuration.verbose) with
          | .returned response => response
          | .failed reason => .plain 500 [] (some ("Stub responder failed: " ++ reason))
          | .panicked reason => .plain 500 [] (some ("Stub responder panicked: " ++ reason)))
        (state.counted request timestamp stub)

variable {state : ServerState} {request : Request}

theorem handle_answer (hqueue : state.registry.queue = []) (hfresh : request.body.queue = [])
    {found : Option Stub}
    (hchoose : choose (·.ruling request) state.registry.list = .returned found) (timestamp : Timestamp)
    (now : Nat) : ∃ answer, (state.handle request timestamp now).answer = .ok answer ∧
      answer.response = state.responseTo request found := by
  have hresult := Registry.find_result hqueue hfresh state.verbose now
  have hregistry := Registry.find_registry hqueue hfresh state.verbose now
  obtain ⟨hbody, houtcome⟩ := Registry.find_body hqueue hfresh state.verbose now
  rw [hchoose] at hresult hregistry
  rw [handle]
  generalize state.registry.find request state.verbose now = ended at hresult hregistry hbody houtcome
  obtain ⟨result, registry, body, endedAt, log⟩ := ended
  obtain rfl : result = _ := hresult
  refine ⟨_, rfl, (answer_response _ hbody timestamp found endedAt).trans ?_⟩
  cases found with
  | none =>
    obtain rfl : registry = state.registry := hregistry
    exact notFound_congr request.head rfl rfl
  | some stub => simp only [responseTo, houtcome, record]

theorem settled_none (h : choose (·.ruling request) state.registry.list = .returned none)
    (timestamp : Timestamp) :
    state.settled request timestamp =
      { state with journal := state.journal.recordUnmatched (.ofHead timestamp request.head) } := by
  simp only [settled, h]
  rfl

theorem settled_some {stub : Stub}
    (h : choose (·.ruling request) state.registry.list = .returned (some stub))
    (timestamp : Timestamp) : state.settled request timestamp =
      state.counted request timestamp stub := by
  simp only [settled, h]
  rfl

theorem serves_handle (hqueue : state.registry.queue = []) (hfresh : request.body.queue = [])
    (hdecodes : ∀ stub ∈ state.registry.list, stub.Decodes) (timestamp : Timestamp) (now : Nat) :
    ∃ answer, (state.handle request timestamp now).answer = .ok answer ∧
      state.Serves request timestamp answer.response (state.handle request timestamp now).state := by
  have hstate := handle_state hqueue hfresh timestamp now
  have hverdicts : ∀ stub ∈ state.registry.list, ∃ passed, (stub.ruling request).verdict = .ok passed :=
    fun stub hstub => Stub.verdict_of_decodes (hdecodes stub hstub) hfresh
  obtain ⟨hnone, hall⟩ | ⟨before, stub, rest, hlist, hbefore, haccepts, hsome⟩ := choose_cases hverdicts
  · obtain ⟨answer, hanswer, hresponse⟩ := handle_answer hqueue hfresh hnone timestamp now
    refine ⟨answer, hanswer, ?_⟩
    rw [hstate, hresponse, settled_none hnone]
    exact .missed hall
  · obtain ⟨answer, hanswer, hresponse⟩ := handle_answer hqueue hfresh hsome timestamp now
    refine ⟨answer, hanswer, ?_⟩
    rw [hstate, hresponse, settled_some hsome, responseTo]
    exact .matched hlist hbefore haccepts

end ServerState

/-- The other stub has predicates that say no where those of the stub fail or panic, and differs in
nothing else. -/
def Stub.CalmedBy (stub calm : Stub) : Prop :=
  ∃ (P : Type) (spec : Specification P), spec.Decodes ∧ stub.specification = spec.erase ∧
    calm = { stub with specification := spec.calm.erase }

section

variable {stub calm : Stub} {stubs calms : List Stub} {request : Request}

theorem Stub.CalmedBy.created_eq (h : stub.CalmedBy calm) : calm.created = stub.created := by
  obtain ⟨P, spec, -, -, rfl⟩ := h
  rfl

theorem Stub.CalmedBy.configuration_eq (h : stub.CalmedBy calm) :
    calm.configuration = stub.configuration := by
  obtain ⟨P, spec, -, -, rfl⟩ := h
  rfl

theorem Stub.CalmedBy.responder_eq (h : stub.CalmedBy calm) : calm.responder = stub.responder := by
  obtain ⟨P, spec, -, -, rfl⟩ := h
  rfl

theorem Stub.CalmedBy.text_eq (h : stub.CalmedBy calm) : calm.text = stub.text := by
  obtain ⟨P, spec, -, hspec, rfl⟩ := h
  have hdescription : spec.calm.erase.description = stub.specification.description := by
    rw [hspec]
    exact spec.describe_calm
  rw [Stub.text, Stub.text, hdescription]

theorem Stub.CalmedBy.decodes (h : stub.CalmedBy calm) : stub.Decodes := by
  obtain ⟨P, spec, hdecodes, hspec, -⟩ := h
  exact ⟨P, spec, hdecodes, hspec⟩

theorem Stub.CalmedBy.verdict_eq (h : stub.CalmedBy calm) (hfresh : request.body.queue = []) :
    (calm.ruling request).verdict = (stub.ruling request).verdict := by
  obtain ⟨P, spec, -, hspec, rfl⟩ := h
  have hhead := spec.onHead_calm request.head
  have hneeds := spec.needsBody_calm
  rw [Stub.ruling_eq _ hfresh, Stub.ruling_eq _ hfresh, Stub.rulingOn, Stub.rulingOn, hspec]
  simp only [Specification.erase, Specification.judge, hhead, hneeds]
  cases spec.onHead request.head with
  | error e => rfl
  | ok passed =>
    cases passed with
    | false => rfl
    | true =>
      cases spec.needsBody with
      | false => rfl
      | true => exact spec.verdict_onBody_calm request.body.outcome

theorem choose_calm (h : List.Forall₂ Stub.CalmedBy stubs calms) (hfresh : request.body.queue = []) :
    (choose (·.ruling request) stubs = .returned none ∧
      choose (·.ruling request) calms = .returned none) ∨
      ∃ stub calm, stub.CalmedBy calm ∧ choose (·.ruling request) stubs = .returned (some stub) ∧
        choose (·.ruling request) calms = .returned (some calm) := by
  induction h with
  | nil => exact .inl ⟨rfl, rfl⟩
  | @cons stub calm stubs calms hcalm hrest ih =>
    obtain ⟨passed, hpassed⟩ := Stub.verdict_of_decodes hcalm.decodes hfresh
    have hchoose : choose (·.ruling request) (stub :: stubs) = _ := choose_cons hpassed
    have hcalms : choose (·.ruling request) (calm :: calms) = _ :=
      choose_cons ((hcalm.verdict_eq hfresh).trans hpassed)
    rw [hchoose, hcalms]
    cases passed with
    | true => exact .inr ⟨stub, calm, hcalm, rfl, rfl⟩
    | false => exact ih

theorem forall₂_eraseP {R : Stub → Stub → Prop} (hcreated : ∀ a b, R a b → b.created = a.created)
    (h : List.Forall₂ R stubs calms) (n : Nat) :
    List.Forall₂ R (stubs.eraseP (·.created = n)) (calms.eraseP (·.created = n)) := by
  induction h with
  | nil => exact .nil
  | @cons stub calm stubs calms hcalm hrest ih =>
    have hsame := hcreated stub calm hcalm
    by_cases hn : stub.created = n
    · simpa [List.eraseP_cons, hsame, hn] using hrest
    · simpa [List.eraseP_cons, hsame, hn] using List.Forall₂.cons hcalm ih

theorem text_of_forall₂ (h : List.Forall₂ Stub.CalmedBy stubs calms) :
    calms.map Stub.text = stubs.map Stub.text := by
  induction h with
  | nil => rfl
  | cons hcalm hrest ih => rw [List.map_cons, List.map_cons, hcalm.text_eq, ih]

theorem decodes_of_forall₂ (h : List.Forall₂ Stub.CalmedBy stubs calms) :
    ∀ stub ∈ stubs, stub.Decodes := by
  induction h with
  | nil => exact fun stub hstub => absurd hstub List.not_mem_nil
  | cons hcalm hrest ih => exact List.forall_mem_cons.mpr ⟨hcalm.decodes, ih⟩

end

theorem Registry.list_remove (g : Registry) (stub : Stub) :
    (g.remove stub).1.list = g.list.eraseP (·.created = stub.created) := by
  rw [remove_list]
  by_cases hany : (g.list.any fun s => s.created = stub.created) = true
  · have hremoving : removing stub g.stubs.value =
      .ok (some (g.list.eraseP (·.created = stub.created))) := by
      rw [removing]
      exact congrArg Except.ok (if_pos hany)
    rw [Update.alone_some hremoving]
    rfl
  · have hremoving : removing stub g.stubs.value = .ok none := by
      rw [removing]
      exact congrArg Except.ok (if_neg hany)
    rw [Update.alone_none hremoving, List.eraseP_of_forall_not]
    · rfl
    · simpa using hany

theorem Registry.list_after (g : Registry) (stub : Stub) : (g.after (.returned (some stub))).list =
    if stub.configuration.removeAfterMatch then g.list.eraseP (·.created = stub.created)
      else g.list := by
  rw [after]
  split
  · exact list_remove (g.count stub) stub
  · rfl

theorem Registry.counts_after (g : Registry) (stub : Stub) :
    (g.after (.returned (some stub))).counts = (g.count stub).counts := by
  rw [after]
  split <;> rfl

theorem Registry.queue_after (g : Registry) (result : Outcome (Option Stub)) :
    (g.after result).queue = g.queue := by
  cases result with
  | failed | panicked => rfl
  | returned found =>
    cases found with
    | none => rfl
    | some stub =>
      rw [after]
      split <;> rfl

structure Visit where
  head : Request.Head
  frames : List Request.Arrival
  timestamp : Timestamp
  now : Nat

def Visit.request (visit : Visit) : Request := ⟨visit.head, .ofFrames visit.frames⟩

namespace ServerState

variable {state calm : ServerState} {request : Request}

/-- The other state has calm stubs in the place of its own, and differs in nothing else that
matters. -/
structure CalmedBy (state calm : ServerState) : Prop where
  stubs : List.Forall₂ Stub.CalmedBy state.registry.list calm.registry.list
  counts : calm.registry.counts = state.registry.counts
  journal : calm.journal = state.journal
  verbose : calm.verbose = state.verbose
  idle : state.registry.queue = []
  calm_idle : calm.registry.queue = []

theorem CalmedBy.settled (h : state.CalmedBy calm) (hfresh : request.body.queue = [])
    (timestamp : Timestamp) :
    (state.settled request timestamp).CalmedBy (calm.settled request timestamp) := by
  obtain ⟨hnone, hnone'⟩ | ⟨stub, calmed, hcalm, hsome, hsome'⟩ := choose_calm h.stubs hfresh
  · rw [settled_none hnone, settled_none hnone']
    exact ⟨h.stubs, h.counts, by simp only [h.journal], h.verbose, h.idle, h.calm_idle⟩
  · rw [settled_some hsome, settled_some hsome']
    refine ⟨?_, ?_, by simp only [counted, h.journal], h.verbose, ?_, ?_⟩
    · simp only [counted, Registry.list_after, hcalm.configuration_eq, hcalm.created_eq]
      split
      · exact forall₂_eraseP (fun _ _ => Stub.CalmedBy.created_eq) h.stubs stub.created
      · exact h.stubs
    · simp only [counted, Registry.counts_after, Registry.count, h.counts, hcalm.created_eq]
    · exact (Registry.queue_after _ _).trans h.idle
    · exact (Registry.queue_after _ _).trans h.calm_idle

theorem CalmedBy.responseTo (h : state.CalmedBy calm) (request : Request) :
    calm.responseTo request none = state.responseTo request none ∧
      ∀ stub calmed : Stub, stub.CalmedBy calmed →
        calm.responseTo request (some calmed) = state.responseTo request (some stub) := by
  refine ⟨?_, fun stub calmed hcalm => ?_⟩
  · have hcatalogue : calm.catalogue = state.catalogue := by
      rw [catalogue, catalogue, text_of_forall₂ h.stubs]
    exact notFound_congr request.head h.verbose hcatalogue
  · simp only [ServerState.responseTo, Stub.yields, hcalm.responder_eq, hcalm.configuration_eq,
      h.verbose]

def serve (state : ServerState) (visit : Visit) : Handled :=
  state.handle visit.request visit.timestamp visit.now

/-- The state when these requests have been handled one after the other. -/
def serveAll (state : ServerState) (visits : List Visit) : ServerState :=
  visits.foldl (fun state visit => (state.serve visit).state) state

/-- A request fares alike in both states: the same stub is found, or none; the response is the same,
and so are the counts and the journal after it. -/
structure Alike (state calm : ServerState) (visit : Visit) : Prop where
  found : (calm.registry.find visit.request calm.verbose visit.now).result.map (·.map Stub.created) =
    (state.registry.find visit.request state.verbose visit.now).result.map (·.map Stub.created)
  response : ∃ answer calmAnswer, (state.serve visit).answer = .ok answer ∧
    (calm.serve visit).answer = .ok calmAnswer ∧ calmAnswer.response = answer.response
  counts : (calm.serve visit).state.registry.counts = (state.serve visit).state.registry.counts
  journal : (calm.serve visit).state.journal = (state.serve visit).state.journal

theorem serve_state (h : state.registry.queue = []) (visit : Visit) :
    (state.serve visit).state = state.settled visit.request visit.timestamp :=
  handle_state h rfl visit.timestamp visit.now

theorem CalmedBy.serve (h : state.CalmedBy calm) (visit : Visit) :
    (state.serve visit).state.CalmedBy (calm.serve visit).state := by
  rw [serve_state h.idle, serve_state h.calm_idle]
  exact h.settled rfl visit.timestamp

theorem CalmedBy.serveAll (h : state.CalmedBy calm) (visits : List Visit) :
    (state.serveAll visits).CalmedBy (calm.serveAll visits) := by
  induction visits generalizing state calm with
  | nil => exact h
  | cons visit visits ih => exact ih (h.serve visit)

theorem CalmedBy.alike (h : state.CalmedBy calm) (visit : Visit) : Alike state calm visit := by
  have hstate := h.serve visit
  have hfresh : visit.request.body.queue = [] := rfl
  have hfind := Registry.find_result h.idle hfresh state.verbose visit.now
  have hcalm := Registry.find_result h.calm_idle hfresh calm.verbose visit.now
  obtain ⟨hmissed, hfound⟩ := h.responseTo visit.request
  obtain ⟨hnone, hnone'⟩ | ⟨stub, calmed, hstub, hsome, hsome'⟩ := choose_calm h.stubs hfresh
  · obtain ⟨answer, hanswer, hresponse⟩ := handle_answer h.idle hfresh hnone visit.timestamp visit.now
    obtain ⟨answer', hanswer', hresponse'⟩ :=
      handle_answer h.calm_idle hfresh hnone' visit.timestamp visit.now
    refine ⟨by rw [hfind, hcalm, hnone, hnone'], ⟨answer, answer', hanswer, hanswer', ?_⟩, hstate.counts,
      hstate.journal⟩
    rw [hresponse, hresponse', hmissed]
  · obtain ⟨answer, hanswer, hresponse⟩ := handle_answer h.idle hfresh hsome visit.timestamp visit.now
    obtain ⟨answer', hanswer', hresponse'⟩ :=
      handle_answer h.calm_idle hfresh hsome' visit.timestamp visit.now
    refine ⟨?_, ⟨answer, answer', hanswer, hanswer', ?_⟩, hstate.counts, hstate.journal⟩
    · rw [hfind, hcalm, hsome, hsome', Outcome.map, Outcome.map, Option.map_some, Option.map_some,
        hstub.created_eq]
    · rw [hresponse, hresponse', hfound stub calmed hstub]

theorem exists_calm (hidle : state.registry.queue = [])
    (hdecodes : ∀ stub ∈ state.registry.list, stub.Decodes) :
    ∃ calm, state.CalmedBy calm := by
  have hstubs : ∀ stubs : List Stub, (∀ stub ∈ stubs, stub.Decodes) →
      ∃ calms, List.Forall₂ Stub.CalmedBy stubs calms := by
    intro stubs hstubs
    induction stubs with
    | nil => exact ⟨[], .nil⟩
    | cons stub stubs ih =>
      obtain ⟨⟨P, spec, hspec, he⟩, hrest⟩ := List.forall_mem_cons.mp hstubs
      obtain ⟨calms, hcalms⟩ := ih hrest
      exact ⟨_, .cons ⟨P, spec, hspec, he, rfl⟩ hcalms⟩
  obtain ⟨calms, hcalms⟩ := hstubs state.registry.list hdecodes
  exact ⟨{ state with registry := { state.registry with stubs := .new calms } }, hcalms, rfl, rfl,
    rfl, hidle, hidle⟩

/-- Code of the user that fails is contained. After any requests the next one has one response, and
it fares as it would if predicates that fail said no. -/
structure Contains (state : ServerState) : Prop where
  serves : ∀ visits visit, ∃ answer, ((state.serveAll visits).serve visit).answer = .ok answer ∧
    (state.serveAll visits).Serves visit.request visit.timestamp answer.response
      ((state.serveAll visits).serve visit).state
  calm : ∃ calm, state.CalmedBy calm
  alike : ∀ calm, state.CalmedBy calm → ∀ visits visit,
    Alike (state.serveAll visits) (calm.serveAll visits) visit

/-- Only a decoder that panics could do harm. -/
theorem contains_failures (hidle : state.registry.queue = [])
    (hdecodes : ∀ stub ∈ state.registry.list, stub.Decodes) : state.Contains := by
  obtain ⟨calm, hcalm⟩ := exists_calm hidle hdecodes
  refine ⟨fun visits visit => ?_, ⟨calm, hcalm⟩, fun calm hcalm visits => (hcalm.serveAll visits).alike⟩
  have h := hcalm.serveAll visits
  exact serves_handle h.idle rfl (decodes_of_forall₂ h.stubs) visit.timestamp visit.now

def risky : ServerState :=
  let shy : Stub :=
    ⟨.blank, (Specification.ofCriteria .text [.path ⟨"", fun _ => .panicked "test"⟩]).erase,
    fun _ => .done (.failed ""), 1⟩
  let eager : Stub := ⟨.blank, (Specification.any .text).erase,
    fun _ => .readBody fun _ => .done (.panicked "respond"), 2⟩
  ⟨⟨.new [shy, eager], fun _ => 0, []⟩, .new .full, false⟩

theorem contains_failures_risky :
    risky.registry.queue = [] ∧ (∀ stub ∈ risky.registry.list, stub.Decodes) ∧ risky.Contains := by
  have htext : ∀ spec : Specification String, spec.decoder = .text → spec.Decodes := by
    intro spec hdecoder bytes reason hpanics
    rw [hdecoder] at hpanics
    cases hpanics
  have hdecodes : ∀ stub ∈ risky.registry.list, stub.Decodes := by
    intro stub hstub
    obtain rfl | rfl : stub = _ ∨ stub = _ := by simpa [risky, Registry.list, Cell.new] using hstub
    all_goals
      refine ⟨String, _, ?_, rfl⟩
      exact htext _ rfl
  exact ⟨rfl, hdecodes, contains_failures rfl hdecodes⟩

end ServerState

end StubServer
