import StubServer.Proofs.Stub.Selection
import StubServer.Server.Handling

namespace StubServer

open Matching (Ruling)
open Request (Reader BodyError)

/-- The result of the work, if the body comes to this outcome whenever it is read. -/
def Work.value {α : Type} (outcome : Except BodyError Bytes) : Work α → α
  | .done a => a
  | .sleep _ next => next.value outcome
  | .readBody next => (next outcome).value outcome

theorem Work.run_fst {α : Type} (work : Work α) {body : Request.Body} (h : body.queue = []) :
    (work.run body).1 = work.value body.outcome := by
  induction work generalizing body with
  | done a => rfl
  | sleep millis next ih => exact ih h
  | readBody next ih =>
    obtain ⟨hqueue, houtcome⟩ := Request.Body.read_leaves h
    have hrun := ih body.read.1 hqueue
    rw [houtcome, Request.Body.read_fst h] at hrun
    rw [value, ← hrun, ← Request.Body.read_fst h]
    rfl

namespace Stub

/-- What comes of the responder, and of making a response from its definition. -/
def yields (stub : Stub) (head : Request.Head) (outcome : Except BodyError Bytes) (verbose : Bool) :
    Outcome Response :=
  match (stub.responder head).value outcome with
  | .returned definition => (definition.render verbose).outcome
  | .failed reason => .failed reason
  | .panicked reason => .panicked reason

def reply : Outcome Response → Response
  | .returned response => response
  | .failed reason => internalError ("Stub responder failed: " ++ reason)
  | .panicked reason => internalError ("Stub responder panicked: " ++ reason)

theorem respond_response (stub : Stub) {request : Request} (h : request.body.queue = []) (verbose : Bool)
    (now : Nat) : (stub.respond request verbose now).response =
      reply (stub.yields request.head request.body.outcome verbose) := by
  have hrun := Work.run_fst (stub.responder request.head) h
  rw [yields, ← hrun, respond]
  generalize (stub.responder request.head).run request.body = ran
  obtain ⟨outcome, body, elapsed⟩ := ran
  cases outcome with
  | failed reason => rfl
  | panicked reason => rfl
  | returned definition =>
    simp only
    cases (definition.render verbose).outcome <;> rfl

end Stub

namespace Find

variable {q : Query} {outcome : Except BodyError Bytes} {world : World} {find : Find}

/-- The find leaves the body as it is for others. -/
def Spares (q : Query) (outcome : Except BodyError Bytes) (world : World) : Find → Prop
  | .reading _ _ _ reader => reader.Tends q.me outcome world.body
  | _ => world.body.queue = [] ∧ world.body.outcome = outcome

theorem spares_proceed {stub : Stub} {rest : List Stub} (ruling : Ruling) (hq : world.body.queue = [])
    (ho : world.body.outcome = outcome) :
    Spares q outcome (proceed q world stub rest ruling).1 (proceed q world stub rest ruling).2 := by
  cases ruling with
  | escaped reason => exact ⟨hq, ho⟩
  | settled verdict =>
    cases verdict with
    | error e => exact ⟨hq, ho⟩
    | ok passed => cases passed <;> exact ⟨hq, ho⟩

theorem spares_step (h : Spares q outcome world find) :
    Spares q outcome (find.step q world).1 (find.step q world).2 := by
  cases find with
  | start => exact h
  | queued =>
    simp only [step]
    split <;> exact h
  | scanning rest =>
    cases rest with
    | nil => exact h
    | cons stub rest =>
      simp only [step]
      split
      · exact spares_proceed _ h.1 h.2
      · exact h
  | reading stub rule rest reader =>
    cases reader with
    | finished result => exact spares_proceed _ h.1 h.2.1
    | start | queued | draining | awaiting =>
      simp only [Spares] at h
      exact Reader.tends_step h
  | counting stub =>
    simp only [step]
    split <;> exact h
  | removing stub update => cases update <;> exact h
  | finished | escaped => exact h

theorem spares_run (fuel now : Nat) (log : List (Nat × LogEvent)) (h : Spares q outcome world find) :
    Spares q outcome (run q fuel world find now log).1 (run q fuel world find now log).2.1 := by
  induction fuel generalizing world find now log with
  | zero => exact h
  | succ fuel ih =>
    rw [run]
    split
    · exact h
    · have hworld : Spares q outcome { world with log := [] } find := by
        cases find <;> exact h
      exact ih _ _ (spares_step hworld)

end Find

theorem Registry.find_body {g : Registry} {request : Request} (hqueue : g.queue = [])
    (hfresh : request.body.queue = []) (verbose : Bool) (now : Nat) :
    (g.find request verbose now).body.queue = [] ∧
      (g.find request verbose now).body.outcome = request.body.outcome := by
  obtain ⟨world, hover, -⟩ := Registry.find_ends hqueue hfresh verbose now
  have hstart : Find.Spares (.lone request verbose) request.body.outcome ⟨g, request.body, []⟩ .start :=
    ⟨hfresh, rfl⟩
  have hspares := Find.spares_run (g.enough request.body) now [] hstart
  rw [Registry.find, ← Find.Query.lone]
  generalize Find.run _ (g.enough request.body) ⟨g, request.body, []⟩ .start now [] = ended
    at hover hspares
  obtain ⟨world', find, now', log⟩ := ended
  cases find with
  | finished | escaped => exact hspares
  | start | queued | scanning | reading | counting | removing => cases hover

namespace ServerState

variable {state : ServerState} {request : Request}

def notFound (state : ServerState) (head : Request.Head) : Response :=
  let text := "No matched mapping for request: " ++ head.method ++ " " ++ head.uri.text
  .plain 404 [] (some
    (if state.verbose then text ++ "\n\nAvailable stubs:\n" ++ state.catalogue else text))

def responseTo (state : ServerState) (request : Request) : Option Stub → Response
  | none => state.notFound request.head
  | some stub => Stub.reply
    (stub.yields request.head request.body.outcome (state.verbose || stub.configuration.verbose))

theorem answer_response (state : ServerState) (hfresh : request.body.queue = []) (timestamp : Timestamp)
    (found : Option Stub) (now : Nat) :
    (state.answer request (.ofHead timestamp request.head) found now).response =
      state.responseTo request found := by
  cases found with
  | some stub => exact stub.respond_response hfresh _ now
  | none =>
    simp only [answer, noMatch, responseTo, notFound]
    split <;> rfl

theorem notFound_congr {state' : ServerState} (head : Request.Head)
    (hverbose : state.verbose = state'.verbose)
    (hcatalogue : state.catalogue = state'.catalogue) : state.notFound head = state'.notFound head := by
  rw [notFound, notFound, hverbose, hcatalogue]

theorem responseTo_congr {state' : ServerState} (hlist : state'.registry.list = state.registry.list)
    (hverbose : state'.verbose = state.verbose) (request : Request) (found : Option Stub) :
    state'.responseTo request found = state.responseTo request found := by
  cases found with
  | none => exact notFound_congr request.head hverbose (by rw [catalogue, catalogue, hlist])
  | some stub => simp only [responseTo, hverbose]

end ServerState

end StubServer
