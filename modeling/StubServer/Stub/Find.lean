import StubServer.Stub.Registry

namespace StubServer

open Matching (Ruling Evaluation MatchError)
open Request (Reader BodyError)

/-- How far a find has come. It waits for its turn, takes the list as it is at that moment, and
evaluates one stub after the other; meanwhile it may have to wait for the body of the request. -/
inductive Find where
  | start
  | queued
  | scanning (rest : List Stub)
  | reading (stub : Stub) (rule : Except BodyError Bytes → Evaluation) (rest : List Stub)
      (reader : Reader)
  | counting (stub : Stub)
  | removing (stub : Stub) (update : Update (List Stub) Empty)
  | finished (found : Option Stub)
  | escaped (reason : String)

namespace Find

/-- What a find is about: its number, the head of the request, and how the request looked when the find
began, if events are to be reported. -/
structure Query where
  me : Nat
  head : Request.Head
  verbose : Bool
  formatted : String

structure World where
  registry : Registry
  body : Request.Body
  log : List LogEvent

def World.report (world : World) (events : List LogEvent) : World :=
  { world with log := world.log ++ events }

def failureEvent (q : Query) (stub : Stub) (e : MatchError) : LogEvent :=
  ⟨.warn, .registry, "Failed to evaluate condition for stub: " ++ stub.text ++ ". Request: " ++
    q.formatted
    ++ ". Cause: " ++ e.message⟩

def removalEvent (stub : Stub) : LogEvent := ⟨.debug, .registry, "Removed used stub: " ++ stub.text⟩

def details (q : Query) (event : LogEvent) : List LogEvent := if q.verbose then [event] else []

def finish (q : Query) (world : World) (find : Find) : World × Find :=
  ({ world with registry := world.registry.leave q.me }, find)

def proceed (q : Query) (world : World) (stub : Stub) (rest : List Stub) : Ruling → World × Find
  | .settled (.ok true) => (world, .counting stub)
  | .settled (.ok false) => (world, .scanning rest)
  | .settled (.error e) => (world.report (details q (failureEvent q stub e)), .scanning rest)
  | .escaped reason => finish q world (.escaped reason)

/-- One step of a find. One that waits for its turn, or for the body, may stay where it is. -/
def step (q : Query) (world : World) : Find → World × Find
  | .start =>
    ({ world with registry :=
        { world.registry with queue := world.registry.queue ++ [q.me] } }, .queued)
  | .queued =>
    -- Whoever has its turn searches the list as it is at this moment.
    if world.registry.queue.head? = some q.me then (world, .scanning world.registry.list)
    else (world, .queued)
  | .scanning [] => finish q world (.finished none)
  | .scanning (stub :: rest) =>
    match stub.specification.judge q.head with
    | .decided ruling => proceed q world stub rest ruling
    | .onBody rule => (world, .reading stub rule rest .start)
  | .reading stub rule rest (.finished result) =>
    let evaluation := rule result
    proceed q (world.report evaluation.log) stub rest evaluation.ruling
  | .reading stub rule rest reader =>
    let (body, reader) := reader.step q.me world.body
    ({ world with body }, .reading stub rule rest reader)
  | .counting stub =>
    let world := { world with registry := world.registry.count stub }
    if stub.configuration.removeAfterMatch then (world, .removing stub .start)
    else finish q world (.finished (some stub))
  | .removing stub (.finished _) =>
    finish q (world.report (details q (removalEvent stub))) (.finished (some stub))
  | .removing stub update =>
    -- If the list has changed meanwhile, the removal begins anew.
    let (stubs, update) := update.step (Registry.removing stub) world.registry.stubs
    ({ world with registry := { world.registry with stubs } }, .removing stub update)
  | .finished found => (world, .finished found)
  | .escaped reason => (world, .escaped reason)

/-- Abandons a find wherever it is: its place in both queues becomes free. -/
def cancel (q : Query) (world : World) : World :=
  { world with registry := world.registry.leave q.me, body := world.body.leave q.me }

def pause : Find → Nat
  | .reading _ _ _ reader => reader.pause
  | _ => 0

def isOver : Find → Bool
  | .finished _ | .escaped _ => true
  | _ => false

def run (q : Query) : Nat → World → Find → Nat → List (Nat × LogEvent) →
    World × Find × Nat × List (Nat × LogEvent)
  | 0, world, find, now, log => (world, find, now, log)
  | fuel + 1, world, find, now, log =>
    if find.isOver then (world, find, now, log)
    else
      let now := now + find.pause
      let (next, find) := find.step q { world with log := [] }
      run q fuel next find now (log ++ next.log.map ((now, ·)))

end Find

structure Found where
  result : Outcome (Option Stub)
  registry : Registry
  body : Request.Body
  endedAt : Nat
  log : List (Nat × LogEvent)

namespace Registry

def enough (registry : Registry) (body : Request.Body) : Nat :=
  6 * registry.list.length + body.enough + 8

def find (registry : Registry) (request : Request) (verbose : Bool) (now : Nat) : Found :=
  let q : Find.Query := ⟨0, request.head, verbose, if verbose then request.format else ""⟩
  let (world, find, now, log) :=
    Find.run q (registry.enough request.body) ⟨registry, request.body, []⟩ .start now []
  let result := match find with
    | .finished found => .returned found
    | .escaped reason => .panicked reason
    | _ => .returned none
  ⟨result, world.registry, world.body, now, log⟩

end Registry

end StubServer
