import Mathlib.Data.List.Induction
import Mathlib.Logic.Function.Basic
import StubServer.Proofs.Shared.Linearizable
import StubServer.Proofs.Stub.Steps

namespace StubServer

inductive Registry.Op where
  | add (stub : Stub)
  | remove (stub : Stub)
  | clear
  | getAll

inductive Registry.Reply where
  | added (result : Except StubError Unit)
  | removed (wasThere : Bool)
  | cleared
  | listed (stubs : List Stub)

/-- What all callers share: the registry, the requests by number, and the events so far. -/
structure Shared where
  registry : Registry
  requests : Nat → Request
  log : List LogEvent

namespace Shared

def world (s : Shared) (request : Nat) : Find.World := ⟨s.registry, (s.requests request).body, s.log⟩

def after (s : Shared) (request : Nat) (world : Find.World) : Shared :=
  ⟨world.registry, Function.update s.requests request { s.requests request with body := world.body },
    world.log⟩

def publish (s : Shared) (stubs : Cell (List Stub)) : Shared :=
  { s with registry := { s.registry with stubs } }

end Shared

/-- A call on the registry, as far as it has come. -/
inductive Call where
  | add (stub : Stub) (update : Update (List Stub) StubError)
  | remove (stub : Stub) (update : Update (List Stub) Empty)
  | clear (isDone : Bool)
  | getAll (seen : Option (List Stub))
  | find (request : Nat) (q : Find.Query) (find : Find)
  /-- A find that nobody waits for any more. -/
  | abandoned

namespace Call

def step (s : Shared) : Call → Shared × Call
  | .add stub update =>
    let (stubs, update) := update.step (Registry.adding stub) s.registry.stubs
    (s.publish stubs, .add stub update)
  | .remove stub update =>
    let (stubs, update) := update.step (Registry.removing stub) s.registry.stubs
    (s.publish stubs, .remove stub update)
  | .clear false => ({ s with registry := s.registry.clear }, .clear true)
  | .getAll none => (s, .getAll (some s.registry.list))
  | .find request q search =>
    let (world, next) := search.step q (s.world request)
    (s.after request world, .find request q next)
  | call => (s, call)

def op? : Call → Option Registry.Op
  | .add stub _ => some (.add stub)
  | .remove stub _ => some (.remove stub)
  | .clear _ => some .clear
  | .getAll _ => some .getAll
  | _ => none

def reply? : Call → Option Registry.Reply
  | .add _ (.finished result) => some (.added (discard result))
  | .remove _ (.finished (.ok wasThere)) => some (.removed wasThere)
  | .clear true => some .cleared
  | .getAll (some stubs) => some (.listed stubs)
  | _ => none

/-- What a step of a find has to do with the list: a find that removes its match makes a call of its
own. -/
def moments (n : Nat) : Call → Call → List (Moment Registry.Op Registry.Reply)
  | .find _ _ (.counting _), .find _ _ (.removing stub _) => [.called n (.remove stub)]
  | .find _ _ (.removing _ (.finished (.ok wasThere))), _ => [.answered n (.removed wasThere)]
  | _, _ => []

end Call

def Find.isWaiting : Find → Bool
  | .start | .queued => true
  | .reading _ _ _ (.queued) | .reading _ _ _ (.awaiting ..) => true
  | _ => false

/-- What a caller wants; stubs go by their place among all that were created. -/
inductive Task where
  | add (place : Nat)
  | remove (place : Nat)
  | clear
  | getAll
  | find (request : Nat) (verbose : Bool)

/-- What may happen next: a stub is created, a caller comes, a caller takes a step, a find is
abandoned, a caller gets the answer, or somebody else reads the body of a request. -/
inductive Event where
  | create (configuration : StubConfiguration) (specification : Matching.RequestMatch)
      (responder : Responder)
  | call (task : Task)
  | advance (n : Nat)
  | abandon (n : Nat)
  | answer (n : Nat)
  | disturb (request : Nat) (body : Request.Body)

/-- A registry in use: what is shared, the stubs created so far, the calls, the callers who have got
their answers, and the history of the list. A schedule says who takes the next step, so that every
schedule is an interleaving. -/
structure Traffic extends Shared where
  created : List Stub
  calls : List Call
  answered : List Nat
  history : List (Moment Registry.Op Registry.Reply)

namespace Traffic

def start (requests : Nat → Request) : Traffic := ⟨⟨.empty, requests, []⟩, [], [], [], []⟩

def opening (t : Traffic) : Task → Option Call
  | .add place => t.created[place]?.map fun stub => .add stub .start
  | .remove place => t.created[place]?.map fun stub => .remove stub .start
  | .clear => some (.clear false)
  | .getAll => some (.getAll none)
  | .find request verbose =>
    some (.find request ⟨t.calls.length, (t.requests request).head, verbose,
      if verbose then (t.requests request).format else ""⟩ .start)

/-- What is left when the event has happened. What cannot happen changes nothing. -/
def step (t : Traffic) : Event → Traffic
  | .create configuration specification responder =>
    { t with created :=
        t.created ++ [⟨configuration, specification, responder, t.created.length + 1⟩] }
  | .call task =>
    match t.opening task with
    | none => t
    | some call =>
      { t with
        calls := t.calls ++ [call]
        history := t.history ++ (call.op?.map (.called t.calls.length)).toList }
  | .advance n =>
    match t.calls[n]? with
    | none => t
    | some call =>
      let (shared, next) := call.step t.toShared
      { t with
        toShared := shared
        calls := t.calls.set n next
        history := t.history ++ call.moments n next }
  | .abandon n =>
    match t.calls[n]? with
    | some (.find request q find) =>
      if find.isWaiting then
        { t with
          toShared := t.after request (Find.cancel q (t.world request))
          calls := t.calls.set n .abandoned }
      else t
    | _ => t
  | .answer n =>
    match t.calls[n]?.bind Call.reply? with
    | some reply =>
      if n ∈ t.answered then t
      else { t with answered := n :: t.answered, history := t.history ++ [.answered n reply] }
    | none => t
  | .disturb request body =>
    { t with requests := Function.update t.requests request { t.requests request with body } }

/-- What is left of an unused registry when these events have happened one after the other. -/
def run (requests : Nat → Request) (events : List Event) : Traffic :=
  events.foldl step (start requests)

theorem run_append (requests : Nat → Request) (events more : List Event) :
    run requests (events ++ more) = more.foldl step (run requests events) :=
  List.foldl_append

end Traffic

end StubServer
