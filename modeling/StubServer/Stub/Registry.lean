import StubServer.Shared.Cell
import StubServer.Stub.Basic

namespace StubServer

inductive StubError where
  | duplicate (stub : String)
  deriving DecidableEq, Repr

def StubError.message : StubError → String
  | .duplicate stub => "Duplicate stub detected: " ++ stub

/-- The stubs in the order in which they are tried, how often each has matched, by the number of its
creation, and the finds that queue for the right to search, the first of which has it. The count of
a stub outlives its registration. Fewer than `2 ^ 64` matches of a stub are assumed: no count wraps
around. -/
structure Registry where
  stubs : Cell (List Stub)
  counts : Nat → Nat
  queue : List Nat

namespace Registry

def empty : Registry := ⟨.new [], fun _ => 0, []⟩

def list (registry : Registry) : List Stub := registry.stubs.value

def countOf (registry : Registry) (stub : Stub) : Nat := registry.counts stub.created

/-- Where the search for a place ends: a stretch of `size` stubs from `base` on is halved until it
has one stub. There are never more halvings than stubs. -/
def narrow (stub : Stub) (stubs : List Stub) : Nat → Nat → Nat → Nat
  | 0, base, _ => base
  | fuel + 1, base, size =>
    if size ≤ 1 then base
    else
      let middle := base + size / 2
      let isBehind := stubs[middle]?.any fun s => s.order stub = .gt
      narrow stub stubs fuel (if isBehind then base else middle) (size - size / 2)

def place (stub : Stub) (stubs : List Stub) : Except StubError Nat :=
  let base := narrow stub stubs stubs.length 0 stubs.length
  match stubs[base]? with
  | none => .ok base
  | some s =>
    match s.order stub with
    | .lt => .ok (base + 1)
    | .eq => .error (.duplicate stub.text)
    | .gt => .ok base

def insert (stub : Stub) (stubs : List Stub) : Except StubError (List Stub) :=
  (place stub stubs).map fun i => stubs.take i ++ stub :: stubs.drop i

def adding (stub : Stub) (stubs : List Stub) : Except StubError (Option (List Stub)) :=
  some <$> insert stub stubs

def removing (stub : Stub) (stubs : List Stub) : Except Empty (Option (List Stub)) :=
  .ok (if stubs.any (·.created = stub.created) then
    some (stubs.eraseP (·.created = stub.created)) else none)

def add (registry : Registry) (stub : Stub) : Registry × Except StubError Unit :=
  let (stubs, result) := Update.alone (adding stub) registry.stubs
  ({ registry with stubs }, discard result)

def remove (registry : Registry) (stub : Stub) : Registry × Bool :=
  let (stubs, result) := Update.alone (removing stub) registry.stubs
  ({ registry with stubs }, match result with | .ok removed => removed)

def clear (registry : Registry) : Registry := { registry with stubs := registry.stubs.store [] }

def count (registry : Registry) (stub : Stub) : Registry :=
  { registry with counts := fun n =>
      if n = stub.created then registry.counts n + 1 else registry.counts n }

def resetCounts (registry : Registry) : Registry :=
  -- Stubs that are not registered at this moment keep their counts.
  { registry with counts := fun n =>
      if registry.list.any (·.created = n) then 0 else registry.counts n }

def unmatched (registry : Registry) : List Stub :=
  registry.list.filter fun stub => registry.countOf stub = 0

def leave (registry : Registry) (find : Nat) : Registry :=
  { registry with queue := registry.queue.erase find }

end Registry

end StubServer
