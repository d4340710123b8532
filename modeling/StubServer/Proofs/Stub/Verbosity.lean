import StubServer.Stub.Find

namespace StubServer

namespace Update

variable {α β ε : Type}

def map (f : α → β) : Update α ε → Update β ε
  | .start => .start
  | .working seen => .working ⟨f seen.value, seen.version⟩
  | .finished result => .finished result

theorem step_map {f : α → β} {change : α → Except ε (Option α)} {change' : β → Except ε (Option β)}
    (h : ∀ a, change' (f a) = (change a).map (Option.map f)) (cell : Cell α) (update : Update α ε) :
    (update.map f).step change' ⟨f cell.value, cell.version⟩ =
      (⟨f (update.step change cell).1.value, (update.step change cell).1.version⟩,
        (update.step change cell).2.map f) := by
  cases update with
  | start | finished => rfl
  | working seen =>
    simp only [map, step, h, Cell.replace?]
    cases change seen.value with
    | error e => rfl
    | ok next? =>
      cases next? with
      | none => rfl
      | some next =>
        by_cases hversion : cell.version = seen.version
        · simp only [Except.map, Option.map, if_pos hversion]
          rfl
        · simp only [Except.map, Option.map, if_neg hversion]

end Update

namespace Stub

def hushed (stub : Stub) : Stub :=
  { stub with configuration := { stub.configuration with verbose := false } }

theorem responder_of_hushed {stub stub' : Stub} (h : stub.hushed = stub'.hushed) :
    stub.responder = stub'.responder := by
  have hresponder : stub.hushed.responder = stub'.hushed.responder := by rw [h]
  exact hresponder

end Stub

namespace Registry

def hushed (g : Registry) : Registry :=
  { g with stubs := ⟨g.stubs.value.map Stub.hushed, g.stubs.version⟩ }

theorem removing_hushed (stub : Stub) (stubs : List Stub) :
    removing stub.hushed (stubs.map Stub.hushed) =
    (removing stub stubs).map (Option.map (List.map Stub.hushed)) := by
  have hany : ((stubs.map Stub.hushed).any fun s => s.created = stub.hushed.created) =
      stubs.any fun s => s.created = stub.created := by
    rw [List.any_map]
    rfl
  have herase : (stubs.map Stub.hushed).eraseP (fun s => s.created = stub.hushed.created) =
      (stubs.eraseP fun s => s.created = stub.created).map Stub.hushed := by
    rw [List.eraseP_map]
    rfl
  simp only [removing, hany, herase]
  split <;> rfl

theorem length_of_hushed {g g' : Registry} (h : g.hushed = g'.hushed) :
    g.list.length = g'.list.length := by
  have hlength : (g.list.map Stub.hushed).length = (g'.list.map Stub.hushed).length :=
    congrArg (·.list.length) h
  rwa [List.length_map, List.length_map] at hlength

end Registry

namespace Find

def Query.hushed (q : Query) : Query := { q with verbose := false, formatted := "" }

def World.hushed (world : World) : World := ⟨world.registry.hushed, world.body, []⟩

def World.muted (world : World) : World := { world with log := [] }

def hushed : Find → Find
  | .start => .start
  | .queued => .queued
  | .scanning rest => .scanning (rest.map Stub.hushed)
  | .reading stub rule rest reader => .reading stub.hushed rule (rest.map Stub.hushed) reader
  | .counting stub => .counting stub.hushed
  | .removing stub update => .removing stub.hushed (update.map (List.map Stub.hushed))
  | .finished found => .finished (found.map Stub.hushed)
  | .escaped reason => .escaped reason

variable {q q' : Query} {world world' : World} {find find' : Find}

/-- The second is what the first comes to when nobody wants details, whatever events it has. -/
def HushesTo (next : World × Find) (hushed : World × Find) : Prop :=
  hushed.1.muted = next.1.hushed ∧ hushed.2 = next.2.hushed

theorem hushesTo_proceed {hushed : World} (h : hushed.muted = world.hushed) (stub : Stub)
    (rest : List Stub) (ruling : Matching.Ruling) : HushesTo (proceed q world stub rest ruling)
      (proceed q.hushed hushed stub.hushed (rest.map Stub.hushed) ruling) := by
  obtain ⟨registry, body, log⟩ := hushed
  cases h
  cases ruling with
  | escaped reason => exact ⟨rfl, rfl⟩
  | settled verdict =>
    cases verdict with
    | error e => exact ⟨rfl, rfl⟩
    | ok passed => cases passed <;> exact ⟨rfl, rfl⟩

theorem hushesTo_step (q : Query) (world : World) (find : Find) :
    HushesTo (find.step q world) (find.hushed.step q.hushed world.hushed) := by
  cases find with
  | start => exact ⟨rfl, rfl⟩
  | queued =>
    simp only [hushed, step]
    by_cases hhead : world.registry.queue.head? = some q.me
    · rw [if_pos hhead, if_pos (show world.hushed.registry.queue.head? = some q.hushed.me from hhead)]
      exact ⟨rfl, rfl⟩
    · rw [if_neg hhead, if_neg (show ¬world.hushed.registry.queue.head? = some q.hushed.me from hhead)]
      exact ⟨rfl, rfl⟩
  | scanning rest =>
    cases rest with
    | nil => exact ⟨rfl, rfl⟩
    | cons stub rest =>
      simp only [hushed, List.map_cons, step]
      have hjudge : stub.hushed.specification.judge q.hushed.head =
        stub.specification.judge q.head := rfl
      rw [hjudge]
      cases stub.specification.judge q.head with
      | decided ruling => exact hushesTo_proceed rfl stub rest ruling
      | onBody rule => exact ⟨rfl, rfl⟩
  | reading stub rule rest reader =>
    cases reader with
    | finished result => exact hushesTo_proceed rfl stub rest (rule result).ruling
    | start | queued | draining | awaiting => exact ⟨rfl, rfl⟩
  | counting stub =>
    simp only [hushed, step]
    change HushesTo _ (if stub.configuration.removeAfterMatch then _ else _)
    split <;> exact ⟨rfl, rfl⟩
  | removing stub update =>
    cases update with
    | start | finished => exact ⟨rfl, rfl⟩
    | working seen =>
      have hstep := Update.step_map (Registry.removing_hushed stub) world.registry.stubs (.working seen)
      exact ⟨congrArg (fun next : Cell (List Stub) × Update (List Stub) Empty =>
          (⟨{ world.registry.hushed with stubs := next.1 }, world.body, []⟩ : World)) hstep,
        congrArg (fun next : Cell (List Stub) × Update (List Stub) Empty =>
          Find.removing stub.hushed next.2) hstep⟩
  | finished found => exact ⟨rfl, rfl⟩
  | escaped reason => exact ⟨rfl, rfl⟩

/-- Two finds in two worlds differ in nothing but verbosity. -/
structure Twins (world world' : World) (find find' : Find) : Prop where
  world : world.hushed = world'.hushed
  find : find.hushed = find'.hushed

theorem twins_step (hq : q.hushed = q'.hushed) (h : Twins world world' find find') :
    Twins (find.step q world).1 (find'.step q' world').1 (find.step q world).2
      (find'.step q' world').2 := by
  obtain ⟨hworld, hfind⟩ := hushesTo_step q world find
  obtain ⟨hworld', hfind'⟩ := hushesTo_step q' world' find'
  rw [← hq, ← h.world, ← h.find] at hworld' hfind'
  exact ⟨hworld.symm.trans hworld', hfind.symm.trans hfind'⟩

theorem Twins.pause_eq (h : Twins world world' find find') : find.pause = find'.pause := by
  have hhushed : ∀ find : Find, find.hushed.pause = find.pause := fun find => by cases find <;> rfl
  rw [← hhushed, h.find, hhushed]

theorem Twins.isOver_eq (h : Twins world world' find find') : find.isOver = find'.isOver := by
  have hhushed : ∀ find : Find, find.hushed.isOver = find.isOver := fun find => by cases find <;> rfl
  rw [← hhushed, h.find, hhushed]

def result : Find → Outcome (Option Stub)
  | .finished found => .returned found
  | .escaped reason => .panicked reason
  | _ => .returned none

theorem Twins.result_eq (h : Twins world world' find find') :
    find.result.map (·.map Stub.hushed) = find'.result.map (·.map Stub.hushed) := by
  have hhushed : ∀ find : Find, find.hushed.result = find.result.map (·.map Stub.hushed) :=
    fun find => by
    cases find <;> rfl
  rw [← hhushed, h.find, hhushed]

theorem twins_run (hq : q.hushed = q'.hushed) (h : Twins world world' find find') (fuel now : Nat)
    (log log' : List (Nat × LogEvent)) :
    Twins (run q fuel world find now log).1 (run q' fuel world' find' now log').1
        (run q fuel world find now log).2.1 (run q' fuel world' find' now log').2.1 ∧
      (run q fuel world find now log).2.2.1 = (run q' fuel world' find' now log').2.2.1 := by
  induction fuel generalizing world world' find find' now log log' with
  | zero => exact ⟨h, rfl⟩
  | succ fuel ih =>
    rw [run, run, ← h.isOver_eq]
    split
    · exact ⟨h, rfl⟩
    · have hmuted : Twins world.muted world'.muted find find' := ⟨h.world, h.find⟩
      rw [← h.pause_eq]
      exact ih (twins_step hq hmuted) _ _ _

end Find

/-- What has been found differs in nothing but verbosity. -/
structure Found.Twins (found found' : Found) : Prop where
  result : found.result.map (·.map Stub.hushed) = found'.result.map (·.map Stub.hushed)
  registry : found.registry.hushed = found'.registry.hushed
  body : found.body = found'.body
  endedAt : found.endedAt = found'.endedAt

/-- A find brings the same stub from registries that differ in verbosity, leaves them as they were
to each other, and takes as much of the body and as long. -/
theorem Registry.find_twins {g g' : Registry} (h : g.hushed = g'.hushed) (request : Request)
    (verbose verbose' : Bool) (now : Nat) :
    (g.find request verbose now).Twins (g'.find request verbose' now) := by
  have henough : g.enough request.body = g'.enough request.body := by
    rw [enough, enough, length_of_hushed h]
  have hstart : Find.Twins ⟨g, request.body, []⟩ ⟨g', request.body, []⟩ .start .start :=
    ⟨congrArg (fun g : Registry => (⟨g, request.body, []⟩ : Find.World)) h, rfl⟩
  have hq : Find.Query.hushed ⟨0, request.head, verbose, if verbose then request.format else ""⟩ =
      Find.Query.hushed ⟨0, request.head, verbose', if verbose' then request.format else ""⟩ := rfl
  have hrun := Find.twins_run hq hstart (g.enough request.body) now [] []
  rw [find, find, ← henough]
  generalize Find.run _ (g.enough request.body) ⟨g, request.body, []⟩ .start now [] = ended at hrun ⊢
  generalize Find.run _ (g.enough request.body) ⟨g', request.body, []⟩ .start now [] = ended' at hrun ⊢
  obtain ⟨world, find, endedAt, log⟩ := ended
  obtain ⟨world', find', endedAt', log'⟩ := ended'
  obtain ⟨htwins, htime⟩ := hrun
  have hbody : world.hushed.body = world'.hushed.body := congrArg Find.World.body htwins.world
  exact ⟨htwins.result_eq, congrArg Find.World.registry htwins.world, hbody, htime⟩

end StubServer
