import StubServer.Proofs.Matching.Criteria
import StubServer.Proofs.Request.Drained
import StubServer.Proofs.Stub.Company
import StubServer.Proofs.Stub.Effects
import StubServer.Proofs.Stub.Verbosity
import StubServer.Server.Handling

namespace StubServer

open Request (Arrival Body)
open Matching (Specification Ruling)
open Stub (Sorted)

namespace Request

def Body.DrainedIf (frames : List Arrival) (reason : Prop) (body : Body) : Prop :=
  reason ∧ body.Drained frames ∨ ¬reason ∧ body = .ofFrames frames

variable {frames : List Arrival} {reason reason' : Prop} {body : Body}

theorem Body.DrainedIf.congr (h : body.DrainedIf frames reason) (hreason : reason ↔ reason') :
    body.DrainedIf frames reason' := by
  rwa [DrainedIf, ← hreason]

theorem Body.DrainedIf.elim (h : body.DrainedIf frames reason) :
    body = .ofFrames frames ∨ body.Drained frames := by
  obtain ⟨-, hdrained⟩ | ⟨-, hfresh⟩ := h
  · exact .inr hdrained
  · exact .inl hfresh

theorem Body.DrainedIf.drained_iff (h : body.DrainedIf frames reason) :
    body.Drained frames ↔ reason := by
  obtain ⟨hreason, hdrained⟩ | ⟨hnone, hfresh⟩ := h
  · exact iff_of_true hdrained hreason
  · exact iff_of_false (fun hdrained => hdrained.ne_ofFrames hfresh) hnone

end Request

/-- The stub looks at the body before it rules on a request with this head. -/
def Stub.AsksForBody (stub : Stub) (head : Request.Head) : Prop :=
  ∃ rule, stub.specification.judge head = .onBody rule

theorem Stub.asksForBody_iff {P : Type} {spec : Specification P} {stub : Stub}
    (h : stub.specification = spec.erase)
    (head : Request.Head) : stub.AsksForBody head ↔ spec.LooksAtBody head := by
  rw [AsksForBody, h]
  constructor
  · rintro ⟨rule, hjudge⟩
    by_contra hnot
    have hdecided := spec.judge_of_not_looksAtBody hnot
    rw [show spec.erase.judge head = spec.judge head from rfl, hdecided] at hjudge
    cases hjudge
  · exact fun hlooks => ⟨_, Specification.judge_of_looksAtBody hlooks⟩

namespace Find

variable {q : Query} {frames : List Arrival} {list rest : List Stub} {world : World} {find : Find}
  {stub : Stub}

def SomeAsks (q : Query) (stubs : List Stub) : Prop := ∃ s ∈ stubs, s.AsksForBody q.head

theorem someAsks_concat {before : List Stub} :
    SomeAsks q (before ++ [stub]) ↔ SomeAsks q before ∨ stub.AsksForBody q.head := by
  simp [SomeAsks, or_and_right, exists_or]

/-- What a find that searches this list has done so far to a body that nobody else reads. -/
def Handles (q : Query) (frames : List Arrival) (list : List Stub) (world : World) : Find → Prop
  | .start | .queued => world.registry.list = list ∧ world.body = .ofFrames frames
  | .scanning rest => ∃ before, list = before ++ rest ∧ world.body.DrainedIf frames (SomeAsks q before)
  | .reading stub _ rest reader => ∃ before, list = before ++ stub :: rest ∧ stub.AsksForBody q.head ∧
    reader.Drains q.me frames world.body
  | .counting stub | .removing stub _ | .finished (some stub) =>
      ∃ before after, list = before ++ stub :: after ∧
    world.body.DrainedIf frames (SomeAsks q (before ++ [stub]))
  | .finished none => world.body.DrainedIf frames (SomeAsks q list)
  | .escaped _ => world.body = .ofFrames frames ∨ world.body.Drained frames

theorem handles_proceed {before : List Stub} (ruling : Ruling) (hlist : list = before ++ stub :: rest)
    (hbody : world.body.DrainedIf frames (SomeAsks q (before ++ [stub]))) :
    Handles q frames list (proceed q world stub rest ruling).1 (proceed q world stub rest ruling).2 := by
  have hnext : list = (before ++ [stub]) ++ rest := by
    rw [hlist, List.append_assoc, List.singleton_append]
  cases ruling with
  | escaped reason => exact hbody.elim
  | settled verdict =>
    cases verdict with
    | error e => exact ⟨before ++ [stub], hnext, hbody⟩
    | ok passed =>
      cases passed with
      | false => exact ⟨before ++ [stub], hnext, hbody⟩
      | true => exact ⟨before, rest, hlist, hbody⟩

theorem handles_scanning (h : Handles q frames list world (.scanning rest)) :
    Handles q frames list (Find.step q world (.scanning rest)).1
      (Find.step q world (.scanning rest)).2 := by
  obtain ⟨before, hlist, hbody⟩ := h
  cases rest with
  | nil =>
    rw [List.append_nil] at hlist
    exact hlist ▸ hbody
  | cons stub rest =>
    cases hjudge : stub.specification.judge q.head with
    | onBody rule =>
      simp only [step, hjudge]
      exact ⟨before, hlist, ⟨rule, hjudge⟩, hbody.elim⟩
    | decided ruling =>
      have hnot : ¬stub.AsksForBody q.head := by
        rintro ⟨rule, hrule⟩
        cases hjudge.symm.trans hrule
      simp only [step, hjudge]
      apply handles_proceed ruling hlist
      apply hbody.congr
      rw [someAsks_concat]
      exact (or_iff_left hnot).symm

theorem handles_step (h : Handles q frames list world find) :
    Handles q frames list (find.step q world).1 (find.step q world).2 := by
  cases find with
  | start => exact h
  | queued =>
    by_cases hturn : world.registry.queue.head? = some q.me
    · rw [step, if_pos hturn]
      have hnone : ¬SomeAsks q [] := by
        rintro ⟨s, hs, -⟩
        exact List.not_mem_nil hs
      exact ⟨[], h.1.symm, .inr ⟨hnone, h.2⟩⟩
    · rw [step, if_neg hturn]
      exact h
  | scanning rest => exact handles_scanning h
  | reading stub rule rest reader =>
    obtain ⟨before, hlist, hasks, hreader⟩ := h
    cases reader with
    | finished result =>
      have hbody : world.body.DrainedIf frames (SomeAsks q (before ++ [stub])) :=
        .inl ⟨someAsks_concat.mpr (.inr hasks), hreader⟩
      exact handles_proceed (rule result).ruling hlist hbody
    | start | queued | draining | awaiting =>
      exact ⟨before, hlist, hasks, Request.Reader.drains_step hreader⟩
  | counting stub =>
    simp only [step]
    split <;> exact h
  | removing stub update => cases update <;> exact h
  | finished | escaped => exact h

theorem handles_run (fuel now : Nat) (log : List (Nat × LogEvent))
    (h : Handles q frames list world find) :
    Handles q frames list (run q fuel world find now log).1 (run q fuel world find now log).2.1 := by
  induction fuel generalizing world find now log with
  | zero => exact h
  | succ fuel ih =>
    rw [run]
    split
    · exact h
    · apply ih
      apply handles_step
      cases find with
      | finished stub? => cases stub? <;> exact h
      | start | queued | scanning | reading | counting | removing | escaped => exact h

theorem Handles.congr {world' : World} (h : Handles q frames list world find)
    (hfind : find.isSearching ∨ find.isOver)
    (hbody : world'.body = world.body) : Handles q frames list world' find := by
  cases find with
  | start | queued => obtain hfind | hfind := hfind <;> cases hfind
  | finished stub? => cases stub? <;> simpa only [Handles, hbody] using h
  | scanning | reading | counting | removing | escaped => simpa only [Handles, hbody] using h

theorem turn_step (q : Query) (world : World) (h : find.isSearching ∨ find.isOver) :
    (find.step q world).2.isSearching ∨ (find.step q world).2.isOver := by
  obtain hsearching | hover := h
  · exact (keepsTurn_of_isSearching world hsearching).imp And.left And.left
  · rw [step_of_isOver world hover]
    exact .inr hover

/-- What a find that has come back leaves of the body: all of it or nothing; nothing exactly if no
stub up to the one that is returned looks at the body. -/
structure BodyUse (stubs : List Stub) (head : Request.Head) (frames : List Arrival) (found : Option Stub)
    (body : Body) : Prop where
  all_or_nothing : body = .ofFrames frames ∨ body.Drained frames
  drained_iff : body.Drained frames ↔
    ∃ s ∈ stubs, (∀ stub, found = some stub → s = stub ∨ s.before stub) ∧ s.AsksForBody head

theorem mem_up_to {before after : List Stub} (hsorted : Sorted (before ++ stub :: after)) (s : Stub) :
    s ∈ before ++ [stub] ↔ s ∈ before ++ stub :: after ∧ (s = stub ∨ s.before stub) := by
  obtain ⟨-, hafter, hbefore⟩ := List.pairwise_append.mp hsorted
  rw [List.mem_append, List.mem_singleton]
  constructor
  · rintro (hs | rfl)
    · exact ⟨List.mem_append_left _ hs, .inr (hbefore s hs stub List.mem_cons_self)⟩
    · exact ⟨List.mem_append_right _ List.mem_cons_self, .inl rfl⟩
  · rintro ⟨hs, rfl | hbehind⟩
    · exact .inr rfl
    · obtain hs | hs := List.mem_append.mp hs
      · exact .inl hs
      · obtain rfl | hs := List.mem_cons.mp hs
        · exact .inr rfl
        · exact absurd hbehind (Stub.before_asymm ((List.pairwise_cons.mp hafter).1 s hs))

theorem bodyUse_of_handles {found : Option Stub} (hsorted : Sorted list)
    (h : Handles q frames list world (.finished found)) :
    BodyUse list q.head frames found world.body := by
  cases found with
  | none =>
    have hbody : world.body.DrainedIf frames (SomeAsks q list) := h
    refine ⟨hbody.elim, hbody.drained_iff.trans ?_⟩
    simp [SomeAsks]
  | some stub =>
    obtain ⟨before, after, rfl, hbody⟩ := h
    refine ⟨hbody.elim, hbody.drained_iff.trans ?_⟩
    simp only [SomeAsks, mem_up_to hsorted, Option.some.injEq, forall_eq', and_assoc]

end Find

theorem Registry.find_handles {g : Registry} {request : Request} {frames : List Arrival}
    (hqueue : g.queue = [])
    (hbody : request.body = .ofFrames frames) (verbose : Bool) (now : Nat) {found : Option Stub}
    (hresult : (g.find request verbose now).result = .returned found) :
    ∃ world, world.body = (g.find request verbose now).body ∧
      Find.Handles (.lone request verbose) frames g.list world (.finished found) := by
  have hfresh : request.body.queue = [] := by rw [hbody]; rfl
  obtain ⟨-, hover, -⟩ := Registry.find_ends hqueue hfresh verbose now
  have hstart : Find.Handles (.lone request verbose) frames g.list ⟨g, request.body, []⟩ .start :=
    ⟨rfl, hbody⟩
  have hhandles := Find.handles_run (g.enough request.body) now [] hstart
  rw [Registry.find, ← Find.Query.lone] at hresult ⊢
  generalize Find.run _ (g.enough request.body) ⟨g, request.body, []⟩ .start now [] = ended
    at hover hhandles hresult ⊢
  obtain ⟨world, find, endedAt, log⟩ := ended
  cases find with
  | finished stub? =>
    obtain rfl : stub? = found := Outcome.returned.inj hresult
    exact ⟨world, rfl, hhandles⟩
  | escaped reason => cases hresult
  | start | queued | scanning | reading | counting | removing => cases hover

theorem Stub.respond_body (stub : Stub) (request : Request) (verbose : Bool) (now : Nat) :
    (stub.respond request verbose now).body = ((stub.responder request.head).run request.body).2.1 := by
  rw [respond]
  generalize (stub.responder request.head).run request.body = ran
  obtain ⟨outcome, body, elapsed⟩ := ran
  cases outcome with
  | failed reason => rfl
  | panicked reason => rfl
  | returned definition =>
    simp only
    cases (definition.render verbose).outcome <;> rfl

/-- What is left of the body when the request has been answered, for which this has been found. -/
def leftOver (head : Request.Head) (body : Body) : Option Stub → Body
  | none => body
  | some stub => ((stub.responder head).run body).2.1

theorem ServerState.handle_body {state : ServerState} {request : Request} {found : Option Stub}
    (timestamp : Timestamp)
    (now : Nat) (hresult : (state.registry.find request state.verbose now).result = .returned found) :
    ∃ answer, (state.handle request timestamp now).answer = .ok answer ∧
      answer.body = leftOver request.head (state.registry.find request state.verbose now).body
        found := by
  rw [handle]
  simp only [hresult]
  refine ⟨_, rfl, ?_⟩
  cases found with
  | none => rfl
  | some stub => exact stub.respond_body _ _ _

namespace Traffic

variable {t : Traffic} {n request : Nat} {q : Find.Query} {frames : List Arrival}

def Handles (request : Nat) (q : Find.Query) (frames : List Arrival) (list : List Stub) (s : Shared)
    (search : Find) :
    Prop :=
  (search.isSearching ∨ search.isOver) ∧ Find.Handles q frames list (s.world request) search

theorem body_after (s : Shared) (request : Nat) (world : Find.World) :
    ((s.after request world).world request).body = world.body := by
  simp only [Shared.world, Shared.after, Function.update_self]

theorem handles_after {list : List Stub} {s : Shared} {search : Find}
    (h : Handles request q frames list s search) :
    Handles request q frames list (s.after request (search.step q (s.world request)).1)
      (search.step q (s.world request)).2 := by
  have hturn := Find.turn_step q (s.world request) h.1
  exact ⟨hturn, (Find.handles_step h.2).congr hturn (body_after s request _)⟩

theorem comes_of_turn (hcall : t.calls[n]? = some (.find request q .queued))
    (hturn : t.registry.queue.head? = some q.me) (hbody : (t.requests request).body = .ofFrames frames) :
    Comes n request q (Handles request q frames t.registry.list) (t.step (.advance n)) := by
  obtain ⟨hnext, hshared⟩ := step_find hcall
  have hqueued : Find.Handles q frames t.registry.list (t.world request) .queued := ⟨rfl, hbody⟩
  have hsearching : (Find.queued.step q (t.world request)).2.isSearching := by
    have hhead : (t.world request).registry.queue.head? = some q.me := hturn
    rw [Find.step, if_pos hhead]
    rfl
  refine ⟨_, ?_, .inl hnext⟩
  rw [hshared]
  exact ⟨.inl hsearching, (Find.handles_step hqueued).congr (.inl hsearching)
    (body_after t.toShared request _)⟩

theorem bodyUse_of_turn (hsound : t.Sound) (horderly : t.Orderly) {more : List Event}
    {found : Option Stub}
    (hcall : t.calls[n]? = some (.find request q .queued)) (hturn : t.registry.queue.head? = some n)
    (hbody : (t.requests request).body = .ofFrames frames)
    (halone : ChangedOnlyBy n (fun t => (t.requests request).body) (t.step (.advance n)) more)
    (hover : ((.advance n :: more).foldl step t).calls[n]? = some (.find request q (.finished found))) :
    Find.BodyUse t.registry.list q.head frames found
      (((.advance n :: more).foldl step t).requests request).body := by
  have hme : q.me = n := horderly.own n _ hcall q.me rfl
  have hlast := halone.comes (fun s search h => handles_after h)
    (fun t t' hseen search h => ⟨h.1, h.2.congr h.1 hseen⟩)
    (comes_of_turn hcall (hturn.trans (congrArg some hme.symm)) hbody)
  exact Find.bodyUse_of_handles hsound.sorted (hlast.of_call hover).2

/-- What happens to the bodies of requests while stubs are looked for: a find that has its turn
reads the body or leaves it alone, whatever happens to the registry meanwhile, if nobody else is at
the body; so does one that is alone. Verbosity makes no difference, and when the request is recorded
and answered only the responder reads. -/
structure BodyHandling (t : Traffic) : Prop where
  among : ∀ n request q frames more found, t.calls[n]? = some (.find request q .queued) →
    t.registry.queue.head? = some n → (t.requests request).body = .ofFrames frames →
    ChangedOnlyBy n (fun t => (t.requests request).body) (t.step (.advance n)) more →
    ((.advance n :: more).foldl step t).calls[n]? = some (.find request q (.finished found)) →
    Find.BodyUse t.registry.list q.head frames found
      (((.advance n :: more).foldl step t).requests request).body
  alone : (∀ call ∈ t.calls, call.isInLine = false) → ∀ request frames verbose now found,
    request.body = .ofFrames frames → (t.registry.find request verbose now).result = .returned found →
    Find.BodyUse t.registry.list request.head frames found (t.registry.find request verbose now).body
  verbosity : ∀ request verbose verbose' now,
    (t.registry.find request verbose now).body = (t.registry.find request verbose' now).body
  handled : ∀ state : ServerState, state.registry = t.registry → ∀ request timestamp now found,
    (t.registry.find request state.verbose now).result = .returned found →
    ∃ answer, (state.handle request timestamp now).answer = .ok answer ∧
      answer.body = leftOver request.head (t.registry.find request state.verbose now).body found

/-- A find reads the body exactly if a stub up to the one that it returns has criteria for the body
and passes all that are about the head. -/
theorem find_uses_body (requests : Nat → Request) (events : List Event) :
    BodyHandling (run requests events) ∧
    ∀ {P : Type} (spec : Specification P) (stub : Stub) (head : Request.Head),
      stub.specification = spec.erase → (stub.AsksForBody head ↔
        (spec.body ≠ [] ∨ spec.bodyText ≠ []) ∧
          (∀ m, spec.method = some m → m.test head.method = .ok true) ∧
          (∀ m, spec.path = some m → m.test head.path = .ok true) ∧
          ∀ m ∈ spec.headers, m.test head.headers = .ok true) := by
  have hsound := sound_run requests events
  have horderly := orderly_run requests events
  refine ⟨?_, fun spec stub head h => (Stub.asksForBody_iff h head).trans (spec.looksAtBody_iff head)⟩
  constructor
  case among =>
    exact fun n request q frames more found hcall hturn hbody halone hover =>
      bodyUse_of_turn hsound horderly hcall hturn hbody halone hover
  case alone =>
    intro hidle request frames verbose now found hbody hresult
    obtain ⟨world, hworld, hhandles⟩ :=
      Registry.find_handles (horderly.queue_eq_nil hidle) hbody verbose now hresult
    rw [← hworld]
    exact Find.bodyUse_of_handles hsound.sorted hhandles
  case verbosity => exact fun request verbose verbose' now =>
    (Registry.find_twins rfl request verbose verbose' now).body
  case handled =>
    intro state hstate request timestamp now found hresult
    rw [← hstate] at hresult ⊢
    exact ServerState.handle_body timestamp now hresult

example : (((run (fun _ => posted) (finding ++ useInTurn)).requests 0).body,
    ((run (fun _ => posted) (finding ++ useInTurn)).requests 1).body) =
    (⟨.done, some [], [], 1⟩, .ofFrames [⟨5, .data []⟩]) := rfl

end Traffic

end StubServer
