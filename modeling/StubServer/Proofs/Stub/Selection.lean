import StubServer.Proofs.Request.Reading
import StubServer.Proofs.Stub.Turns

namespace StubServer

open Matching (Ruling Evaluation RequestMatch)
open Request (Reader BodyError)
open Stub (Sorted)

namespace Stub

/-- The ruling of the stub on a request, evaluated for itself. -/
def ruling (stub : Stub) (request : Request) : Ruling :=
  (stub.specification.evaluate request).evaluation.ruling

def Accepts (stub : Stub) (request : Request) : Prop := stub.ruling request = .settled (.ok true)

/-- A decoder panics over the request. -/
def Escapes (stub : Stub) (request : Request) : Prop := ∃ reason, stub.ruling request = .escaped reason

def rulingOn (stub : Stub) (head : Request.Head) (outcome : Except BodyError Bytes) : Ruling :=
  match stub.specification.judge head with
  | .decided ruling => ruling
  | .onBody rule => (rule outcome).ruling

theorem ruling_eq (stub : Stub) {request : Request} (h : request.body.queue = []) :
    stub.ruling request = stub.rulingOn request.head request.body.outcome := by
  cases hj : stub.specification.judge request.head with
  | decided ruling => simp only [Stub.ruling, RequestMatch.evaluate, rulingOn, hj]
  | onBody rule => simp only [ruling, RequestMatch.evaluate, rulingOn, hj, Request.Body.read_fst h]

end Stub

/-- A find goes on after the ruling: the stub rejects the request, or it cannot be evaluated. -/
def Matching.Ruling.PassesOver (ruling : Ruling) : Prop :=
  ruling ≠ .settled (.ok true) ∧ ∀ reason, ruling ≠ .escaped reason

/-- What a find makes of a list of stubs. -/
def choose (rulingOf : Stub → Ruling) : List Stub → Outcome (Option Stub)
  | [] => .returned none
  | stub :: rest =>
    match rulingOf stub with
    | .settled (.ok true) => .returned (some stub)
    | .settled _ => choose rulingOf rest
    | .escaped reason => .panicked reason

theorem mem_of_choose {rulingOf : Stub → Ruling} {stubs : List Stub} {stub : Stub}
    (h : choose rulingOf stubs = .returned (some stub)) : stub ∈ stubs := by
  induction stubs with
  | nil => cases h
  | cons head rest ih =>
    rw [choose] at h
    split at h
    · cases h
      exact List.mem_cons_self
    · exact List.mem_cons_of_mem head (ih h)
    · cases h

theorem exists_of_choose_panicked {rulingOf : Stub → Ruling} {stubs : List Stub} {reason : String}
    (h : choose rulingOf stubs = .panicked reason) : ∃ stub ∈ stubs,
      rulingOf stub = .escaped reason := by
  induction stubs with
  | nil => cases h
  | cons head rest ih =>
    rw [choose] at h
    split at h
    · cases h
    · obtain ⟨stub, hstub, hescaped⟩ := ih h
      exact ⟨stub, List.mem_cons_of_mem head hstub, hescaped⟩
    · rename_i hescaped
      cases h
      exact ⟨head, List.mem_cons_self, hescaped⟩

namespace Find

variable {q : Query} {outcome : Except BodyError Bytes} {result : Outcome (Option Stub)} {world : World}
  {find : Find}

/-- The find is on the way to this result, and nobody else is there. -/
def Tends (q : Query) (outcome : Except BodyError Bytes) (result : Outcome (Option Stub))
    (world : World) :
    Find → Prop
  | .start => world.registry.queue = [] ∧ world.body.queue = [] ∧ world.body.outcome = outcome ∧
    choose (·.rulingOn q.head outcome) world.registry.list = result
  | .queued => world.registry.queue = [q.me] ∧ world.body.queue = [] ∧ world.body.outcome = outcome ∧
    choose (·.rulingOn q.head outcome) world.registry.list = result
  | .scanning rest => world.body.queue = [] ∧ world.body.outcome = outcome ∧
    choose (·.rulingOn q.head outcome) rest = result
  | .reading stub rule rest reader => stub.specification.judge q.head = .onBody rule ∧
    reader.Tends q.me outcome world.body ∧ choose (·.rulingOn q.head outcome) (stub :: rest) = result
  | .counting stub => result = .returned (some stub)
  | .removing stub update => result = .returned (some stub) ∧
    ∀ seen, update = .working seen → seen = world.registry.stubs
  | .finished found => result = .returned found
  | .escaped reason => result = .panicked reason

def left (world : World) : Find → Nat
  | .start => 6 * world.registry.list.length + 2 * world.body.pending + 5
  | .queued => 6 * world.registry.list.length + 2 * world.body.pending + 4
  | .scanning rest => 6 * rest.length + 2 * world.body.pending + 3
  | .reading _ _ rest reader => 6 * rest.length + (2 * world.body.pending + reader.left) + 5
  | .counting _ => 4
  | .removing _ .start => 3
  | .removing _ (.working _) => 2
  | .removing _ (.finished _) => 1
  | .finished _ | .escaped _ => 0

theorem tends_proceed (world : World) {stub : Stub} {rest : List Stub} (hq : world.body.queue = [])
    (ho : world.body.outcome = outcome)
    (hr : choose (·.rulingOn q.head outcome) (stub :: rest) = result) :
    Tends q outcome result (proceed q world stub rest (stub.rulingOn q.head outcome)).1
      (proceed q world stub rest (stub.rulingOn q.head outcome)).2 := by
  rw [choose] at hr
  cases hruling : stub.rulingOn q.head outcome with
  | escaped reason =>
    rw [hruling] at hr
    exact hr.symm
  | settled verdict =>
    rw [hruling] at hr
    cases verdict with
    | error e => exact ⟨hq, ho, hr⟩
    | ok passed =>
      cases passed with
      | true => exact hr.symm
      | false => exact ⟨hq, ho, hr⟩

theorem left_proceed (q : Query) (world : World) (stub : Stub) (rest : List Stub) (ruling : Ruling) :
    left (proceed q world stub rest ruling).1 (proceed q world stub rest ruling).2 <
      6 * rest.length + 2 * world.body.pending + 5 := by
  cases ruling with
  | escaped reason => simp only [proceed, finish, left]; omega
  | settled verdict =>
    cases verdict with
    | error e => simp only [proceed, World.report, left]; omega
    | ok passed =>
      cases passed with
      | true => simp only [proceed, left]; omega
      | false => simp only [proceed, left]; omega

theorem tends_scanning {stub : Stub} {rest : List Stub}
    (h : Tends q outcome result world (.scanning (stub :: rest))) :
    Tends q outcome result (Find.step q world (.scanning (stub :: rest))).1
      (Find.step q world (.scanning (stub :: rest))).2 := by
  obtain ⟨hq, ho, hr⟩ := h
  cases hj : stub.specification.judge q.head with
  | decided ruling =>
    have hruling : stub.rulingOn q.head outcome = ruling := by rw [Stub.rulingOn, hj]
    have hproceed := tends_proceed world hq ho hr
    rw [hruling] at hproceed
    simp only [step, hj]
    exact hproceed
  | onBody rule =>
    simp only [step, hj]
    exact ⟨hj, ⟨hq, ho⟩, hr⟩

theorem tends_reading {stub : Stub} {rule : Except BodyError Bytes → Evaluation} {rest : List Stub}
    {reader : Reader} (h : Tends q outcome result world (.reading stub rule rest reader)) :
    Tends q outcome result (Find.step q world (.reading stub rule rest reader)).1
      (Find.step q world (.reading stub rule rest reader)).2 := by
  obtain ⟨hj, ht, hr⟩ := h
  cases reader with
  | finished verdict =>
    obtain ⟨hq, ho, rfl⟩ := ht
    have hruling : stub.rulingOn q.head verdict = (rule verdict).ruling := by rw [Stub.rulingOn, hj]
    have hproceed := tends_proceed (world.report (rule verdict).log) hq ho hr
    rw [hruling] at hproceed
    exact hproceed
  | start | queued | draining | awaiting => exact ⟨hj, Request.Reader.tends_step ht, hr⟩

theorem tends_removing {stub : Stub} {update : Update (List Stub) Empty}
    (h : Tends q outcome result world (.removing stub update)) :
    Tends q outcome result (Find.step q world (.removing stub update)).1
      (Find.step q world (.removing stub update)).2 := by
  obtain ⟨hr, hseen⟩ := h
  cases update with
  | start =>
    refine ⟨hr, fun seen he => ?_⟩
    injection he with he
    exact he.symm
  | working seen =>
    obtain rfl := hseen seen rfl
    obtain ⟨verdict, hv⟩ := (Update.moves_step (Registry.removing stub) world.registry.stubs
      (.working world.registry.stubs)).finishes
    refine ⟨hr, fun seen he => ?_⟩
    cases hv.symm.trans he
  | finished verdict => exact hr

theorem tends_step (h : Tends q outcome result world find) :
    Tends q outcome result (find.step q world).1 (find.step q world).2 := by
  cases find with
  | start =>
    obtain ⟨hqueue, hq, ho, hr⟩ := h
    exact ⟨by simp only [step, hqueue, List.nil_append], hq, ho, hr⟩
  | queued =>
    obtain ⟨hqueue, hq, ho, hr⟩ := h
    have hhead : world.registry.queue.head? = some q.me := by
      rw [hqueue]
      rfl
    rw [step, if_pos hhead]
    exact ⟨hq, ho, hr⟩
  | scanning rest =>
    cases rest with
    | nil => exact h.2.2.symm
    | cons stub rest => exact tends_scanning h
  | reading stub rule rest reader => exact tends_reading h
  | counting stub =>
    simp only [step]
    split
    · refine ⟨h, fun seen he => ?_⟩
      cases he
    · exact h
  | removing stub update => exact tends_removing h
  | finished found => exact h
  | escaped reason => exact h

theorem left_removing (world : World) (stub : Stub) {update : Update (List Stub) Empty}
    (h : ∃ verdict, update = .finished verdict) : left world (.removing stub update) = 1 := by
  obtain ⟨verdict, rfl⟩ := h
  rfl

theorem left_step (h : Tends q outcome result world find) (hf : find.isOver = false) :
    left (find.step q world).1 (find.step q world).2 < left world find := by
  cases find with
  | start => simp [step, left, Registry.list]
  | queued =>
    have hhead : world.registry.queue.head? = some q.me := by
      rw [h.1]
      rfl
    rw [step, if_pos hhead]
    simp [left]
  | scanning rest =>
    cases rest with
    | nil => simp [step, finish, left]
    | cons stub rest =>
      cases hj : stub.specification.judge q.head with
      | decided ruling =>
        have hproceed := left_proceed q world stub rest ruling
        simp only [step, hj]
        change _ < 6 * (rest.length + 1) + 2 * world.body.pending + 3
        omega
      | onBody rule =>
        simp only [step, hj, left, Reader.left, List.length_cons]
        omega
  | reading stub rule rest reader =>
    obtain ⟨_, ht, _⟩ := h
    cases reader with
    | finished verdict =>
      exact left_proceed q (world.report (rule verdict).log) stub rest (rule verdict).ruling
    | start | queued | draining | awaiting =>
      have hreader := Reader.left_step ht (fun result => by simp)
      simp only [step, left]
      omega
  | counting stub =>
    simp only [step]
    split <;> simp [finish, left]
  | removing stub update =>
    cases update with
    | start => simp [step, Update.step, left]
    | working seen =>
      obtain rfl := h.2 seen rfl
      have hone := left_removing (step q world (.removing stub (.working world.registry.stubs))).1 stub
        (Update.moves_step (Registry.removing stub) world.registry.stubs _).finishes
      exact Nat.lt_of_le_of_lt (Nat.le_of_eq hone) (Nat.lt_succ_self 1)
    | finished verdict => simp [step, finish, left]
  | finished | escaped => cases hf

theorem isOver_of_left_eq_zero (h : left world find = 0) : find.isOver := by
  cases find with
  | removing stub update => cases update <;> cases h
  | finished | escaped => rfl
  | start | queued | scanning | reading | counting => cases h

theorem run_of_isOver (q : Query) (fuel now : Nat) (world : World) (log : List (Nat × LogEvent))
    (h : find.isOver) : run q fuel world find now log = (world, find, now, log) := by
  cases fuel with
  | zero => rfl
  | succ fuel => rw [run, if_pos h]

theorem tends_log {log : List LogEvent} (h : Tends q outcome result world find) :
    Tends q outcome result { world with log } find := by
  cases find <;> exact h

theorem left_log (world : World) (log : List LogEvent) (find : Find) :
    left { world with log } find = left world find := by
  cases find with
  | removing stub update => cases update <;> rfl
  | start | queued | scanning | reading | counting | finished | escaped => rfl

theorem run_finishes (fuel now : Nat) (log : List (Nat × LogEvent))
    (h : Tends q outcome result world find) (hfuel : left world find ≤ fuel) :
    ∃ world', (run q fuel world find now log).2.1.isOver ∧
      Tends q outcome result world' (run q fuel world find now log).2.1 := by
  induction fuel generalizing world find now log with
  | zero =>
    have hover := isOver_of_left_eq_zero (show left world find = 0 by omega)
    rw [run_of_isOver q 0 now world log hover]
    exact ⟨world, hover, h⟩
  | succ fuel ih =>
    cases hover : find.isOver with
    | true =>
      rw [run_of_isOver q _ now world log hover]
      exact ⟨world, hover, h⟩
    | false =>
      have hstep : Tends q outcome result { world with log := [] } find := tends_log h
      have hleft := left_step hstep hover
      rw [left_log world [] find] at hleft
      simp only [run, hover, Bool.false_eq_true, if_false]
      exact ih _ _ (tends_step hstep) (by omega)

end Find

section

variable {rulingOf : Stub → Ruling} {stubs : List Stub}

structure First (rulingOf : Stub → Ruling) (stubs : List Stub) (stub : Stub) : Prop where
  mem : stub ∈ stubs
  stops : ¬(rulingOf stub).PassesOver
  least : ∀ s ∈ stubs, s.before stub → (rulingOf s).PassesOver

theorem First.cons {stub head : Stub} (h : First rulingOf stubs stub)
    (hp : (rulingOf head).PassesOver) : First rulingOf (head :: stubs) stub := by
  refine ⟨List.mem_cons_of_mem head h.mem, h.stops, fun s hs hb => ?_⟩
  obtain rfl | hs := List.mem_cons.mp hs
  · exact hp
  · exact h.least s hs hb

theorem first_head {head : Stub} (hs : Sorted (head :: stubs)) (hn : ¬(rulingOf head).PassesOver) :
    First rulingOf (head :: stubs) head := by
  refine ⟨List.mem_cons_self, hn, fun s hmem hb => ?_⟩
  obtain rfl | hmem := List.mem_cons.mp hmem
  · exact absurd hb (Stub.before_irrefl s)
  · exact absurd hb (Stub.before_asymm ((List.pairwise_cons.mp hs).1 s hmem))

/-- The result is that of a find which stops at the first stub that it does not pass over. -/
inductive Chosen (rulingOf : Stub → Ruling) (stubs : List Stub) : Outcome (Option Stub) → Prop
  | none (h : ∀ s ∈ stubs, (rulingOf s).PassesOver) : Chosen rulingOf stubs (.returned none)
  | accepted {stub : Stub} (h : First rulingOf stubs stub) (ha : rulingOf stub = .settled (.ok true)) :
      Chosen rulingOf stubs (.returned (some stub))
  | escaped {stub : Stub} {reason : String} (h : First rulingOf stubs stub)
      (he : rulingOf stub = .escaped reason) : Chosen rulingOf stubs (.panicked reason)

theorem Chosen.cons {head : Stub} {result : Outcome (Option Stub)} (h : Chosen rulingOf stubs result)
    (hp : (rulingOf head).PassesOver) : Chosen rulingOf (head :: stubs) result := by
  cases h with
  | none h => exact .none (List.forall_mem_cons.mpr ⟨hp, h⟩)
  | accepted h ha => exact .accepted (h.cons hp) ha
  | escaped h he => exact .escaped (h.cons hp) he

theorem passesOver_of_settled {ruling : Ruling} {verdict : Except Matching.MatchError Bool}
    (h : ruling = .settled verdict) (hv : verdict ≠ .ok true) : ruling.PassesOver := by
  subst h
  refine ⟨fun he => ?_, fun reason he => nomatch he⟩
  injection he with he
  exact hv he

theorem chosen_choose (rulingOf : Stub → Ruling) {stubs : List Stub} (hs : Sorted stubs) :
    Chosen rulingOf stubs (choose rulingOf stubs) := by
  induction stubs with
  | nil => exact .none fun s hs => nomatch hs
  | cons head rest ih =>
    have ih := ih (List.pairwise_cons.mp hs).2
    cases hr : rulingOf head with
    | escaped reason =>
      simp only [choose, hr]
      exact .escaped (first_head hs fun hp => hp.2 reason hr) hr
    | settled verdict =>
      cases verdict with
      | error e =>
        simp only [choose, hr]
        exact ih.cons (passesOver_of_settled hr (by simp))
      | ok passed =>
        cases passed with
        | false =>
          simp only [choose, hr]
          exact ih.cons (passesOver_of_settled hr (by simp))
        | true =>
          simp only [choose, hr]
          exact .accepted (first_head hs fun hp => hp.1 hr) hr

end

theorem choose_rulingOn {request : Request} (hfresh : request.body.queue = []) (stubs : List Stub) :
    choose (·.rulingOn request.head request.body.outcome) stubs = choose (·.ruling request) stubs := by
  have hrulings : (fun stub : Stub => stub.ruling request) =
      fun stub => stub.rulingOn request.head request.body.outcome := by
    funext stub
    exact stub.ruling_eq hfresh
  rw [hrulings]

def Find.Query.lone (request : Request) (verbose : Bool) : Find.Query :=
  ⟨0, request.head, verbose, if verbose then request.format else ""⟩

theorem Registry.find_ends {g : Registry} {request : Request} (hqueue : g.queue = [])
    (hfresh : request.body.queue = []) (verbose : Bool) (now : Nat) :
    ∃ world,
      (Find.run (.lone request verbose) (g.enough request.body) ⟨g, request.body, []⟩ .start now
        []).2.1.isOver ∧
      Find.Tends (.lone request verbose) request.body.outcome (choose (·.ruling request) g.list) world
        (Find.run (.lone request verbose) (g.enough request.body) ⟨g, request.body, []⟩ .start now
          []).2.1 := by
  have hstart : Find.Tends (.lone request verbose) request.body.outcome
    (choose (·.ruling request) g.list)
      ⟨g, request.body, []⟩ .start := ⟨hqueue, hfresh, rfl, choose_rulingOn hfresh g.list⟩
  have hfuel : Find.left ⟨g, request.body, []⟩ .start ≤ g.enough request.body := by
    simp only [Find.left, Registry.enough, Request.Body.enough]
    omega
  exact Find.run_finishes _ now [] hstart hfuel

theorem Registry.find_result {g : Registry} {request : Request} (hqueue : g.queue = [])
    (hfresh : request.body.queue = []) (verbose : Bool) (now : Nat) :
    (g.find request verbose now).result = choose (·.ruling request) g.list := by
  obtain ⟨world, hover, htends⟩ := Registry.find_ends hqueue hfresh verbose now
  rw [Registry.find, ← Find.Query.lone]
  generalize Find.run _ (g.enough request.body) ⟨g, request.body, []⟩ .start now [] = ended
    at hover htends
  obtain ⟨world', find, now', log⟩ := ended
  cases find with
  | finished found => exact htends.symm
  | escaped reason => exact htends.symm
  | start | queued | scanning | reading | counting | removing => cases hover

/-- What the stubs in the list make of a find. -/
structure Decides (stubs : List Stub) (request : Request) (result : Outcome (Option Stub)) : Prop where
  some_iff : ∀ stub, result = .returned (some stub) ↔ stub ∈ stubs ∧ stub.Accepts request ∧
    (∀ s ∈ stubs, s.Accepts request → s = stub ∨ stub.before s) ∧
      ∀ s ∈ stubs, s.before stub → ¬s.Escapes request
  none_iff : result = .returned none ↔ ∀ s ∈ stubs, ¬s.Accepts request ∧ ¬s.Escapes request
  panicked_iff : (∃ reason, result = .panicked reason) ↔
    ∃ stub ∈ stubs, stub.Escapes request ∧ ∀ s ∈ stubs, s.before stub → ¬s.Accepts request
  ends : (∃ found, result = .returned found) ∨ ∃ reason, result = .panicked reason

section

variable {stubs : List Stub} {request : Request} {stub : Stub}

theorem passesOver_iff :
    (stub.ruling request).PassesOver ↔ ¬stub.Accepts request ∧ ¬stub.Escapes request := by
  rw [Ruling.PassesOver, Stub.Accepts, Stub.Escapes, not_exists]

theorem not_escapes_of_accepts (h : stub.Accepts request) : ¬stub.Escapes request := by
  rintro ⟨reason, he⟩
  rw [Stub.Accepts, he] at h
  cases h

theorem decides_none (h : ∀ s ∈ stubs, (s.ruling request).PassesOver) :
    Decides stubs request (.returned none) := by
  have hpass := fun s hs => passesOver_iff.mp (h s hs)
  refine ⟨fun stub => ⟨?_, ?_⟩, ⟨?_, ?_⟩, ⟨?_, ?_⟩, .inl ⟨none, rfl⟩⟩
  · intro he
    cases he
  · rintro ⟨hmem, ha, _⟩
    exact absurd ha (hpass stub hmem).1
  · exact fun _ => hpass
  · exact fun _ => rfl
  · rintro ⟨_, he⟩
    cases he
  · rintro ⟨stub, hmem, he, _⟩
    exact absurd he (hpass stub hmem).2

theorem decides_accepted (hs : Sorted stubs) (h : First (·.ruling request) stubs stub)
    (ha : stub.Accepts request) : Decides stubs request (.returned (some stub)) := by
  have hpass := fun s hs hb => passesOver_iff.mp (h.least s hs hb)
  refine ⟨fun s => ⟨?_, ?_⟩, ⟨?_, ?_⟩, ⟨?_, ?_⟩, .inl ⟨_, rfl⟩⟩
  · intro he
    cases he
    refine ⟨h.mem, ha, fun s hmem has => ?_, fun s hmem hb => (hpass s hmem hb).2⟩
    obtain rfl | hb | hb := hs.total h.mem hmem
    · exact .inl rfl
    · exact .inr hb
    · exact absurd has (hpass s hmem hb).1
  · rintro ⟨hmem, has, hleast, _⟩
    obtain rfl | hb | hb := hs.total h.mem hmem
    · rfl
    · obtain rfl | hb' := hleast stub h.mem ha
      · rfl
      · exact absurd hb' (Stub.before_asymm hb)
    · exact absurd has (hpass s hmem hb).1
  · intro he
    cases he
  · intro hnone
    exact absurd ha (hnone stub h.mem).1
  · rintro ⟨_, he⟩
    cases he
  · rintro ⟨s, hmem, he, hbefore⟩
    obtain rfl | hb | hb := hs.total h.mem hmem
    · exact absurd he (not_escapes_of_accepts ha)
    · exact absurd ha (hbefore stub h.mem hb)
    · exact absurd he (hpass s hmem hb).2

theorem decides_escaped {reason : String} (hs : Sorted stubs) (h : First (·.ruling request) stubs stub)
    (hr : stub.ruling request = .escaped reason) : Decides stubs request (.panicked reason) := by
  have he : stub.Escapes request := ⟨reason, hr⟩
  have hpass := fun s hs hb => passesOver_iff.mp (h.least s hs hb)
  refine ⟨fun s => ⟨?_, ?_⟩, ⟨?_, ?_⟩, ⟨?_, ?_⟩, .inr ⟨reason, rfl⟩⟩
  · intro he
    cases he
  · rintro ⟨hmem, has, _, hbefore⟩
    obtain rfl | hb | hb := hs.total h.mem hmem
    · exact absurd he (not_escapes_of_accepts has)
    · exact absurd he (hbefore stub h.mem hb)
    · exact absurd has (hpass s hmem hb).1
  · intro he
    cases he
  · intro hnone
    exact absurd he (hnone stub h.mem).2
  · exact fun _ => ⟨stub, h.mem, he, fun s hmem hb => (hpass s hmem hb).1⟩
  · exact fun _ => ⟨reason, rfl⟩

theorem decides_of_chosen {result : Outcome (Option Stub)} (hs : Sorted stubs)
    (h : Chosen (·.ruling request) stubs result) : Decides stubs request result := by
  cases h with
  | none h => exact decides_none h
  | accepted h ha => exact decides_accepted hs h ha
  | escaped h he => exact decides_escaped hs h he

end

namespace Traffic

/-- With nobody else around, a find comes back with the first stub in the list that accepts the
request, and nothing before it stands in the way but a decoder that panics. -/
theorem find_decides (requests : Nat → Request) (events : List Event)
    (hidle : ∀ call ∈ (run requests events).calls, call.isInLine = false) (request : Request)
    (hfresh : request.body.queue = []) (verbose : Bool) (now : Nat) :
    Decides (run requests events).registry.list request
      ((run requests events).registry.find request verbose now).result := by
  have hqueue := (orderly_run requests events).queue_eq_nil hidle
  have hsorted := (sound_run requests events).sorted
  rw [Registry.find_result hqueue hfresh]
  exact decides_of_chosen hsorted (chosen_choose _ hsorted)

def readerAndOther : List Event :=
  [.create .blank (Matching.Specification.ofCriteria .text [.bodyText (.ofBool "" fun _ => true)]).erase
      fun _ => .done (.failed ""),
    .create .blank (Matching.Specification.any .text).erase fun _ => .done (.failed ""),
    .call (.add 0), .advance 0, .advance 0, .call (.add 1), .advance 1, .advance 1]

def broken : Request :=
  ⟨⟨"GET", ⟨none, none, "/", none⟩, .http11, ⟨[]⟩⟩, .ofFrames [⟨0, .failure "gone"⟩]⟩

theorem find_decides_broken :
    Decides (run (fun _ => broken) readerAndOther).registry.list broken
      ((run (fun _ => broken) readerAndOther).registry.find broken false 0).result ∧
    (match ((run (fun _ => broken) readerAndOther).registry.find broken false 0).result with
      | .returned (some stub) => stub.created
      | _ => 0) = 2 := by
  have hall : (run (fun _ => broken) readerAndOther).calls.all (fun call => !call.isInLine) = true := rfl
  refine ⟨find_decides _ _ (fun call hcall => ?_) broken rfl false 0, rfl⟩
  exact Bool.not_eq_true' _ ▸ List.all_eq_true.mp hall call hcall

def decoderAndOther : List Event :=
  let decoder : Matching.Decoder Unit := ⟨"form", fun _ => .panicked "index out of bounds"⟩
  [.create .blank (Matching.Specification.ofCriteria decoder [.body (.ofBool "" fun _ => true)]).erase
      fun _ => .done (.failed ""),
    .create .blank (Matching.Specification.any .text).erase fun _ => .done (.failed ""),
    .call (.add 0), .advance 0, .advance 0, .call (.add 1), .advance 1, .advance 1]

def sent : Request := ⟨⟨"POST", ⟨none, none, "/", none⟩, .http11, ⟨[]⟩⟩, .ofFrames [⟨0, .data [97]⟩]⟩

/-- The only stub that accepts the request is not found, since the find does not get past the decoder. -/
theorem accepting_stub_missed :
    (∀ call ∈ (run (fun _ => sent) decoderAndOther).calls, call.isInLine = false) ∧
    (run (fun _ => sent) decoderAndOther).registry.list.map (·.ruling sent) =
      [.escaped "index out of bounds", .settled (.ok true)] ∧
    ((run (fun _ => sent) decoderAndOther).registry.find sent false 0).result =
      .panicked "index out of bounds" := by
  have hall : (run (fun _ => sent) decoderAndOther).calls.all (fun call => !call.isInLine) = true := rfl
  refine ⟨fun call hcall => ?_, rfl, rfl⟩
  exact Bool.not_eq_true' _ ▸ List.all_eq_true.mp hall call hcall

end Traffic

end StubServer
