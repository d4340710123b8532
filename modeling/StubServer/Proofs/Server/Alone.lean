import StubServer.Proofs.Server.Rounds
import StubServer.Proofs.Stub.Selection

namespace StubServer

open Request (BodyError)

def Registry.after (g : Registry) : Outcome (Option Stub) → Registry
  | .returned (some stub) =>
    if stub.configuration.removeAfterMatch then ((g.count stub).remove stub).1 else g.count stub
  | _ => g

theorem Registry.remove_fst (g : Registry) (stub : Stub) :
    (g.remove stub).1 = { g with stubs := (Update.alone (removing stub) g.stubs).1 } := rfl

namespace Find

/-- What the registry is like on the way, if it was `g` at the beginning. -/
def Settles (q : Query) (g registry : Registry) : Find → Prop
  | .start => registry = g
  | .queued | .scanning _ | .reading .. | .counting _ => registry = { g with queue := [q.me] }
  | .removing stub .start =>
    stub.configuration.removeAfterMatch ∧ registry = { g.count stub with queue := [q.me] }
  | .removing stub (.working seen) => stub.configuration.removeAfterMatch ∧ seen = g.stubs ∧
    registry = { g.count stub with queue := [q.me] }
  | .removing stub (.finished _) => stub.configuration.removeAfterMatch ∧
    registry = { ((g.count stub).remove stub).1 with queue := [q.me] }
  | .finished stub? => registry = g.after (.returned stub?)
  | .escaped _ => registry = g

variable {q : Query} {g registry : Registry} {find : Find}

theorem settles_of_isScanning (h : find.isScanning ∨ ∃ stub, find = .counting stub) :
    Settles q g registry find ↔ registry = { g with queue := [q.me] } := by
  obtain h | ⟨stub, rfl⟩ := h
  · cases find with
    | scanning | reading => exact Iff.rfl
    | start | queued | counting | removing | finished | escaped => cases h
  · exact Iff.rfl

theorem leave_queue (h : g.queue = []) : ({ g with queue := [q.me] } : Registry).leave q.me = g := by
  obtain ⟨stubs, counts, queue⟩ := g
  subst h
  simp [Registry.leave]

theorem settles_removing {stub : Stub} {update update' : Update (List Stub) Empty}
    {stubs : Cell (List Stub)}
    (h : Settles q g registry (.removing stub update)) (hu : ∀ result, update ≠ .finished result)
    (hm : Update.Moves (Registry.removing stub) registry.stubs update stubs update') :
    Settles q g { registry with stubs } (.removing stub update') := by
  cases hm with
  | load =>
    obtain ⟨honce, rfl⟩ := h
    exact ⟨honce, rfl, rfl⟩
  | fail he => cases he
  | skip he =>
    obtain ⟨honce, rfl, rfl⟩ := h
    have hcell : (Update.alone (Registry.removing stub) (g.count stub).stubs).1 = g.stubs :=
      Update.alone_none he
    refine ⟨honce, ?_⟩
    rw [Registry.remove_fst, hcell]
    rfl
  | publish he hv =>
    obtain ⟨honce, rfl, rfl⟩ := h
    have hcell : (Update.alone (Registry.removing stub) (g.count stub).stubs).1 = g.stubs.store _ :=
      Update.alone_some he
    refine ⟨honce, ?_⟩
    rw [Registry.remove_fst, hcell]
    rfl
  | retry he hv =>
    obtain ⟨honce, rfl, rfl⟩ := h
    exact absurd rfl hv
  | stay => exact absurd rfl (hu _)

theorem settles_step (hqueue : g.queue = []) (world : World) (h : Settles q g world.registry find) :
    Settles q g (find.step q world).1.registry (find.step q world).2 := by
  have hm := moves_step q world find
  generalize world.registry = before at h hm
  generalize (find.step q world).1.registry = after, (find.step q world).2 = next at hm ⊢
  cases hm with
  | enter =>
    obtain rfl : before = g := h
    simp [Settles, hqueue]
  | wait => exact h
  | load => exact h
  | scan hscan hnext =>
    exact (settles_of_isScanning hnext).mpr ((settles_of_isScanning (.inl hscan)).mp h)
  | miss hscan hnext =>
    obtain rfl := (settles_of_isScanning (.inl hscan)).mp h
    obtain rfl | ⟨reason, rfl⟩ := hnext
    · exact leave_queue hqueue
    · exact leave_queue hqueue
  | count honce =>
    obtain rfl : before = _ := h
    exact ⟨honce, rfl⟩
  | @serve stub honce =>
    obtain rfl : before = _ := h
    have hcount : (g.count stub).queue = [] := hqueue
    rw [Settles, Registry.after, honce]
    exact leave_queue hcount
  | remove hu hm => exact settles_removing h hu hm
  | depart stub result =>
    obtain ⟨honce, rfl⟩ := h
    have hremove : ((g.count stub).remove stub).1.queue = [] := hqueue
    rw [Settles, Registry.after, if_pos honce]
    exact leave_queue hremove
  | stay => exact h

theorem settles_of_result {result : Outcome (Option Stub)} {outcome : Except BodyError Bytes}
    {world : World}
    (h : Settles q g registry find) (ht : Tends q outcome result world find) (hover : find.isOver) :
    registry = g.after result := by
  cases find with
  | finished stub? =>
    obtain rfl : result = _ := ht
    exact h
  | escaped reason =>
    obtain rfl : result = _ := ht
    exact h
  | start | queued | scanning | reading | counting | removing => cases hover

theorem settles_run (hqueue : g.queue = []) (fuel now : Nat) (log : List (Nat × LogEvent))
    {world : World} (h : Settles q g world.registry find) :
    Settles q g (run q fuel world find now log).1.registry (run q fuel world find now log).2.1 := by
  induction fuel generalizing world find now log with
  | zero => exact h
  | succ fuel ih =>
    rw [run]
    split
    · exact h
    · exact ih _ _ (settles_step hqueue { world with log := [] } h)

end Find

theorem Registry.find_registry {g : Registry} {request : Request} (hqueue : g.queue = [])
    (hfresh : request.body.queue = []) (verbose : Bool) (now : Nat) :
    (g.find request verbose now).registry = g.after (choose (·.ruling request) g.list) := by
  obtain ⟨world, hover, htends⟩ := Registry.find_ends hqueue hfresh verbose now
  have hsettles : Find.Settles (.lone request verbose) g
      (Find.run (.lone request verbose) (g.enough request.body) ⟨g, request.body, []⟩ .start now
        []).1.registry
      (Find.run (.lone request verbose) (g.enough request.body) ⟨g, request.body, []⟩ .start now
        []).2.1 :=
    Find.settles_run hqueue _ now [] rfl
  exact Find.settles_of_result hsettles htends hover

namespace ServerState

def settled (state : ServerState) (request : Request) (timestamp : Timestamp) : ServerState :=
  let result := choose (·.ruling request) state.registry.list
  let state := { state with registry := state.registry.after result }
  match result with
  | .returned stub? => state.record (.ofHead timestamp request.head) stub?
  | .failed _ | .panicked _ => state

variable {state : ServerState} {request : Request}

theorem handle_state (hqueue : state.registry.queue = []) (hfresh : request.body.queue = [])
    (timestamp : Timestamp) (now : Nat) :
    (state.handle request timestamp now).state = state.settled request timestamp := by
  have hresult := Registry.find_result hqueue hfresh state.verbose now
  have hregistry := Registry.find_registry hqueue hfresh state.verbose now
  rw [settled, handle]
  cases hchoose : choose (·.ruling request) state.registry.list with
  | returned | failed | panicked =>
    rw [hchoose] at hresult hregistry
    simp only [hresult, hregistry]

end ServerState

namespace Find

variable {q : Query} {g : Registry} {result : Outcome (Option Stub)} {outcome : Except BodyError Bytes}
  {world : World} {find : Find}

/-- The find is on its way to the result with nobody else around, and has at most so many steps to go. -/
structure Nears (q : Query) (g : Registry) (outcome : Except BodyError Bytes)
    (result : Outcome (Option Stub)) (most : Nat) (world : World) (find : Find) : Prop where
  tends : Tends q outcome result world find
  settles : Settles q g world.registry find
  left_le : left world find ≤ most

theorem nears_step (hqueue : g.queue = []) {most : Nat} (world : World) (find : Find)
    (h : Nears q g outcome result most world find) :
    Nears q g outcome result most (find.step q world).1 (find.step q world).2 := by
  refine ⟨tends_step h.tends, settles_step hqueue world h.settles, ?_⟩
  cases hover : find.isOver with
  | true =>
    cases find with
    | finished | escaped => exact Nat.zero_le _
    | start | queued | scanning | reading | counting | removing => cases hover
  | false => exact Nat.le_trans (Nat.le_of_lt (left_step h.tends hover)) h.left_le

theorem Nears.forget {most : Nat} (h : Nears q g outcome result most world find) :
    Nears q g outcome result most ⟨world.registry, world.body, []⟩ find :=
  ⟨tends_log h.tends, h.settles, Nat.le_trans (Nat.le_of_eq (left_log world [] find)) h.left_le⟩

theorem nears_poll (hqueue : g.queue = []) {most : Nat}
    (h : Nears q g outcome result (most + 1) world find) (hwait : find.isWaiting) :
    Nears q g outcome result most (find.poll q world).1 (find.poll q world).2 := by
  have hleft := left_step h.tends (isOver_of_isOpen (isOpen_of_isWaiting hwait))
  have hmost := h.left_le
  have hnears : Nears q g outcome result most (find.step q world).1 (find.step q world).2 :=
    ⟨tends_step h.tends, settles_step hqueue world h.settles, by omega⟩
  exact goOn_induction (nears_step hqueue) _ hnears

end Find

namespace Exchange

variable {state : ServerState} {e : Exchange} {find next : Find} {world : Find.World}

theorem resume_waits (timestamp : Timestamp) (now : Nat) (hfind : e.handling = .finding find)
    (hpoll : find.poll e.query ⟨state.registry, e.request.body, []⟩ = (world, next))
      (hwait : next.isWaiting) :
    e.resume state timestamp now = ({ state with registry := world.registry },
      ⟨{ e.request with body := world.body }, e.query, .finding next, e.found⟩, world.log) := by
  simp only [resume, hfind, hpoll]
  cases next with
  | start | queued | reading => rfl
  | scanning | counting | removing | finished | escaped => cases hwait

theorem resume_settled {initial : ServerState} {request : Request} {outcome : Except BodyError Bytes}
    {most : Nat} (timestamp : Timestamp) (now : Nat) (hfind : e.handling = .finding find)
    (hpoll : find.poll e.query ⟨state.registry, e.request.body, []⟩ = (world, next))
      (hover : next.isOver)
    (hhead : e.request.head = request.head)
    (hstate : ∀ registry, { state with registry } = { initial with registry })
    (h : Find.Nears e.query initial.registry outcome
      (choose (·.ruling request) initial.registry.list) most
      world next) : (e.resume state timestamp now).1 = initial.settled request timestamp := by
  have hregistry := Find.settles_of_result h.settles h.tends hover
  have htends := h.tends
  simp only [resume, hfind, hpoll, hhead, hstate, hregistry, ServerState.settled]
  cases next with
  | finished stub? =>
    have hresult : choose (·.ruling request) initial.registry.list = _ := htends
    rw [hresult]
  | escaped reason =>
    have hresult : choose (·.ruling request) initial.registry.list = _ := htends
    rw [hresult]
  | start | queued | scanning | reading | counting | removing => cases hover

end Exchange

namespace Service

variable {s : Service} {initial : ServerState} {request : Request} {n : Nat}

theorem resume_settles (timestamp : Timestamp) (now : Nat) (hqueue : initial.registry.queue = [])
    {outcome : Except BodyError Bytes} (most : Nat) {e : Exchange} {find : Find}
    (hn : s.exchanges[n]? = some e) (hfind : e.handling = .finding find) (hwait : find.isWaiting)
    (hhead : e.request.head = request.head)
    (hstate : ∀ registry, { s.state with registry } = { initial with registry })
    (h : Find.Nears e.query initial.registry outcome
      (choose (·.ruling request) initial.registry.list) most
      ⟨s.state.registry, e.request.body, []⟩ find) :
    ∃ k, ((List.replicate k (.resume n timestamp now)).foldl step s).state =
      initial.settled request timestamp := by
  induction most generalizing s e find with
  | zero =>
    have hover := Find.isOver_of_left_eq_zero (Nat.le_zero.mp h.left_le)
    cases (Find.isOver_of_isOpen (Find.isOpen_of_isWaiting hwait)).symm.trans hover
  | succ most ih =>
    have hnears := Find.nears_poll hqueue h hwait
    have hrest := Find.poll_rests e.query ⟨s.state.registry, e.request.body, []⟩
      (Find.isOpen_of_isWaiting hwait)
    cases hpoll : find.poll e.query ⟨s.state.registry, e.request.body, []⟩ with
    | mk world next =>
      rw [hpoll] at hnears hrest
      obtain hwait' | hover := Bool.or_eq_true_iff.mp hrest
      · have hresume := Exchange.resume_waits timestamp now hfind hpoll hwait'
        have hstep : (s.step (.resume n timestamp now)).state =
          { s.state with registry := world.registry } := by
          simp only [step, hn, hresume]
        have hnext : (s.step (.resume n timestamp now)).exchanges[n]? =
            some ⟨{ e.request with body := world.body }, e.query, .finding next, e.found⟩ := by
          simp only [step, hn, hresume]
          exact List.getElem?_set_self (List.getElem?_eq_some_iff.mp hn).1
        have hsame : ∀ registry, { (s.step (.resume n timestamp now)).state with registry } =
            { initial with registry } := by
          rw [hstep]
          exact hstate
        obtain ⟨k, hk⟩ := ih hnext rfl hwait' hhead hsame (by rw [hstep]; exact hnears.forget)
        exact ⟨k + 1, hk⟩
      · refine ⟨1, ?_⟩
        have hsettled := Exchange.resume_settled timestamp now hfind hpoll hover hhead hstate hnears
        simp only [List.replicate_one, List.foldl_cons, List.foldl_nil, step, hn]
        exact hsettled

/-- A request that is handled from wait to wait with nobody else around leaves what it leaves when it is
handled at once. -/
theorem handle_alone (s : Service) (request : Request) (timestamp : Timestamp) (now : Nat)
    (hqueue : s.state.registry.queue = []) (hfresh : request.body.queue = []) :
    ∃ k, ((List.replicate k (.resume s.exchanges.length timestamp now)).foldl step
      (s.step (.arrive request))).state = (s.state.handle request timestamp now).state := by
  have hn : (s.step (.arrive request)).exchanges[s.exchanges.length]? =
      some (.new s.exchanges.length s.state.verbose request) := List.getElem?_concat_length
  have htends : Find.Tends (Exchange.new s.exchanges.length s.state.verbose request).query
      request.body.outcome (choose (·.ruling request) s.state.registry.list)
      ⟨s.state.registry, request.body, []⟩ .start :=
    ⟨hqueue, hfresh, rfl, choose_rulingOn hfresh s.state.registry.list⟩
  rw [ServerState.handle_state hqueue hfresh]
  exact resume_settles timestamp now hqueue _ hn rfl rfl rfl (fun _ => rfl) ⟨htends, rfl, Nat.le_refl _⟩

end Service

end StubServer
