import StubServer.Proofs.Stub.Answering
import StubServer.Proofs.Stub.Polls

namespace StubServer

open Request (Reader BodyError)

namespace Find

variable {q : Query} {world world' : World} {find : Find} {outcome : Except BodyError Bytes}
  {result : Outcome (Option Stub)} {stubs : List Stub} {body : Request.Body}

theorem poll_eq (q : Query) (world : World) (find : Find) :
    find.poll q world = goOn q (find.step q world).2.due (find.step q world).1
      (find.step q world).2 := rfl

/-- A find that has its turn keeps it until it is over, and then leaves the queue. -/
def KeepsTurn (q : Query) (queue : List Nat) (world : World) (find : Find) : Prop :=
  find.isSearching ∧ world.registry.queue = queue ∨ find.isOver ∧ world.registry.queue = queue.erase q.me

theorem keepsTurn_of_isSearching (world : World) (h : find.isSearching) :
    KeepsTurn q world.registry.queue (find.step q world).1 (find.step q world).2 := by
  have hm := moves_step q world find
  rw [KeepsTurn]
  generalize world.registry = before at hm ⊢
  generalize (find.step q world).1.registry = after, (find.step q world).2 = next at hm ⊢
  cases hm with
  | enter | wait | load => cases h
  | scan _ hnext =>
    refine .inl ⟨?_, rfl⟩
    obtain hnext | ⟨stub, rfl⟩ := hnext
    · exact isSearching_of_isScanning hnext
    · rfl
  | miss _ hnext =>
    refine .inr ⟨?_, rfl⟩
    obtain rfl | ⟨reason, rfl⟩ := hnext <;> rfl
  | count | remove => exact .inl ⟨rfl, rfl⟩
  | serve | depart => exact .inr ⟨rfl, rfl⟩
  | stay hover =>
    cases find with
    | finished | escaped => cases h
    | start | queued | scanning | reading | counting | removing => cases hover

theorem step_of_isOver (world : World) (h : find.isOver) : find.step q world = (world, find) := by
  cases find with
  | finished | escaped => rfl
  | start | queued | scanning | reading | counting | removing => cases h

theorem keepsTurn_step {queue : List Nat} (h : KeepsTurn q queue world find) :
    KeepsTurn q queue (find.step q world).1 (find.step q world).2 := by
  obtain ⟨hsearching, rfl⟩ | ⟨hover, hqueue⟩ := h
  · exact keepsTurn_of_isSearching world hsearching
  · rw [step_of_isOver world hover]
    exact .inr ⟨hover, hqueue⟩

theorem keepsTurn_poll (hhead : world.registry.queue.head? = some q.me)
    (hfind : find = .queued ∨ find.isScanning) :
    KeepsTurn q world.registry.queue (find.poll q world).1 (find.poll q world).2 := by
  have hstep : KeepsTurn q world.registry.queue (find.step q world).1 (find.step q world).2 := by
    obtain rfl | hscan := hfind
    · rw [step, if_pos hhead]
      exact .inl ⟨rfl, rfl⟩
    · exact keepsTurn_of_isSearching world (isSearching_of_isScanning hscan)
  rw [poll_eq]
  exact goOn_induction (fun _ _ => keepsTurn_step) _ hstep

def ownQueue (q : Query) : Find → List Nat
  | .start | .finished _ | .escaped _ => []
  | .queued | .scanning _ | .reading .. | .counting _ | .removing .. => [q.me]

/-- The world of a find that has the stubs and the body to itself. -/
def lone (q : Query) (stubs : List Stub) (body : Request.Body) (find : Find) : World :=
  ⟨⟨.new stubs, fun _ => 0, find.ownQueue q⟩, body, []⟩

/-- The find is on the way to the result that it would have with nobody else around, and leaves the
body to the responder. -/
structure Fares (q : Query) (stubs : List Stub) (outcome : Except BodyError Bytes)
    (result : Outcome (Option Stub)) (body : Request.Body) (find : Find) : Prop where
  tends : Tends q outcome result (find.lone q stubs body) find
  spares : Spares q outcome (find.lone q stubs body) find

theorem fares_start (hfresh : body.queue = []) (q : Query) (stubs : List Stub) :
    Fares q stubs body.outcome (choose (·.rulingOn q.head body.outcome) stubs) body .start :=
  ⟨⟨rfl, hfresh, rfl, rfl⟩, hfresh, rfl⟩

theorem fares_queued (h : Fares q stubs outcome result body .start) :
    Fares q stubs outcome result body .queued := by
  obtain ⟨⟨-, hqueue, houtcome, hresult⟩, hspares⟩ := h
  exact ⟨⟨rfl, hqueue, houtcome, hresult⟩, hspares⟩

def lonelyLeft (q : Query) (stubs : List Stub) (body : Request.Body) (find : Find) : Nat :=
  left (find.lone q stubs body) find

theorem lonelyLeft_le {stubs stubs' : List Stub} (h : stubs'.length ≤ stubs.length) (q : Query)
    (body : Request.Body)
    (find : Find) : find.lonelyLeft q stubs' body ≤ find.lonelyLeft q stubs body := by
  have hlist : ∀ stubs, (lone q stubs body find).registry.list = stubs := fun _ => rfl
  have hbody : ∀ stubs, (lone q stubs body find).body = body := fun _ => rfl
  cases find with
  | start | queued =>
    simp only [lonelyLeft, left, hlist, hbody]
    omega
  | removing stub update => cases update <;> exact Nat.le_refl _
  | scanning | reading | counting | finished | escaped => exact Nat.le_refl _

def listLeft : Option Stub → List Stub → List Stub
  | none, stubs => stubs
  | some stub, stubs => listAfter stub stubs

/-- What a find comes to from one wait to the next, if the list is the one that it fares with: it
goes to the end of the queue, waits for its turn, waits again in its turn, or comes back, and then
leaves the queue. -/
inductive Polls (q : Query) (stubs : List Stub) (outcome : Except BodyError Bytes)
    (result : Outcome (Option Stub)) (g : Registry) (body : Request.Body) :
    Find → Registry → Request.Body → Find → Prop
  | enters :
      Polls q stubs outcome result g body .start { g with queue := g.queue ++ [q.me] } body .queued
  | idles (h : g.queue.head? ≠ some q.me) : Polls q stubs outcome result g body .queued g body .queued
  | waits {find find' : Find} {g' : Registry} {body' : Request.Body} (h : g.queue.head? = some q.me)
      (hsearching : find'.isSearching) (hwait : find'.isWaiting) (hqueue : g'.queue = g.queue)
      (hlist : g'.list = g.list) (hcounts : g'.counts = g.counts)
      (hfares : Fares q stubs outcome result body' find')
      (hleft : find'.lonelyLeft q stubs body' < find.lonelyLeft q stubs body) :
      Polls q stubs outcome result g body find g' body' find'
  | finds {find : Find} {found : Option Stub} {g' : Registry} {body' : Request.Body}
      (h : g.queue.head? = some q.me) (hresult : result = .returned found)
        (hqueue : g'.queue = g.queue.erase q.me)
      (hlist : g'.list = listLeft found g.list)
      (hcounts : ∀ number, g'.counts number = g.counts number + if found.any (·.created = number)
        then 1 else 0)
      (hfree : body'.queue = []) (hsame : body'.outcome = outcome) :
      Polls q stubs outcome result g body find g' body' (.finished found)
  | escapes {find : Find} {reason : String} {g' : Registry} {body' : Request.Body}
      (h : g.queue.head? = some q.me) (hresult : result = .panicked reason)
        (hqueue : g'.queue = g.queue.erase q.me)
      (hlist : g'.list = g.list) (hcounts : g'.counts = g.counts) :
      Polls q stubs outcome result g body find g' body' (.escaped reason)

theorem fares_of_isSearching {log : List LogEvent} {g : Registry} (hwait : find.isWaiting)
    (hsearching : find.isSearching) (ht : Tends q outcome result ⟨g, body, log⟩ find)
    (hs : Spares q outcome ⟨g, body, log⟩ find) (stubs : List Stub) :
    Fares q stubs outcome result body find := by
  cases find with
  | reading stub rule rest reader => exact ⟨ht, hs⟩
  | start | queued => cases hsearching
  | scanning | counting | removing | finished | escaped => cases hwait

theorem fares_anew {result : Outcome (Option Stub)} (h : Fares q stubs outcome result body find)
    (hwait : find.isWaiting) (hsearching : find.isSearching = false) (stubs' : List Stub) :
    Fares q stubs' outcome (choose (·.rulingOn q.head outcome) stubs') body find := by
  cases find with
  | start | queued =>
    obtain ⟨⟨-, hqueue, houtcome, -⟩, hspares⟩ := h
    exact ⟨⟨rfl, hqueue, houtcome, rfl⟩, hspares⟩
  | reading => cases hsearching
  | scanning | counting | removing | finished | escaped => cases hwait

/-- A find that has its turn is on the way to its result, wherever it is, and nearer to it with
every step. -/
structure Nearing (q : Query) (outcome : Except BodyError Bytes) (result : Outcome (Option Stub))
    (most : Nat) (world : World) (find : Find) : Prop where
  tends : Tends q outcome result world find
  spares : Spares q outcome world find
  left_lt : left world find < most

theorem nearing_step {most : Nat} (h : Nearing q outcome result most world find) :
    Nearing q outcome result most (find.step q world).1 (find.step q world).2 := by
  cases hover : find.isOver with
  | true =>
    rw [step_of_isOver world hover]
    exact h
  | false =>
    exact ⟨tends_step h.tends, spares_step h.spares, Nat.lt_trans (left_step h.tends hover) h.left_lt⟩

section

variable (hlist : world.registry.list = stubs) (hfares : Fares q stubs outcome result world.body find)
  (hhead : world.registry.queue.head? = some q.me) (hwait : find.isWaiting)

include hlist hfares hhead hwait

theorem nearing_turn (hfind : find = .queued ∨ find.isScanning) :
    Nearing q outcome result (find.lonelyLeft q stubs world.body) (find.step q world).1
      (find.step q world).2 := by
  obtain ⟨htends, hspares⟩ := hfares
  cases find with
  | queued =>
    obtain ⟨-, hqueue, houtcome, hresult⟩ := htends
    rw [step, if_pos hhead, hlist]
    exact ⟨⟨hqueue, houtcome, hresult⟩, hspares, Nat.lt_succ_self _⟩
  | reading stub rule rest reader =>
    have htends' : Tends q outcome result world (.reading stub rule rest reader) := htends
    exact ⟨tends_step htends', spares_step hspares, left_step htends' rfl⟩
  | start => obtain h | h := hfind <;> cases h
  | scanning | counting | removing | finished | escaped => cases hwait

theorem polls_turn (hfind : find = .queued ∨ find.isScanning) :
    Polls q stubs outcome result world.registry world.body find (find.poll q world).1.registry
      (find.poll q world).1.body (find.poll q world).2 := by
  have hnearing : Nearing q outcome result (find.lonelyLeft q stubs world.body) (find.poll q world).1
      (find.poll q world).2 := by
    rw [poll_eq]
    exact goOn_induction (fun _ _ => nearing_step) _ (nearing_turn hlist hfares hhead hwait hfind)
  have hkeeps := keepsTurn_poll hhead hfind
  have hpauses := pauses_poll q world (isOpen_of_isWaiting hwait)
  generalize find.poll q world = polled at hnearing hkeeps hpauses
  obtain ⟨⟨registry, body, log⟩, next⟩ := polled
  obtain ⟨htends, hspares, hleft⟩ := hnearing
  cases hpauses with
  | waits hwait' hlist' hcounts =>
    obtain ⟨hsearching, hqueue⟩ | ⟨hover, -⟩ := hkeeps
    · have hfares' := fares_of_isSearching hwait' hsearching htends hspares stubs
      cases next with
      | reading => exact .waits hhead hsearching hwait' hqueue hlist' hcounts hfares' hleft
      | start | queued => cases hsearching
      | scanning | counting | removing | finished | escaped => cases hwait'
    · cases (isOver_of_isOpen (isOpen_of_isWaiting hwait')).symm.trans hover
  | misses hlist' hcounts =>
    obtain ⟨hsearching, -⟩ | ⟨-, hqueue⟩ := hkeeps
    · cases hsearching
    · exact .finds hhead htends hqueue hlist' (fun number => congrFun hcounts number) hspares.1 hspares.2
  | escapes reason hlist' hcounts =>
    obtain ⟨hsearching, -⟩ | ⟨-, hqueue⟩ := hkeeps
    · cases hsearching
    · exact .escapes hhead htends hqueue hlist' hcounts
  | @serves stub hstub hlist' hcounts =>
    obtain ⟨hsearching, -⟩ | ⟨-, hqueue⟩ := hkeeps
    · cases hsearching
    · refine .finds hhead htends hqueue hlist' (fun number => ?_) hspares.1 hspares.2
      rw [hcounts]
      exact count_counts_apply world.registry stub number

variable (world) in
omit hhead in
theorem polls_poll (hhead : find.isSearching → world.registry.queue.head? = some q.me) :
    Polls q stubs outcome result world.registry world.body find (find.poll q world).1.registry
      (find.poll q world).1.body (find.poll q world).2 := by
  cases find with
  | start => exact .enters
  | queued =>
    by_cases hturn : world.registry.queue.head? = some q.me
    · exact polls_turn hlist hfares hturn hwait (.inl rfl)
    · have hpoll : Find.queued.poll q world = (world, .queued) := by
        rw [poll_eq, step, if_neg hturn]
        rfl
      rw [hpoll]
      exact .idles hturn
  | reading stub rule rest reader => exact polls_turn hlist hfares (hhead rfl) hwait (.inr rfl)
  | scanning | counting | removing | finished | escaped => cases hwait

end

end Find

end StubServer
