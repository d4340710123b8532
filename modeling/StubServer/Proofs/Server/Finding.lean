import StubServer.Proofs.Server.Rounds
import StubServer.Proofs.Stub.Company

namespace StubServer

open Request (BodyError)

namespace Exchange

def isInLine (e : Exchange) : Bool :=
  match e.handling with
  | .finding .queued => true
  | .finding find => find.isSearching
  | _ => false

def isServed (e : Exchange) : Bool :=
  match e.handling with
  | .finding find => find.isSearching
  | _ => false

def left (stubs : List Stub) (e : Exchange) : Nat :=
  match e.handling with
  | .finding find => find.lonelyLeft e.query stubs e.request.body + 2
  | .answering _ => 1
  | .answered _ | .failed _ | .abandoned => 0

inductive Turn (n : Nat) (queue : List Nat) (e e' : Exchange) : List Nat → Prop
  | joins (hout : e.isInLine = false) (hin : e'.isInLine) (hwait : e'.isServed = false) :
      Turn n queue e e' (queue ++ [n])
  | keeps (hline : e'.isInLine = e.isInLine) (hfirst : e'.isServed → queue.head? = some n) :
      Turn n queue e e' queue
  | leaves (hout : e'.isInLine = false) (hover : e'.isServed = false) : Turn n queue e e' (queue.erase n)

structure Awaits (stubs : List Stub) (request : Request) (n : Nat) (e : Exchange) (find : Find) :
    Prop where
  handling : e.handling = .finding find
  isWaiting : find.isWaiting
  me : e.query.me = n
  query_head : e.query.head = request.head
  head : e.request.head = request.head
  found : e.found = none
  fares : find.Fares e.query stubs request.body.outcome (choose (·.ruling request) stubs) e.request.body

/-- What becomes of request number `n` from one wait in its find to the next: it waits again, or the
find is over, and comes to what the list makes of the request. -/
inductive Proceeds (request : Request) (n : Nat) (timestamp : Timestamp) (before : ServerState)
    (e : Exchange) :
    ServerState → Exchange → Prop
  | waits {registry : Registry} {e' : Exchange} {find : Find}
      (h : e'.Awaits before.registry.list request n find)
      (hlist : registry.list = before.registry.list) (hcounts : registry.counts = before.registry.counts)
      (hturn : e.Turn n before.registry.queue e' registry.queue)
      (hleft : (e.handling = .finding .queued → before.registry.queue.head? = some n) →
        e'.left before.registry.list < e.left before.registry.list) :
      Proceeds request n timestamp before e { before with registry } e'
  | finds {registry : Registry} {e' : Exchange} {answer : Answer} {found : Option Stub}
      (hchosen : choose (·.ruling request) before.registry.list = .returned found)
      (hfirst : before.registry.queue.head? = some n)
        (hturn : e.Turn n before.registry.queue e' registry.queue)
      (hlist : registry.list = Find.listLeft found before.registry.list)
      (hcounts : ∀ number, registry.counts number =
        before.registry.counts number + if found.any (·.created = number) then 1 else 0)
      (h : e'.handling = .answering answer)
        (hfound : e'.found = some (.ofHead timestamp request.head, found))
      (hresponse : answer.response = { before with registry }.responseTo request found)
      (hleft : e'.left before.registry.list < e.left before.registry.list) :
      Proceeds request n timestamp before e
        ({ before with registry }.record (.ofHead timestamp request.head) found) e'
  | escapes {registry : Registry} {e' : Exchange} {reason : String}
      (hchosen : choose (·.ruling request) before.registry.list = .panicked reason)
      (hturn : e.Turn n before.registry.queue e' registry.queue)
      (hlist : registry.list = before.registry.list) (hcounts : registry.counts = before.registry.counts)
      (h : e'.handling = .failed reason) (hfound : e'.found = none)
      (hleft : e'.left before.registry.list < e.left before.registry.list) :
      Proceeds request n timestamp before e { before with registry } e'

variable {before : ServerState} {request : Request} {n : Nat} {e : Exchange} {find : Find}

theorem awaits_new {request : Request} (hfresh : request.body.queue = []) (stubs : List Stub) (n : Nat)
    (verbose : Bool) :
    (new n verbose request).Awaits stubs request n .start := by
  refine ⟨rfl, rfl, rfl, rfl, rfl, rfl, ?_⟩
  rw [← choose_rulingOn hfresh]
  exact Find.fares_start hfresh _ stubs

theorem Awaits.anew {stubs : List Stub} (h : e.Awaits stubs request n find)
    (hfresh : request.body.queue = [])
    (hserved : e.isServed = false) (stubs' : List Stub) : e.Awaits stubs' request n find := by
  have hsearching : find.isSearching = false := by simpa only [isServed, h.handling] using hserved
  have hfares := Find.fares_anew h.fares h.isWaiting hsearching stubs'
  rw [h.query_head, choose_rulingOn hfresh] at hfares
  exact ⟨h.handling, h.isWaiting, h.me, h.query_head, h.head, h.found, hfares⟩

theorem proceeds_resume (h : e.Awaits before.registry.list request n find)
    (hfirst : e.isServed → before.registry.queue.head? = some n)
    (hin : before.registry.queue.head? = some n → e.isInLine) (timestamp : Timestamp) (now : Nat) :
    e.Proceeds request n timestamp before (e.resume before timestamp now).1
      (e.resume before timestamp now).2.1 := by
  obtain ⟨hhandling, hwait, hme, hquery, hhead, hfound, hfares⟩ := h
  subst hme
  have hsearching : find.isSearching → before.registry.queue.head? = some e.query.me := by
    intro hs
    exact hfirst (by rw [isServed, hhandling]; exact hs)
  have hpolls := Find.polls_poll ⟨before.registry, e.request.body, []⟩ rfl hfares hwait hsearching
  simp only [resume, hhandling]
  generalize find.poll e.query ⟨before.registry, e.request.body, []⟩ = polled at hpolls ⊢
  obtain ⟨⟨registry, body, log⟩, next⟩ := polled
  dsimp only at hpolls ⊢
  cases hpolls with
  | enters =>
    refine .waits ⟨rfl, rfl, rfl, hquery, hhead, hfound, Find.fares_queued hfares⟩ rfl rfl ?_ fun _ => ?_
    · exact .joins (by simp only [isInLine, hhandling, Find.isSearching]) rfl rfl
    · simp only [left, hhandling]
      exact Nat.lt_succ_self _
  | idles hnot =>
    refine .waits ⟨rfl, rfl, rfl, hquery, hhead, hfound, hfares⟩ rfl rfl ?_
      fun hqueued => absurd (hqueued hhandling) hnot
    exact .keeps (by simp only [isInLine, hhandling]) fun hserved => absurd hserved Bool.false_ne_true
  -- A find that has had its turn was in line before, and keeps its place.
  | waits hturn hsearching' hwait' hqueue hlist hcounts hfares' hleft =>
    cases next with
    | start => cases hsearching'
    | queued => cases hsearching'
    | scanning | counting | removing | finished | escaped => cases hwait'
    | reading stub rule rest reader =>
      refine .waits ⟨rfl, hwait', rfl, hquery, hhead, hfound, hfares'⟩ hlist hcounts ?_ fun _ => ?_
      · rw [show registry.queue = before.registry.queue from hqueue]
        exact .keeps (hin hturn).symm fun _ => hturn
      · simp only [left, hhandling]
        omega
  -- Nobody acts between the end of the find and the record, and the answer.
  | @finds _ found _ _ hturn hchosen hleaves hlist hcounts hfree hsame =>
    have hrequest : RecordedRequest.ofHead timestamp e.request.head =
      .ofHead timestamp request.head := by rw [hhead]
    have hfree : (⟨e.request.head, body⟩ : Request).body.queue = [] := hfree
    have hresponse := ServerState.answer_response
      ({ before with registry }.record (.ofHead timestamp e.request.head) found) hfree timestamp
        found now
    dsimp only
    rw [hrequest] at hresponse ⊢
    refine .finds hchosen hturn (hleaves ▸ .leaves rfl rfl) hlist hcounts rfl rfl (hresponse.trans ?_) ?_
    · cases found with
      | none => simp only [ServerState.responseTo, ServerState.notFound, hhead]; rfl
      | some stub => simp only [ServerState.responseTo, hhead, hsame]; rfl
    · simp only [left, hhandling]
      omega
  | escapes hturn hchosen hleaves hlist hcounts =>
    refine .escapes hchosen (hleaves ▸ .leaves rfl rfl) hlist hcounts rfl hfound ?_
    simp only [left, hhandling]
    omega

end Exchange

end StubServer
