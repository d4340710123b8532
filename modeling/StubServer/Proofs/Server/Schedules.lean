import StubServer.Proofs.Server.Finding

namespace StubServer

/-- What has become of the request: what its find has come back with and the response, or the reason
why there is no response. -/
def Exchange.ending? (e : Exchange) : Option (Except String (Option Stub × Response)) :=
  match e.handling, e.found with
  | .answered answer, some (_, found) => some (.ok (found, answer.response))
  | .failed reason, _ => some (.error reason)
  | _, _ => none

structure Exchange.Ends (n : Nat) (before : ServerState) (e : Exchange) (answer : Answer)
    (after : ServerState) (e' : Exchange) : Prop where
  state : after = before
  handling : e'.handling = .answered answer
  found : e'.found = e.found
  turn : e.Turn n before.registry.queue e' after.registry.queue
  left_lt : ∀ stubs, e.ending? = none → e'.left stubs < e.left stubs

theorem Exchange.ends_resume {e : Exchange} {answer : Answer}
    (h : e.handling = .answering answer ∨ e.handling = .answered answer) (hfound : e.found.isSome)
    (before : ServerState) (n : Nat) (timestamp : Timestamp) (now : Nat) :
    e.Ends n before answer (e.resume before timestamp now).1 (e.resume before timestamp now).2.1 := by
  obtain h | h := h
  · simp only [resume, h]
    refine ⟨rfl, rfl, rfl, .keeps ?_ ?_, fun _ _ => ?_⟩
    · simp only [isInLine, h]
    · exact fun hserved => absurd hserved Bool.false_ne_true
    · simp only [left, h, Nat.zero_lt_one]
  · simp only [resume, h]
    refine ⟨rfl, h, rfl, .keeps rfl ?_, fun _ hopen => ?_⟩
    · simp only [isServed, h]
      exact fun hserved => absurd hserved Bool.false_ne_true
    · obtain ⟨back, hback⟩ := Option.isSome_iff_exists.mp hfound
      simp only [ending?, h, hback] at hopen
      cases hopen

namespace Service

def Event.isHandling : Event → Bool
  | .arrive _ | .resume .. => true
  | _ => false

def Event.arrival? : Event → Option Request
  | .arrive request => some request
  | _ => none

def arrivals (events : List Event) : List Request := events.filterMap Event.arrival?

def idle (state : ServerState) : Service := ⟨state, state.registry.list, [], [], []⟩

/-- What is left of an idle server when these events have happened one after the other. -/
def runFrom (state : ServerState) (events : List Event) : Service := events.foldl step (idle state)

def ending? (s : Service) (n : Nat) : Option (Except String (Option Stub × Response)) :=
  s.exchanges[n]?.bind (·.ending?)

def isOver (s : Service) : Bool := s.exchanges.all (·.ending?.isSome)

def Queues (s : Service) : Prop :=
  InTurn Exchange.isInLine Exchange.isServed s.state.registry.queue s.exchanges

variable {state : ServerState} {s : Service} {n : Nat} {e : Exchange}

structure Each (Q : Nat → Request → Exchange → Prop) (requests : List Request)
    (exchanges : List Exchange) : Prop where
  length_eq : exchanges.length = requests.length
  each : ∀ (n : Nat) (request : Request) (e : Exchange), requests[n]? = some request →
    exchanges[n]? = some e → Q n request e

namespace Each

variable {Q Q' : Nat → Request → Exchange → Prop} {requests : List Request}
  {exchanges : List Exchange} {n : Nat} {e : Exchange}

theorem nil : Each Q [] [] := ⟨rfl, fun _ _ _ h => nomatch h⟩

theorem request (h : Each Q requests exchanges) (hn : exchanges[n]? = some e) :
    ∃ request, requests[n]? = some request ∧ Q n request e := by
  have hlt : n < requests.length := h.length_eq ▸ (List.getElem?_eq_some_iff.mp hn).1
  exact ⟨requests[n], List.getElem?_eq_getElem hlt, h.each n _ e (List.getElem?_eq_getElem hlt) hn⟩

theorem exchange (h : Each Q requests exchanges) {request : Request} (hn : requests[n]? = some request) :
    ∃ e, exchanges[n]? = some e ∧ Q n request e := by
  have hlt : n < exchanges.length := h.length_eq ▸ (List.getElem?_eq_some_iff.mp hn).1
  exact ⟨exchanges[n], List.getElem?_eq_getElem hlt,
    h.each n request _ hn (List.getElem?_eq_getElem hlt)⟩

theorem concat (h : Each Q requests exchanges) {request : Request}
    (hnew : Q exchanges.length request e) :
    Each Q (requests ++ [request]) (exchanges ++ [e]) := by
  refine ⟨by
    simp only [List.length_append, h.length_eq, List.length_singleton],
    fun n request' e' hrequest he => ?_⟩
  obtain he | ⟨rfl, rfl⟩ := getElem?_concat_cases he
  · have hlt : n < requests.length := h.length_eq ▸ (List.getElem?_eq_some_iff.mp he).1
    rw [List.getElem?_append_left hlt] at hrequest
    exact h.each n request' e' hrequest he
  · rw [h.length_eq, List.getElem?_concat_length] at hrequest
    obtain rfl := Option.some.inj hrequest
    exact hnew

theorem set (h : Each Q requests exchanges) {request : Request} (hrequest : requests[n]? = some request)
    (hnew : Q' n request e)
    (hothers : ∀ m request' e', m ≠ n → exchanges[m]? = some e' → Q m request' e' → Q' m request' e') :
    Each Q' requests (exchanges.set n e) := by
  refine ⟨List.length_set.trans h.length_eq, fun m request' e' hrequest' he => ?_⟩
  obtain ⟨rfl, rfl⟩ | ⟨hm, he⟩ := getElem?_set_cases he
  · cases hrequest.symm.trans hrequest'
    exact hnew
  · exact hothers m request' e' hm he (h.each m request' e' hrequest' he)

end Each

/-- What an idle server has, and requests that come in and go on keep, is always there. -/
theorem runFrom_induction {kind : Request → Prop} {P : List Request → Service → Prop}
    (hidle : P [] (idle state)) (harrive : ∀ requests s request, kind request → P requests s →
      P (requests ++ [request]) (s.step (.arrive request)))
    (hresume : ∀ requests s n timestamp now, P requests s →
      P requests (s.step (.resume n timestamp now)))
    {events : List Event} (hevents : ∀ event ∈ events, event.isHandling)
    (hkind : ∀ request ∈ arrivals events, kind request) : P (arrivals events)
      (runFrom state events) := by
  induction events using List.reverseRecOn with
  | nil => exact hidle
  | append_singleton events event ih =>
    rw [arrivals, List.filterMap_append] at hkind ⊢
    rw [runFrom, List.foldl_concat]
    have hmost := ih (fun event hin => hevents event (List.mem_append_left _ hin))
      fun request hin => hkind request (List.mem_append_left _ hin)
    cases event with
    | arrive request =>
      exact harrive _ _ _ (hkind request (List.mem_append_right _ List.mem_cons_self)) hmost
    | resume n timestamp now =>
      have hnothing : [Event.resume n timestamp now].filterMap Event.arrival? = [] := rfl
      rw [hnothing, List.append_nil]
      exact hresume _ _ n timestamp now hmost
    | create | register | unregister | clear | abandon | reset =>
      cases hevents _ (List.mem_append_right _ List.mem_cons_self)

theorem step_resume (hn : s.exchanges[n]? = some e) (timestamp : Timestamp) (now : Nat) :
    s.step (.resume n timestamp now) =
      { s with
        state := (e.resume s.state timestamp now).1
        exchanges := s.exchanges.set n (e.resume s.state timestamp now).2.1
        log := s.log ++ (e.resume s.state timestamp now).2.2
        history := s.history ++ e.milestones n (e.resume s.state timestamp now).2.1 } := by
  simp only [step, hn]

theorem queues_idle (hidle : state.registry.queue = []) : (idle state).Queues := by
  have hqueue : (idle state).state.registry.queue = [] := hidle
  rw [Queues, hqueue]
  exact .empty (fun party h => nomatch h) (fun party h => nomatch h)

theorem Queues.arrive (h : s.Queues) (request : Request) : (s.step (.arrive request)).Queues :=
  InTurn.arrive h rfl rfl

theorem Queues.set (h : s.Queues) (hn : s.exchanges[n]? = some e) {e' : Exchange} {queue : List Nat}
    (hturn : e.Turn n s.state.registry.queue e' queue) :
    InTurn Exchange.isInLine Exchange.isServed queue (s.exchanges.set n e') := by
  cases hturn with
  | joins hout hin hwait => exact h.join hn hout hin hwait
  | keeps hline hfirst => exact h.keep hn hline hfirst
  | leaves hout hover => exact h.leave hout hover

theorem Queues.isInLine (h : s.Queues) (hn : s.exchanges[n]? = some e)
    (hhead : s.state.registry.queue.head? = some n) : e.isInLine := by
  obtain ⟨party, hparty, hline⟩ := (h.mem_iff n).mp (List.mem_of_head? hhead)
  cases hn.symm.trans hparty
  exact hline

theorem exists_mover (h : s.Queues) (hover : s.isOver = false) :
    ∃ m e, s.exchanges[m]? = some e ∧ e.ending? = none ∧
      (e.handling = .finding .queued → s.state.registry.queue.head? = some m) := by
  obtain ⟨e, he, hopen⟩ := List.all_eq_false.mp hover
  rw [Bool.not_eq_true, Option.isSome_eq_false_iff, Option.isNone_iff_eq_none] at hopen
  obtain ⟨n, hn⟩ := List.mem_iff_getElem?.mp he
  -- One that has to wait for its turn waits for the first in the queue.
  by_cases hqueued : e.handling = .finding .queued
  · have hin : e.isInLine := by simp only [Exchange.isInLine, hqueued]
    have hmem : n ∈ s.state.registry.queue := (h.mem_iff n).mpr ⟨e, hn, hin⟩
    obtain ⟨m, rest, hqueue⟩ := List.exists_cons_of_ne_nil (List.ne_nil_of_mem hmem)
    obtain ⟨first, hfirst, hline⟩ := (h.mem_iff m).mp (by simp [hqueue])
    refine ⟨m, first, hfirst, ?_, fun _ => by simp [hqueue]⟩
    cases hhandling : first.handling with
    | finding find => simp only [Exchange.ending?, hhandling]
    | answering | answered | failed | abandoned =>
      simp only [Exchange.isInLine, hhandling] at hline
      cases hline
  · exact ⟨n, e, hn, hopen, fun he => absurd he hqueued⟩

theorem over_of_lowers {P : Service → Prop} {timestamp : Timestamp} {now : Nat} (remains : Service → Nat)
    (hqueues : ∀ s, P s → s.Queues) (hkeeps : ∀ s n, P s → P (s.step (.resume n timestamp now)))
    (hlowers : ∀ s n e, P s → s.exchanges[n]? = some e → e.ending? = none →
      (e.handling = .finding .queued → s.state.registry.queue.head? = some n) →
      remains (s.step (.resume n timestamp now)) < remains s)
    (h : P s) : ∃ turns : List Nat,
      ((turns.map fun n => Event.resume n timestamp now).foldl step s).isOver := by
  induction hleft : remains s using Nat.strongRecOn generalizing s with
  | ind bound ih =>
    cases hover : s.isOver with
    | true => exact ⟨[], hover⟩
    | false =>
      obtain ⟨m, e, hm, hopen, hturn⟩ := exists_mover (hqueues s h) hover
      have hless := hlowers s m e h hm hopen hturn
      obtain ⟨turns, hdone⟩ := ih _ (hleft ▸ hless) (hkeeps s m h) rfl
      exact ⟨m :: turns, hdone⟩

end Service

end StubServer
