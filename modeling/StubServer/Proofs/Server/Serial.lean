import Mathlib.Algebra.Order.BigOperators.Group.List
import Mathlib.Algebra.Order.Group.Nat
import StubServer.Proofs.Server.Accounts
import StubServer.Proofs.Server.Schedules

namespace StubServer

namespace Find

theorem listLeft_sublist (found : Option Stub) (stubs : List Stub) :
    (listLeft found stubs).Sublist stubs := by
  cases found with
  | none => exact .refl _
  | some stub => exact Exchange.listAfter_sublist stub stubs

end Find

namespace Milestone

def leaves (stubs : List Stub) : Milestone → List Stub
  | .found _ _ stub? => Find.listLeft stub? stubs
  | .reset _ => stubs

def remaining (stubs : List Stub) (history : List Milestone) : List Stub := history.foldl leaves stubs

theorem remaining_concat (stubs : List Stub) (history : List Milestone) (milestone : Milestone) :
    remaining stubs (history ++ [milestone]) = milestone.leaves (remaining stubs history) :=
      List.foldl_concat ..

theorem remaining_sublist (stubs : List Stub) (history : List Milestone) :
    (remaining stubs history).Sublist stubs := by
  induction history using List.reverseRecOn with
  | nil => exact .refl _
  | append_singleton history milestone ih =>
    rw [remaining_concat]
    cases milestone with
    | found _ _ stub? => exact (Find.listLeft_sublist stub? _).trans ih
    | reset => exact ih

/-- Whose finds have come back. -/
def finders (history : List Milestone) : List Nat := history.filterMap number?

theorem finders_concat (history : List Milestone) (n : Nat) (record : RecordedRequest)
    (found : Option Stub) :
    finders (history ++ [.found n record found]) = finders history ++ [n] := List.filterMap_append ..

theorem mem_finders {history : List Milestone} {j n : Nat} {record : RecordedRequest}
    {found : Option Stub} (h : history[j]? = some (.found n record found)) : n ∈ finders history :=
  List.mem_filterMap.mpr ⟨_, List.mem_of_getElem? h, rfl⟩

end Milestone

open Milestone (remaining finders)

/-- Finds have come back one after the other, at most one for each request. -/
inductive Serial (requests : List Request) (stubs : List Stub) : List Milestone → Prop
  | nil : Serial requests stubs []
  | snoc {history : List Milestone} {n : Nat} {request : Request} {found : Option Stub}
      (h : Serial requests stubs history)
      (timestamp : Timestamp) (hrequest : requests[n]? = some request) (hopen : n ∉ finders history)
      (hchosen : choose (·.ruling request) (remaining stubs history) = .returned found) :
      Serial requests stubs (history ++ [.found n (.ofHead timestamp request.head) found])

namespace Serial

variable {requests : List Request} {stubs : List Stub} {history : List Milestone}

theorem arrive (h : Serial requests stubs history) (request : Request) :
    Serial (requests ++ [request]) stubs history := by
  induction h with
  | nil => exact .nil
  | snoc h timestamp hrequest hopen hchosen ih =>
    refine ih.snoc timestamp ?_ hopen hchosen
    rw [List.getElem?_append_left (List.getElem?_eq_some_iff.mp hrequest).1, hrequest]

theorem take (h : Serial requests stubs history) (j : Nat) : Serial requests stubs (history.take j) := by
  induction h with
  | nil =>
    rw [List.take_nil]
    exact .nil
  | @snoc history _ _ _ h timestamp hrequest hopen hchosen ih =>
    by_cases hj : j ≤ history.length
    · rwa [List.take_append_of_le_length hj]
    · rw [List.take_of_length_le (by rw [List.length_append, List.length_singleton]; omega)]
      exact h.snoc timestamp hrequest hopen hchosen

theorem nodup (h : Serial requests stubs history) : (finders history).Nodup := by
  induction h with
  | nil => exact List.nodup_nil
  | snoc h timestamp hrequest hopen hchosen ih =>
    rw [Milestone.finders_concat, List.nodup_append]
    refine ⟨ih, List.nodup_singleton _, fun n hn m hm he => ?_⟩
    obtain rfl := List.mem_singleton.mp hm
    exact hopen (he ▸ hn)

theorem length_finders (h : Serial requests stubs history) :
    (finders history).length = history.length := by
  induction h with
  | nil => rfl
  | snoc h timestamp hrequest hopen hchosen ih =>
    rw [Milestone.finders_concat, List.length_append, List.length_append, ih]
    rfl

theorem finders_subset (h : Serial requests stubs history) :
    ∀ n ∈ finders history, n < requests.length := by
  induction h with
  | nil => exact fun n hn => nomatch hn
  | snoc h timestamp hrequest hopen hchosen ih =>
    intro n hn
    rw [Milestone.finders_concat, List.mem_append, List.mem_singleton] at hn
    obtain hn | rfl := hn
    · exact ih n hn
    · exact (List.getElem?_eq_some_iff.mp hrequest).1

theorem place_unique (h : Serial requests stubs history) {i j n : Nat} {record record' : RecordedRequest}
    {found found' : Option Stub} (hi : history[i]? = some (.found n record found))
    (hj : history[j]? = some (.found n record' found')) : i = j := by
  induction h with
  | nil => cases hi
  | snoc h timestamp hrequest hopen hchosen ih =>
    obtain hold | ⟨hlast, he⟩ := getElem?_concat_cases hi <;> obtain hold' | ⟨hlast', he'⟩ :=
      getElem?_concat_cases hj
    · exact ih hold hold'
    · cases he'
      exact absurd (Milestone.mem_finders hold) hopen
    · cases he
      exact absurd (Milestone.mem_finders hold') hopen
    · exact hlast.trans hlast'.symm

end Serial

def ServerState.holding (state : ServerState) (stubs : List Stub) : ServerState :=
  { state with registry := { state.registry with stubs := .new stubs } }

namespace Exchange

/-- How far request number `n` has come, when these finds have come back. -/
inductive Stage (state : ServerState) (history : List Milestone) (n : Nat) (request : Request)
    (e : Exchange) : Prop
  | finding {find : Find} (hfresh : request.body.queue = []) (hopen : n ∉ finders history)
      (h : e.Awaits (remaining state.registry.list history) request n find)
  | replied {answer : Answer} {timestamp : Timestamp} {found : Option Stub} {j : Nat}
      (h : e.handling = .answering answer ∨ e.handling = .answered answer)
      (hfound : e.found = some (.ofHead timestamp request.head, found))
      (hpast : history[j]? = some (.found n (.ofHead timestamp request.head) found))
      (hresponse : answer.response =
        (state.holding (remaining state.registry.list (history.take (j + 1)))).responseTo request found)
  | failed {reason : String} (hopen : n ∉ finders history) (h : e.handling = .failed reason)
      (hfound : e.found = none)
      (hescapes : ∃ stub ∈ state.registry.list, stub.Escapes request)

inductive Brings (stubs : List Stub) (history : List Milestone) (n : Nat) (request : Request)
    (queue : List Nat) :
    List Milestone → Prop
  | nothing : Brings stubs history n request queue []
  | find {timestamp : Timestamp} {found : Option Stub} (hfirst : queue.head? = some n)
      (hopen : n ∉ finders history)
      (hchosen : choose (·.ruling request) (remaining stubs history) = .returned found) :
      Brings stubs history n request queue [.found n (.ofHead timestamp request.head) found]

structure Goes (state : ServerState) (history : List Milestone) (n : Nat) (request : Request)
    (before : ServerState) (e : Exchange) (after : ServerState) (e' : Exchange) : Prop where
  verbose : after.verbose = before.verbose
  list : after.registry.list = remaining before.registry.list (e.milestones n e')
  counts : ∀ number, after.registry.counts number =
    before.registry.counts number + (e.milestones n e').countP (·.serves number)
  brings : Brings state.registry.list history n request before.registry.queue (e.milestones n e')
  stage : e'.Stage state (history ++ e.milestones n e') n request
  turn : e.Turn n before.registry.queue e' after.registry.queue
  left_lt : e.ending? = none → (e.handling = .finding .queued → before.registry.queue.head? = some n) →
    e'.left before.registry.list < e.left before.registry.list

variable {state before : ServerState} {history : List Milestone} {n : Nat} {request : Request}
  {e : Exchange}

/-- Others may come to the end of their finds before the request has its turn. -/
theorem Stage.later (h : e.Stage state history n request) (hserved : e.isServed = false) {m : Nat}
    (hm : m ≠ n) (record : RecordedRequest) (found : Option Stub) :
    e.Stage state (history ++ [.found m record found]) n request := by
  have hstays : n ∉ finders history → n ∉ finders (history ++ [.found m record found]) := by
    intro hopen hn
    rw [Milestone.finders_concat, List.mem_append, List.mem_singleton] at hn
    exact hn.elim hopen fun he => hm he.symm
  cases h with
  | finding hfresh hopen h => exact .finding hfresh (hstays hopen) (h.anew hfresh hserved _)
  | replied h hfound hpast hresponse =>
    have hlt := (List.getElem?_eq_some_iff.mp hpast).1
    refine .replied h hfound ((List.getElem?_append_left hlt).trans hpast) ?_
    rwa [List.take_append_of_le_length hlt]
  | failed hopen h hfound hescapes => exact .failed (hstays hopen) h hfound hescapes

theorem left_le {stubs stubs' : List Stub} (h : stubs'.length ≤ stubs.length) (e : Exchange) :
    e.left stubs' ≤ e.left stubs := by
  rw [left, left]
  cases e.handling with
  | finding find => exact Nat.add_le_add_right (Find.lonelyLeft_le h e.query e.request.body find) 2
  | answering | answered | failed | abandoned => exact Nat.le_refl _

theorem goes_quietly {after : ServerState} {e' : Exchange} (hagrees : before.Agrees after)
    (hverbose : after.verbose = before.verbose) (hfound : e'.found = e.found)
    (hstage : e'.Stage state history n request)
      (hturn : e.Turn n before.registry.queue e' after.registry.queue)
    (hleft : e.ending? = none → (e.handling = .finding .queued → before.registry.queue.head? = some n) →
      e'.left before.registry.list < e.left before.registry.list) :
    Goes state history n request before e after e' := by
  have hnothing := Service.milestones_of_eq n hfound
  refine ⟨hverbose, ?_, ?_, ?_, ?_, hturn, hleft⟩
  · rw [hnothing]
    exact hagrees.list
  · rw [hnothing]
    exact congrFun hagrees.counts
  · exact hnothing ▸ .nothing
  · rwa [hnothing, List.append_nil]

section

variable (hlist : before.registry.list = remaining state.registry.list history)
  (hverbose : before.verbose = state.verbose)
    (hfirst : e.isServed → before.registry.queue.head? = some n)
  (hin : before.registry.queue.head? = some n → e.isInLine)

include hlist hverbose hfirst hin

theorem goes_finding {find : Find} (hfresh : request.body.queue = []) (hopen : n ∉ finders history)
    (h : e.Awaits (remaining state.registry.list history) request n find)
    (timestamp : Timestamp) (now : Nat) :
    Goes state history n request before e (e.resume before timestamp now).1
      (e.resume before timestamp now).2.1 := by
  rw [← hlist] at h
  have hproceeds := proceeds_resume h hfirst hin timestamp now
  generalize (e.resume before timestamp now).1 = after,
    (e.resume before timestamp now).2.1 = e' at hproceeds ⊢
  cases hproceeds with
  | waits h' hlist' hcounts hturn hleft =>
    exact goes_quietly ⟨hlist', hcounts, rfl⟩ rfl (h'.found.trans h.found.symm)
      (.finding hfresh hopen (hlist ▸ h')) hturn
      fun _ hqueued => hleft hqueued
  | @finds registry _ answer found hchosen hfirst hturn hlist' hcounts hanswer hfound' hresponse hless =>
    have hback := Service.milestones_of_some n h.found hfound'
    refine ⟨rfl, ?_, fun number => ?_, ?_, ?_, hturn, fun _ _ => hless⟩
    · rw [hback]
      exact hlist'
    · rw [hback, List.countP_singleton]
      exact hcounts number
    · exact hback ▸ .find hfirst hopen (hlist ▸ hchosen)
    · rw [hback]
      refine .replied (j := history.length) (.inl hanswer) hfound' List.getElem?_concat_length ?_
      rw [hresponse, List.take_of_length_le (List.length_append ▸ Nat.le_refl _),
        Milestone.remaining_concat, ← hlist]
      apply ServerState.responseTo_congr
      · exact hlist'
      · exact hverbose
  | @escapes _ _ reason hchosen hturn hlist' hcounts hfailed hfound' hless =>
    obtain ⟨stub, hstub, hescaped⟩ := exists_of_choose_panicked (hlist ▸ hchosen)
    have hescapes : ∃ stub ∈ state.registry.list, stub.Escapes request :=
      ⟨stub, (Milestone.remaining_sublist _ _).subset hstub, reason, hescaped⟩
    exact goes_quietly ⟨hlist', hcounts, rfl⟩ rfl (hfound'.trans h.found.symm)
      (.failed hopen hfailed hfound' hescapes)
      hturn fun _ _ => hless

theorem goes_resume (h : e.Stage state history n request) (timestamp : Timestamp) (now : Nat) :
    Goes state history n request before e (e.resume before timestamp now).1
      (e.resume before timestamp now).2.1 := by
  cases h with
  | finding hfresh hopen h => exact goes_finding hlist hverbose hfirst hin hfresh hopen h timestamp now
  | replied h hfound hpast hresponse =>
    obtain ⟨hstate, hanswered, hfound', hturn, hleft⟩ :=
      ends_resume h (Option.isSome_of_eq_some hfound) before n
      timestamp now
    have hagrees : before.Agrees (e.resume before timestamp now).1 := by
      rw [hstate]
      exact ⟨rfl, rfl, rfl⟩
    exact goes_quietly hagrees (congrArg _ hstate) hfound'
      (.replied (.inr hanswered) (hfound'.trans hfound) hpast hresponse) hturn fun hunsaid _ =>
        hleft _ hunsaid
  | failed hopen h hfound hescapes =>
    simp only [resume, h]
    refine goes_quietly ⟨rfl, rfl, rfl⟩ rfl rfl (.failed hopen h hfound hescapes) (.keeps rfl hfirst)
      fun hunsaid _ => ?_
    simp only [ending?, h] at hunsaid
    cases hunsaid

end

end Exchange

namespace Service

/-- The requests have been handled side by side, and their finds have come back one after the other. -/
structure InSeries (state : ServerState) (requests : List Request) (s : Service) : Prop where
  verbose : s.state.verbose = state.verbose
  serial : Serial requests state.registry.list s.history
  list : s.state.registry.list = remaining state.registry.list s.history
  counts : ∀ number, s.state.registry.counts number =
    state.registry.counts number + s.history.countP (·.serves number)
  stages : Each (fun n request e => e.Stage state s.history n request) requests s.exchanges
  queues : s.Queues

variable {state : ServerState} {requests : List Request} {s : Service} {n : Nat} {e : Exchange}

theorem inSeries_idle (hidle : state.registry.queue = []) : InSeries state [] (idle state) :=
  ⟨rfl, .nil, rfl, fun _ => rfl, .nil, queues_idle hidle⟩

theorem inSeries_arrive (h : InSeries state requests s) {request : Request}
    (hfresh : request.body.queue = []) :
    InSeries state (requests ++ [request]) (s.step (.arrive request)) := by
  refine ⟨h.verbose, h.serial.arrive request, h.list, h.counts, h.stages.concat ?_,
    h.queues.arrive request⟩
  refine .finding hfresh (fun hn => ?_) (Exchange.awaits_new hfresh _ _ s.state.verbose)
  have hlt := h.serial.finders_subset _ hn
  rw [h.stages.length_eq] at hlt
  exact Nat.lt_irrefl _ hlt

theorem InSeries.goes (h : InSeries state requests s) (hn : s.exchanges[n]? = some e)
    (timestamp : Timestamp) (now : Nat) :
    ∃ request, requests[n]? = some request ∧ Exchange.Goes state s.history n request s.state e
      (e.resume s.state timestamp now).1 (e.resume s.state timestamp now).2.1 := by
  obtain ⟨request, hrequest, hstage⟩ := h.stages.request hn
  exact ⟨request, hrequest, Exchange.goes_resume h.list h.verbose (h.queues.first n e hn)
    (h.queues.isInLine hn) hstage
    timestamp now⟩

theorem serial_brings {queue : List Nat} {milestones : List Milestone}
    (h : Serial requests state.registry.list s.history) {request : Request}
      (hrequest : requests[n]? = some request)
    (hbrings : Exchange.Brings state.registry.list s.history n request queue milestones) :
    Serial requests state.registry.list (s.history ++ milestones) := by
  cases hbrings with
  | nothing => rwa [List.append_nil]
  | find hfirst hopen hchosen => exact h.snoc _ hrequest hopen hchosen

theorem InSeries.later (h : InSeries state requests s) {request request' : Request}
    {milestones : List Milestone}
    (hbrings : Exchange.Brings state.registry.list s.history n request s.state.registry.queue
      milestones) {m : Nat}
    (hmn : m ≠ n) (hm : s.exchanges[m]? = some e) (hstage : e.Stage state s.history m request') :
    e.Stage state (s.history ++ milestones) m request' := by
  cases hbrings with
  | nothing => rwa [List.append_nil]
  | find hfirst =>
    refine hstage.later (Bool.eq_false_iff.mpr fun hserved => hmn ?_) hmn.symm _ _
    exact Option.some.inj ((h.queues.first m e hm hserved).symm.trans hfirst)

theorem inSeries_resume (h : InSeries state requests s) (n : Nat) (timestamp : Timestamp) (now : Nat) :
    InSeries state requests (s.step (.resume n timestamp now)) := by
  cases hn : s.exchanges[n]? with
  | none =>
    rw [step, hn]
    exact h
  | some e =>
    obtain ⟨request, hrequest, hgoes⟩ := h.goes hn timestamp now
    rw [step_resume hn]
    generalize e.resume s.state timestamp now = resumed at hgoes
    refine ⟨hgoes.verbose.trans h.verbose, serial_brings h.serial hrequest hgoes.brings, ?_,
      fun number => ?_,
      h.stages.set hrequest hgoes.stage fun m _ e' hmn hm hstage => h.later hgoes.brings hmn hm hstage,
      h.queues.set hn hgoes.turn⟩
    · rw [hgoes.list, h.list, Milestone.remaining, Milestone.remaining, Milestone.remaining,
        List.foldl_append]
    · rw [hgoes.counts, h.counts, List.countP_append, Nat.add_assoc]

theorem inSeries_run (hidle : state.registry.queue = []) {events : List Event}
    (hevents : ∀ event ∈ events, event.isHandling)
    (hfresh : ∀ request ∈ arrivals events, request.body.queue = []) :
    InSeries state (arrivals events) (runFrom state events) :=
  runFrom_induction (inSeries_idle hidle) (fun _ _ _ hfresh h => inSeries_arrive h hfresh)
    (fun _ _ n timestamp now h => inSeries_resume h n timestamp now) hevents hfresh

theorem InSeries.over (h : InSeries state requests s) (timestamp : Timestamp) (now : Nat) :
    ∃ turns : List Nat, ((turns.map fun n => Event.resume n timestamp now).foldl step s).isOver := by
  refine over_of_lowers (P := InSeries state requests)
    (fun s => (s.exchanges.map (Exchange.left s.state.registry.list)).sum) (fun _ h => h.queues)
    (fun _ n h => inSeries_resume h n timestamp now) (fun s n e h hn hopen hturn => ?_) h
  obtain ⟨request, -, hgoes⟩ := h.goes hn timestamp now
  have hless := hgoes.left_lt hopen hturn
  have hsum := sum_map_set (Exchange.left s.state.registry.list) hn (e.resume s.state timestamp now).2.1
  -- A shorter list does not leave more to do.
  have hshorter : (e.resume s.state timestamp now).1.registry.list.length ≤
    s.state.registry.list.length := by
    rw [hgoes.list]
    exact (Milestone.remaining_sublist _ _).length_le
  rw [step_resume hn]
  dsimp only
  refine Nat.lt_of_le_of_lt (List.sum_le_sum fun e' _ => Exchange.left_le hshorter e') ?_
  omega

end Service

end StubServer
