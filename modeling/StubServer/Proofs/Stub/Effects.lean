import StubServer.Proofs.Stub.Polls
import StubServer.Proofs.Stub.Turns

namespace StubServer

namespace Find

variable {g g' g'' : Registry} {find find' : Find}

theorem Leads.congr (h : Leads g find g' find') (hstubs : g''.stubs = g'.stubs)
    (hcounts : g''.counts = g'.counts) :
    Leads g find g'' find' := by
  cases h with
  | opened hopen hs hc hheld => exact .opened hopen (hstubs.trans hs) (hcounts.trans hc) hheld
  | missed hnone hs hc => exact .missed hnone (hstubs.trans hs) (hcounts.trans hc)
  | counted hstub honce hc ht => exact .counted hstub honce (hcounts.trans hc) (hstubs ▸ ht)
  | served hstub hc hlist =>
    exact .served hstub (hcounts.trans hc) ((congrArg Cell.value hstubs).trans hlist)

theorem Leads.unchanged (h : Leads g find g' find') (hfind : find'.isOpen ∨ find' = .finished none ∨
    ∃ reason, find' = .escaped reason) : g'.stubs = g.stubs ∧ g'.counts = g.counts := by
  cases h with
  | opened hopen hstubs hcounts => exact ⟨hstubs, hcounts⟩
  | missed hnone hstubs hcounts => exact ⟨hstubs, hcounts⟩
  | counted | served =>
    obtain hopen | hnone | ⟨reason, hreason⟩ := hfind
    · cases hopen
    · cases hnone
    · cases hreason

end Find

namespace Traffic

variable {t : Traffic} {n request : Nat} {q : Find.Query} {search : Find}

/-- While these events happen, what is seen of the traffic is changed by steps of one caller only. -/
def ChangedOnlyBy {β : Type} (n : Nat) (seen : Traffic → β) : Traffic → List Event → Prop
  | _, [] => True
  | t, event :: more =>
    (event ≠ .advance n → seen (t.step event) = seen t) ∧ ChangedOnlyBy n seen (t.step event) more

theorem changedOnlyBy_own {β : Type} (n : Nat) (seen : Traffic → β) (t : Traffic) (steps : Nat) :
    ChangedOnlyBy n seen t (List.replicate steps (.advance n)) := by
  induction steps generalizing t with
  | zero => trivial
  | succ steps ih => exact ⟨fun h => absurd rfl h, ih _⟩

theorem calls_step_other {call : Call} {event : Event} (h : t.calls[n]? = some call)
    (hevent : event ≠ .advance n) : (t.step event).calls[n]? = some call ∨
      (t.step event).calls[n]? = some .abandoned ∧ ∃ request q search, call = .find request q search ∧
        search.isWaiting := by
  cases t.moves_step event with
  | quiet _ hc =>
    rw [hc]
    exact .inl h
  | opens _ _ hc =>
    rw [hc, List.getElem?_append_left (List.getElem?_eq_some_iff.mp h).1]
    exact .inl h
  | @moves m _ _ _ _ hc =>
    have hmn : m ≠ n := fun he => hevent (he ▸ rfl)
    rw [hc, List.getElem?_set_ne hmn]
    exact .inl h
  | @abandons m request q search hm hwait _ hc =>
    by_cases hmn : m = n
    · subst hmn
      obtain rfl : _ = call := Option.some.inj (hm.symm.trans h)
      rw [hc, List.getElem?_set_self (List.getElem?_eq_some_iff.mp h).1]
      exact .inr ⟨rfl, request, q, search, rfl, hwait⟩
    · rw [hc, List.getElem?_set_ne hmn]
      exact .inl h

theorem step_find (h : t.calls[n]? = some (.find request q search)) :
    (t.step (.advance n)).calls[n]? = some (.find request q (search.step q (t.world request)).2) ∧
    (t.step (.advance n)).toShared = t.after request (search.step q (t.world request)).1 := by
  have hlt := (List.getElem?_eq_some_iff.mp h).1
  simp only [step, h, Call.step, List.getElem?_set_self hlt, and_self]

/-- The find has come this far, or was given up when it had, and waited. -/
def Comes (n request : Nat) (q : Find.Query) (P : Shared → Find → Prop) (t : Traffic) : Prop :=
  ∃ search, P t.toShared search ∧
    (t.calls[n]? = some (.find request q search) ∨ t.calls[n]? = some .abandoned ∧ search.isWaiting)

variable {P : Shared → Find → Prop}

theorem comes_own (hown : ∀ s search, P s search →
      P (s.after request (search.step q (s.world request)).1) (search.step q (s.world request)).2)
    (h : Comes n request q P t) : Comes n request q P (t.step (.advance n)) := by
  obtain ⟨search, hP, hcall | ⟨hgone, hwait⟩⟩ := h
  · obtain ⟨hnext, hshared⟩ := step_find hcall
    exact ⟨_, hshared ▸ hown t.toShared search hP, .inl hnext⟩
  · have hlt := (List.getElem?_eq_some_iff.mp hgone).1
    refine ⟨search, ?_, .inr ⟨?_, hwait⟩⟩
    · simpa only [step, hgone, Call.step] using hP
    · simp only [step, hgone, Call.step, List.getElem?_set_self hlt]

theorem comes_other {event : Event} (hevent : event ≠ .advance n)
    (hkeeps : ∀ search, P t.toShared search → P (t.step event).toShared search)
      (h : Comes n request q P t) :
    Comes n request q P (t.step event) := by
  obtain ⟨search, hP, hcall | ⟨hgone, hwait⟩⟩ := h
  · obtain hsame | ⟨hgone, request', q', search', heq, hwait⟩ := calls_step_other hcall hevent
    · exact ⟨search, hkeeps search hP, .inl hsame⟩
    · cases heq
      exact ⟨search, hkeeps search hP, .inr ⟨hgone, hwait⟩⟩
  · obtain hsame | ⟨hgone, -⟩ := calls_step_other hgone hevent
    · exact ⟨search, hkeeps search hP, .inr ⟨hsame, hwait⟩⟩
    · exact ⟨search, hkeeps search hP, .inr ⟨hgone, hwait⟩⟩

theorem ChangedOnlyBy.comes {β : Type} {seen : Traffic → β} {more : List Event}
    (h : ChangedOnlyBy n seen t more) (hown : ∀ s search, P s search →
      P (s.after request (search.step q (s.world request)).1) (search.step q (s.world request)).2)
    (hkeeps : ∀ t t' : Traffic, seen t' = seen t → ∀ search, P t.toShared search → P t'.toShared search)
    (hstart : Comes n request q P t) : Comes n request q P (more.foldl step t) := by
  induction more generalizing t with
  | nil => exact hstart
  | cons event more ih =>
    apply ih h.2
    by_cases hevent : event = .advance n
    · subst hevent
      exact comes_own hown hstart
    · exact comes_other hevent (hkeeps t (t.step event) (h.1 hevent)) hstart

theorem Comes.of_call {request' : Nat} {q' : Find.Query} (h : Comes n request q P t)
    (hcall : t.calls[n]? = some (.find request' q' search)) : P t.toShared search := by
  obtain ⟨search', hP, hcall' | ⟨hgone, -⟩⟩ := h
  · cases hcall.symm.trans hcall'
    exact hP
  · cases hcall.symm.trans hgone

theorem Comes.of_abandoned (h : Comes n request q P t) (hgone : t.calls[n]? = some .abandoned) :
    ∃ search, P t.toShared search ∧ search.isWaiting := by
  obtain ⟨search, hP, hcall | ⟨-, hwait⟩⟩ := h
  · cases hgone.symm.trans hcall
  · exact ⟨search, hP, hwait⟩

/-- Whoever is first in line searches, or does so with its next step; and when nobody is, a find
that comes searches as soon as it has asked. -/
structure Proceeds (t : Traffic) : Prop where
  first : ∀ m, t.registry.queue.head? = some m → ∃ request q search,
    t.calls[m]? = some (.find request q search) ∧
    (search.isSearching ∨ (t.step (.advance m)).calls[m]? =
      some (.find request q (.scanning t.registry.list)))
  newcomer : t.registry.queue = [] → ∀ request verbose, ∃ q,
    ([.call (.find request verbose), .advance t.calls.length,
      .advance t.calls.length].foldl step t).calls[
      t.calls.length]? = some (.find request q (.scanning t.registry.list))

theorem step_queued (h : t.calls[n]? = some (.find request q .queued))
    (hturn : t.registry.queue.head? = some q.me) :
    (t.step (.advance n)).calls[n]? = some (.find request q (.scanning t.registry.list)) := by
  have hhead : (t.world request).registry.queue.head? = some q.me := hturn
  rw [(step_find h).1, Find.step, if_pos hhead]
  rfl

theorem Orderly.proceeds (h : t.Orderly) : t.Proceeds := by
  constructor
  · intro m hm
    obtain ⟨call, hcall, hline⟩ := (h.mem_iff m).mp (List.mem_of_head? hm)
    cases call with
    | find request q search =>
      refine ⟨request, q, search, hcall, ?_⟩
      cases search with
      | queued =>
        obtain rfl : q.me = m := h.own m _ hcall q.me rfl
        exact .inr (step_queued hcall hm)
      | start | scanning | reading | counting | removing | finished | escaped => exact .inl hline
    | add | remove | clear | getAll | abandoned => cases hline
  · intro hempty request verbose
    have hcalled : (t.step (.call (.find request verbose))).calls[t.calls.length]? = some (.find request
        ⟨t.calls.length, (t.requests request).head, verbose, if verbose
          then (t.requests request).format else ""⟩
        .start) := List.getElem?_concat_length
    obtain ⟨hqueued, hshared⟩ := step_find hcalled
    have hqueue :
      ((t.step (.call (.find request verbose))).step (.advance t.calls.length)).registry.queue =
        [t.calls.length] := by
      rw [hshared]
      exact congrArg (· ++ [t.calls.length]) hempty
    have hlist :
      ((t.step (.call (.find request verbose))).step (.advance t.calls.length)).registry.list =
        t.registry.list := by
      rw [hshared]
      rfl
    have hturn := step_queued hqueued (by rw [hqueue]; rfl)
    rw [hlist] at hturn
    exact ⟨_, hturn⟩

/-- What a find has done to a registry in which it began, now that it is over. -/
structure FindEffects (g : Registry) (n : Nat) (t : Traffic) : Prop where
  missed : ∀ request q, t.calls[n]? = some (.find request q (.finished none)) →
    t.registry.list = g.list ∧ t.registry.counts = g.counts
  abandoned : t.calls[n]? = some .abandoned → t.registry.list = g.list ∧ t.registry.counts = g.counts
  escaped : ∀ request q reason, t.calls[n]? = some (.find request q (.escaped reason)) →
    t.registry.list = g.list ∧ t.registry.counts = g.counts
  counted : ∀ request q stub, t.calls[n]? = some (.find request q (.finished (some stub))) →
    t.registry.countOf stub = g.countOf stub + 1 ∧
    ∀ number, number ≠ stub.created → t.registry.counts number = g.counts number
  kept : ∀ request q stub, t.calls[n]? = some (.find request q (.finished (some stub))) →
    stub.configuration.removeAfterMatch = false → t.registry.list = g.list
  removed : ∀ request q stub, t.calls[n]? = some (.find request q (.finished (some stub))) →
    stub.configuration.removeAfterMatch = true →
    ∃ before after, g.list = before ++ stub :: after ∧ t.registry.list = before ++ after
  free : t.calls[n]? = some .abandoned ∨
    (∃ request q search, t.calls[n]? = some (.find request q search) ∧
    search.isOver) → n ∉ t.registry.queue ∧ t.Proceeds

theorem exists_of_eraseP_created {stubs : List Stub} {stub : Stub} (hdistinct : Stub.Distinct stubs)
    (hstub : stub ∈ stubs) : ∃ before after, stubs = before ++ stub :: after ∧
      stubs.eraseP (·.created = stub.created) = before ++ after := by
  obtain ⟨s, before, after, -, hs, hstubs, herase⟩ :=
    List.exists_of_eraseP (p := fun s : Stub => s.created = stub.created) hstub (by simp)
  have hmem : s ∈ stubs := hstubs ▸ List.mem_append_right before List.mem_cons_self
  obtain rfl : s = stub := hdistinct s hmem stub hstub (by simpa using hs)
  exact ⟨before, after, hstubs, herase⟩

theorem findEffects_of_comes {g : Registry} (hdistinct : Stub.Distinct g.list) (horderly : t.Orderly)
    (h : Comes n request q (fun s search => Find.Leads g .start s.registry search) t) :
    FindEffects g n t := by
  have hserved : ∀ request q stub, t.calls[n]? = some (.find request q (.finished (some stub))) →
      stub ∈ g.list ∧ t.registry.counts = (g.count stub).counts ∧
        t.registry.list = Find.listAfter stub g.list := by
    intro request q stub hcall
    cases h.of_call hcall with
    | served hstub hcounts hlist => exact ⟨hstub, hcounts, hlist⟩
    | opened hopen => cases hopen
    | missed hnone => obtain he | ⟨reason, he⟩ := hnone <;> cases he
  have hsame : ∀ {search : Find}, search.isOpen ∨ search = .finished none ∨
    (∃ reason, search = .escaped reason) →
      Find.Leads g .start t.registry search → t.registry.list = g.list ∧
        t.registry.counts = g.counts := by
    intro search hsearch hleads
    obtain ⟨hstubs, hcounts⟩ := hleads.unchanged hsearch
    exact ⟨congrArg Cell.value hstubs, hcounts⟩
  constructor
  case missed => exact fun request q hcall => hsame (.inr (.inl rfl)) (h.of_call hcall)
  case escaped => exact fun request q reason hcall => hsame (.inr (.inr ⟨reason, rfl⟩)) (h.of_call hcall)
  case abandoned =>
    intro hgone
    obtain ⟨search, hleads, hwait⟩ := h.of_abandoned hgone
    exact hsame (.inl (Find.isOpen_of_isWaiting hwait)) hleads
  case counted =>
    intro request q stub hcall
    obtain ⟨-, hcounts, -⟩ := hserved request q stub hcall
    rw [Registry.countOf, Registry.countOf, hcounts]
    refine ⟨if_pos rfl, fun number hnumber => if_neg hnumber⟩
  case kept =>
    intro request q stub hcall honce
    obtain ⟨-, -, hlist⟩ := hserved request q stub hcall
    rw [hlist, Find.listAfter, honce]
    rfl
  case removed =>
    intro request q stub hcall honce
    obtain ⟨hstub, -, hlist⟩ := hserved request q stub hcall
    rw [hlist, Find.listAfter, if_pos honce]
    exact exists_of_eraseP_created hdistinct hstub
  case free =>
    intro hover
    refine ⟨fun hqueue => ?_, horderly.proceeds⟩
    obtain ⟨call, hcall, hline⟩ := (horderly.mem_iff n).mp hqueue
    obtain hgone | ⟨request, q, search, hsearch, hover⟩ := hover
    · cases hgone.symm.trans hcall
      cases hline
    · cases hsearch.symm.trans hcall
      cases search with
      | finished | escaped => cases hline
      | start | queued | scanning | reading | counting | removing => cases hover

/-- While nobody else writes to the registry, a find that comes back with a stub counts it, and
takes it out of the list if it is for single use. Otherwise it does nothing, wherever it is
abandoned. Then others can search. -/
theorem find_effects (requests : Nat → Request) (events more : List Event) (n request : Nat)
    (q : Find.Query) (hcall : (run requests events).calls[n]? = some (.find request q .start))
    (halone : ChangedOnlyBy n (fun t => (t.registry.stubs, t.registry.counts))
      (run requests events) more) :
    FindEffects (run requests events).registry n (run requests (events ++ more)) := by
  have hsound := sound_run requests events
  have hdistinct : Stub.Distinct (run requests events).registry.list := fun a ha b hb =>
    hsound.distinct a (hsound.listed ha) b (hsound.listed hb)
  have horderly := orderly_run requests (events ++ more)
  rw [run_append] at horderly ⊢
  have hstart : Comes n request q (fun s search =>
    Find.Leads (run requests events).registry .start s.registry search)
      (run requests events) := ⟨.start, Find.leads_self rfl, .inl hcall⟩
  apply findEffects_of_comes hdistinct horderly
  refine halone.comes (fun s search hleads => ?_) (fun t t' hseen search hleads => ?_) hstart
  · have hstep : Find.Leads (run requests events).registry .start
      (search.step q (s.world request)).1.registry
        (search.step q (s.world request)).2 := hleads.step
    exact hstep
  · obtain ⟨hstubs, hcounts⟩ := Prod.mk.inj hseen
    exact hleads.congr hstubs hcounts

def onceOnBody : Stub :=
  ⟨⟨none, true, false⟩,
    (Matching.Specification.ofCriteria .text [.bodyText (.ofBool "" fun _ => true)]).erase,
    fun _ => .done (.failed ""), 1⟩

def finding : List Event :=
  .create onceOnBody.configuration onceOnBody.specification onceOnBody.responder ::
    ([.call (.add 0)] ++ List.replicate 2 (.advance 0) ++ [.call (.find 0 false)])

def useInTurn : List Event :=
  [.advance 1, .call (.find 1 false), .advance 2] ++ List.replicate 12 (.advance 1)

def posted : Request := ⟨⟨"POST", ⟨none, none, "/", none⟩, .http11, ⟨[]⟩⟩, .ofFrames [⟨5, .data []⟩]⟩

theorem find_effects_useInTurn :
    FindEffects (run (fun _ => posted) finding).registry 1
      (run (fun _ => posted) (finding ++ useInTurn)) ∧
    ((run (fun _ => posted) (finding ++ useInTurn)).calls[1]?,
      (run (fun _ => posted) finding).registry.list,
      (run (fun _ => posted) (finding ++ useInTurn)).registry.list,
      (run (fun _ => posted) (finding ++ useInTurn)).registry.queue) =
      (some (.find 0 ⟨1, posted.head, false, ""⟩ (.finished (some onceOnBody))), [onceOnBody], [],
        [2]) := by
  refine ⟨find_effects (fun _ => posted) finding useInTurn 1 0 ⟨1, posted.head, false, ""⟩ rfl ?_, rfl⟩
  -- The other find only gets in line.
  exact ⟨fun h => absurd rfl h, fun _ => rfl, fun _ => rfl, changedOnlyBy_own 1 _ _ 12⟩

end Traffic

end StubServer
