import StubServer.Proofs.Server.Service
import StubServer.Proofs.Stub.Runs

namespace StubServer

open Stub (Sorted Distinct Tidy Inserted)

structure ServerState.Agrees (state state' : ServerState) : Prop where
  list : state'.registry.list = state.registry.list
  counts : state'.registry.counts = state.registry.counts
  journal : state'.journal = state.journal

namespace Exchange

def isFinding (e : Exchange) : Bool :=
  match e.handling with
  | .finding _ => true
  | _ => false

/-- What handling a request up to the next wait can do: the find waits again, it comes back, or there is
nothing to find any more. -/
inductive Resumes (state : ServerState) (timestamp : Timestamp) (e : Exchange) :
    ServerState → Exchange → Prop
  | waits {state' : ServerState} {e' : Exchange} {find find' : Find} (h : e.handling = .finding find)
      (h' : e'.handling = .finding find') (hwait : find'.isWaiting)
      (hheld : find'.held ⊆ find.held ++ state.registry.list) (hfound : e'.found = e.found)
      (hhead : e'.request.head = e.request.head) (hstate : state.Agrees state') :
        Resumes state timestamp e state' e'
  | finds {state' : ServerState} {e' : Exchange} {find : Find} {record : RecordedRequest}
      {stub? : Option Stub} (h : e.handling = .finding find) (h' : e'.isFinding = false)
      (hfound : e'.found = some (record, stub?)) (hhead : e'.request.head = e.request.head)
      (hrecord : record = .ofHead timestamp e.request.head)
      (hstub : ∀ stub ∈ stub?, stub ∈ find.held ++ state.registry.list)
      (hlist : state'.registry.list.Sublist state.registry.list)
      (hcounts : ∀ number, state'.registry.counts number =
        state.registry.counts number + if stub?.any (·.created = number) then 1 else 0)
      (hjournal : state'.journal = (state.record record stub?).journal) :
      Resumes state timestamp e state' e'
  | ends {state' : ServerState} {e' : Exchange} (h' : e'.isFinding = false) (hfound : e'.found = e.found)
      (hhead : e'.request.head = e.request.head) (hstate : state.Agrees state') :
      Resumes state timestamp e state' e'

variable {state : ServerState} {e : Exchange}

theorem listAfter_sublist (stub : Stub) (stubs : List Stub) :
    (Find.listAfter stub stubs).Sublist stubs := by
  rw [Find.listAfter]
  split
  · exact List.eraseP_sublist
  · exact .refl _

theorem resumes (timestamp : Timestamp) (now : Nat)
    (hopen : ∀ find, e.handling = .finding find → find.isOpen) :
    e.Resumes state timestamp (e.resume state timestamp now).1 (e.resume state timestamp now).2.1 := by
  cases hhandling : e.handling with
  | answering answer =>
    simp only [resume, hhandling]
    exact .ends rfl rfl rfl ⟨rfl, rfl, rfl⟩
  | answered answer =>
    simp only [resume, hhandling]
    exact .ends (by simp only [isFinding, hhandling]) rfl rfl ⟨rfl, rfl, rfl⟩
  | failed reason =>
    simp only [resume, hhandling]
    exact .ends (by simp only [isFinding, hhandling]) rfl rfl ⟨rfl, rfl, rfl⟩
  | abandoned =>
    simp only [resume, hhandling]
    exact .ends (by simp only [isFinding, hhandling]) rfl rfl ⟨rfl, rfl, rfl⟩
  | finding find =>
    have hpause := Find.pauses_poll e.query ⟨state.registry, e.request.body, []⟩ (hopen find hhandling)
    simp only [resume, hhandling]
    generalize find.poll e.query ⟨state.registry, e.request.body, []⟩ = polled at hpause ⊢
    obtain ⟨⟨registry, body, log⟩, next⟩ := polled
    dsimp only at hpause ⊢
    cases hpause with
    | waits hwait hlist hcounts hheld =>
      cases next with
      | start | queued | reading => exact .waits hhandling rfl hwait hheld rfl rfl ⟨hlist, hcounts, rfl⟩
      | scanning | counting | removing | finished | escaped => cases hwait
    | misses hlist hcounts =>
      refine .finds hhandling rfl rfl rfl rfl (fun stub h => nomatch h) (hlist ▸ .refl _) ?_ rfl
      intro number
      exact congrFun hcounts number
    | escapes reason hlist hcounts => exact .ends rfl rfl rfl ⟨hlist, hcounts, rfl⟩
    | @serves stub hstub hlist hcounts =>
      refine .finds hhandling rfl rfl rfl rfl (fun s hs => ?_) ?_ ?_ rfl
      · exact Option.some.inj hs ▸ hstub
      · exact (show registry.list = _ from hlist) ▸ listAfter_sublist stub state.registry.list
      · intro number
        exact (congrFun hcounts number).trans (Find.count_counts_apply state.registry stub number)

theorem abandon_keeps (state : ServerState) (e : Exchange) : state.Agrees (e.abandon state).1 ∧
    (e.abandon state).2.found = e.found ∧ (e.abandon state).2.request.head = e.request.head := by
  simp only [abandon]
  split
  · split <;> exact ⟨⟨rfl, rfl, rfl⟩, rfl, rfl⟩
  · exact ⟨⟨rfl, rfl, rfl⟩, rfl, rfl⟩
  · exact ⟨⟨rfl, rfl, rfl⟩, rfl, rfl⟩

theorem abandon_isFinding (hwait : ∀ find, e.handling = .finding find → find.isWaiting) :
    (e.abandon state).2.isFinding = false := by
  cases hhandling : e.handling with
  | finding find => simp only [abandon, hhandling, if_pos (hwait find hhandling), isFinding]
  | answering answer => simp only [abandon, hhandling, isFinding]
  | answered answer => simp only [abandon, hhandling, isFinding]
  | failed reason => simp only [abandon, hhandling, isFinding]
  | abandoned => simp only [abandon, hhandling, isFinding]

end Exchange

namespace Update

variable {α ε : Type} {change : α → Except ε (Option α)} {cell : Cell α}

theorem alone_error {e : ε} (h : change cell.value = .error e) : (alone change cell).1 = cell := by
  simp only [alone, step, h]

theorem alone_none (h : change cell.value = .ok none) : (alone change cell).1 = cell := by
  simp only [alone, step, h]

theorem alone_some {next : α} (h : change cell.value = .ok (some next)) :
    (alone change cell).1 = cell.store next := by
  simp only [alone, step, h, Cell.replace?, if_true]

end Update

inductive Registry.Changes (created stubs stubs' : List Stub) : Prop
  | adds {stub : Stub} (h : stub ∈ created) (hin : Inserted stub stubs stubs')
  | removes (h : stubs'.Sublist stubs)

namespace Registry

variable {created : List Stub} {registry : Registry} {stub : Stub}

theorem add_list (registry : Registry) (stub : Stub) :
    (registry.add stub).1.list = (Update.alone (adding stub) registry.stubs).1.value := rfl

theorem remove_list (registry : Registry) (stub : Stub) :
    (registry.remove stub).1.list = (Update.alone (removing stub) registry.stubs).1.value := rfl

theorem add_changes (h : Tidy created registry.list) (hstub : stub ∈ created) :
    Changes created registry.list (registry.add stub).1.list := by
  rw [add_list]
  obtain ⟨-, he⟩ | ⟨next, he, hin⟩ := adding_spec h hstub
  · rw [Update.alone_error he]
    exact .removes (.refl _)
  · rw [Update.alone_some he]
    exact .adds hstub hin

theorem remove_changes (h : Tidy created registry.list) (hstub : stub ∈ created) :
    Changes created registry.list (registry.remove stub).1.list := by
  rw [remove_list]
  obtain ⟨-, he⟩ | ⟨next, he, hdel⟩ := removing_spec h hstub
  · rw [Update.alone_none he]
    exact .removes (.refl _)
  · rw [Update.alone_some he]
    exact .removes hdel.sublist

theorem Changes.tidy {stubs stubs' : List Stub} (h : Changes created stubs stubs')
    (ht : Tidy created stubs) : Tidy created stubs' := by
  cases h with
  | adds hstub hin =>
    refine ⟨ht.distinct, fun s hs => ?_, hin.sorted⟩
    obtain rfl | hs := (hin.mem_iff s).mp hs
    · exact hstub
    · exact ht.subset hs
  | removes hsub => exact ⟨ht.distinct, List.Subset.trans hsub.subset ht.subset, ht.sorted.sublist hsub⟩

end Registry

namespace Service

inductive Moves (s : Service) : Event → Service → Prop
  | stays {event : Event} (hevent : event.isReset = false) : Moves s event s
  | creates {event : Event} {stub : Stub} (hevent : event.isReset = false)
      (h : stub.created = s.created.length + 1) : Moves s event { s with created := s.created ++ [stub] }
  | lists {event : Event} {registry : Registry} (hevent : event.isReset = false)
      (h : Registry.Changes s.created s.state.registry.list registry.list)
      (hcounts : registry.counts = s.state.registry.counts) : Moves s event (s.withRegistry registry)
  | arrives (request : Request) : Moves s (.arrive request)
      { s with exchanges := s.exchanges ++ [.new s.exchanges.length s.state.verbose request] }
  | resumes {n now : Nat} {timestamp : Timestamp} {e e' : Exchange} {state' : ServerState}
      (log : List LogEvent) (h : s.exchanges[n]? = some e) (hr : e.Resumes s.state timestamp state' e') :
      Moves s (.resume n timestamp now) ⟨state', s.created, s.exchanges.set n e', log,
        s.history ++ e.milestones n e'⟩
  | abandons {n : Nat} {e e' : Exchange} {state' : ServerState} (h : s.exchanges[n]? = some e)
      (hstate : s.state.Agrees state') (hfound : e'.found = e.found)
      (hhead : e'.request.head = e.request.head) (hover : e'.isFinding = false) :
      Moves s (.abandon n) { s with state := state', exchanges := s.exchanges.set n e' }
  | resets : Moves s .reset { s with
      state := s.state.reset
      history := s.history ++ [.reset s.state.registry.list] }

/-- Stubs are told apart, the list is in order, and a find that is not over waits, has only stubs in hand
that were created, and has not come back with anything. -/
structure Sound (s : Service) : Prop where
  numbered : ∀ (i : Nat) (stub : Stub), s.created[i]? = some stub → stub.created = i + 1
  tidy : Tidy s.created s.state.registry.list
  waiting : ∀ (n : Nat) (e : Exchange) (find : Find), s.exchanges[n]? = some e →
    e.handling = .finding find → find.isWaiting ∧ find.held ⊆ s.created ∧ e.found = none

variable {s : Service}

theorem moves_step (h : s.Sound) (event : Event) : s.Moves event (s.step event) := by
  cases event with
  | create => exact .creates rfl rfl
  | register place =>
    simp only [step]
    cases hplace : s.created[place]? with
    | none => exact .stays rfl
    | some stub => exact .lists rfl (Registry.add_changes h.tidy (List.mem_of_getElem? hplace)) rfl
  | unregister place =>
    simp only [step]
    cases hplace : s.created[place]? with
    | none => exact .stays rfl
    | some stub => exact .lists rfl (Registry.remove_changes h.tidy (List.mem_of_getElem? hplace)) rfl
  | clear => exact .lists rfl (.removes (List.nil_sublist _)) rfl
  | arrive request => exact .arrives request
  | resume n timestamp now =>
    simp only [step]
    cases hn : s.exchanges[n]? with
    | none => exact .stays rfl
    | some e =>
      have hopen : ∀ find, e.handling = .finding find → find.isOpen := fun find hfind =>
        Find.isOpen_of_isWaiting (h.waiting n e find hn hfind).1
      exact .resumes _ hn (Exchange.resumes timestamp now hopen)
  | abandon n =>
    simp only [step]
    cases hn : s.exchanges[n]? with
    | none => exact .stays rfl
    | some e =>
      have hwait : ∀ find, e.handling = .finding find → find.isWaiting := fun find hfind =>
        (h.waiting n e find hn hfind).1
      obtain ⟨hstate, hfound, hhead⟩ := e.abandon_keeps s.state
      exact .abandons hn hstate hfound hhead (Exchange.abandon_isFinding hwait)
  | reset => exact .resets

theorem finding_of_isFinding {e : Exchange} {find : Find} (h : e.isFinding = false) :
    e.handling ≠ .finding find := by
  intro he
  rw [Exchange.isFinding, he] at h
  cases h

theorem sound_step (h : s.Sound) (event : Event) : (s.step event).Sound := by
  have hm := moves_step h event
  generalize s.step event = s' at hm ⊢
  cases hm with
  | stays => exact h
  | creates _ hnew =>
    have hnumbered := Stub.numbered_concat hnew h.numbered
    refine ⟨hnumbered, ⟨Stub.distinct_of_numbered hnumbered,
      List.Subset.trans h.tidy.subset (List.subset_append_left _ _), h.tidy.sorted⟩, ?_⟩
    intro n e find hn hfind
    obtain ⟨hwait, hheld, hfound⟩ := h.waiting n e find hn hfind
    exact ⟨hwait, List.Subset.trans hheld (List.subset_append_left _ _), hfound⟩
  | lists _ hlist => exact ⟨h.numbered, hlist.tidy h.tidy, h.waiting⟩
  | arrives request =>
    refine ⟨h.numbered, h.tidy, fun n e find hn hfind => ?_⟩
    obtain hn | ⟨-, rfl⟩ := getElem?_concat_cases hn
    · exact h.waiting n e find hn hfind
    · injection hfind with hfind
      subst hfind
      exact ⟨rfl, List.nil_subset _, rfl⟩
  | @resumes m _ _ e₀ e₁ state' log hm hr =>
    have hlist : Tidy s.created state'.registry.list := by
      cases hr with
      | waits _ _ _ _ _ _ hstate => exact hstate.list ▸ h.tidy
      | ends _ _ _ hstate => exact hstate.list ▸ h.tidy
      | finds _ _ _ _ _ _ hsub => exact (Registry.Changes.removes hsub).tidy h.tidy
    refine ⟨h.numbered, hlist, fun n e find hn hfind => ?_⟩
    obtain ⟨rfl, rfl⟩ | ⟨-, hn⟩ := getElem?_set_cases hn
    -- Of the request that went on, the find waits again or there is none any more.
    · cases hr with
      | waits h₀ h₁ hwait hheld hfound =>
        obtain ⟨-, hheld₀, hfound₀⟩ := h.waiting n e₀ _ hm h₀
        injection h₁.symm.trans hfind with he
        subst he
        refine ⟨hwait, List.Subset.trans hheld ?_, hfound.trans hfound₀⟩
        exact List.append_subset.mpr ⟨hheld₀, h.tidy.subset⟩
      | finds _ hover | ends hover => exact absurd hfind (finding_of_isFinding hover)
    · exact h.waiting n e find hn hfind
  | @abandons m e₀ e₁ state' hm hstate hfound hhead hover =>
    refine ⟨h.numbered, hstate.list ▸ h.tidy, fun n e find hn hfind => ?_⟩
    obtain ⟨rfl, rfl⟩ | ⟨-, hn⟩ := getElem?_set_cases hn
    · exact absurd hfind (finding_of_isFinding hover)
    · exact h.waiting n e find hn hfind
  | resets => exact ⟨h.numbered, h.tidy, h.waiting⟩

theorem sound_start (verbose : Bool) (mode : JournalMode) : (start verbose mode).Sound := by
  refine ⟨?_, ⟨?_, List.nil_subset _, .nil⟩, ?_⟩
  · exact fun i stub hi => nomatch hi
  · exact fun a ha => nomatch ha
  · exact fun n e find hn => nomatch hn

theorem sound_run (verbose : Bool) (mode : JournalMode) (events : List Event) :
    (run verbose mode events).Sound :=
  List.foldlRecOn events step (sound_start verbose mode) fun _ h event _ => sound_step h event

end Service

end StubServer
