import StubServer.Proofs.Shared.Queue
import StubServer.Proofs.Stub.Changes

namespace StubServer

open Stub (Sorted Distinct Tidy)

namespace Stub

variable {created : List Stub}

theorem distinct_of_numbered
    (h : ∀ (i : Nat) (stub : Stub), created[i]? = some stub → stub.created = i + 1) :
    Distinct created := by
  intro a ha b hb he
  obtain ⟨i, hi⟩ := List.mem_iff_getElem?.mp ha
  obtain ⟨j, hj⟩ := List.mem_iff_getElem?.mp hb
  have hij : i = j := by
    have := h i a hi
    have := h j b hj
    omega
  subst hij
  exact Option.some.inj (hi.symm.trans hj)

theorem numbered_concat {new : Stub} (hnew : new.created = created.length + 1)
    (h : ∀ (i : Nat) (stub : Stub), created[i]? = some stub → stub.created = i + 1)
    (i : Nat) (stub : Stub)
    (hi : (created ++ [new])[i]? = some stub) : stub.created = i + 1 := by
  obtain hi | ⟨rfl, rfl⟩ := getElem?_concat_cases hi
  · exact h i stub hi
  · exact hnew

end Stub

namespace Traffic

inductive Opens (t : Traffic) : Call → Prop
  | add {stub : Stub} (h : stub ∈ t.created) : Opens t (.add stub .start)
  | remove {stub : Stub} (h : stub ∈ t.created) : Opens t (.remove stub .start)
  | clear : Opens t (.clear false)
  | getAll : Opens t (.getAll none)
  | find (request : Nat) {q : Find.Query} (h : q.me = t.calls.length) :
      Opens t (.find request q .start)

inductive Moves (t t' : Traffic) : Event → Prop
  | quiet {event : Event} (hr : t'.registry = t.registry) (hc : t'.calls = t.calls) : Moves t t' event
  | opens {task : Task} {call : Call} (h : t.Opens call) (hr : t'.registry = t.registry)
      (hc : t'.calls = t.calls ++ [call]) : Moves t t' (.call task)
  | moves {n : Nat} {call call' : Call} (h : t.calls[n]? = some call)
      (hm : Call.Moves t.registry call t'.registry call') (hc : t'.calls = t.calls.set n call') :
      Moves t t' (.advance n)
  | abandons {n request : Nat} {q : Find.Query} {search : Find}
      (h : t.calls[n]? = some (.find request q search)) (hw : search.isWaiting)
      (hr : t'.registry = t.registry.leave q.me) (hc : t'.calls = t.calls.set n .abandoned) :
      Moves t t' (.abandon n)

variable {t : Traffic}

theorem opens_of_opening {task : Task} {call : Call} (h : t.opening task = some call) :
    t.Opens call := by
  cases task with
  | add place =>
    obtain ⟨stub, hs, rfl⟩ := Option.map_eq_some_iff.mp h
    exact .add (List.mem_of_getElem? hs)
  | remove place =>
    obtain ⟨stub, hs, rfl⟩ := Option.map_eq_some_iff.mp h
    exact .remove (List.mem_of_getElem? hs)
  | clear =>
    obtain rfl := Option.some.inj h
    exact .clear
  | getAll =>
    obtain rfl := Option.some.inj h
    exact .getAll
  | find request verbose =>
    obtain rfl := Option.some.inj h
    exact .find request rfl

theorem moves_step (t : Traffic) (event : Event) : t.Moves (t.step event) event := by
  cases event with
  | create | disturb => exact .quiet rfl rfl
  | call task =>
    cases h : t.opening task with
    | none =>
      simp only [step, h]
      exact .quiet rfl rfl
    | some call =>
      simp only [step, h]
      exact .opens (opens_of_opening h) rfl rfl
  | advance n =>
    cases h : t.calls[n]? with
    | none =>
      simp only [step, h]
      exact .quiet rfl rfl
    | some call =>
      simp only [step, h]
      exact .moves h (Call.moves_step t.toShared call) rfl
  | abandon n =>
    simp only [step]
    split
    · rename_i request q search h
      split
      · exact .abandons h ‹_› rfl rfl
      · exact .quiet rfl rfl
    · exact .quiet rfl rfl
  | answer n =>
    simp only [step]
    split
    · split <;> exact .quiet rfl rfl
    · exact .quiet rfl rfl

/-- Where a call comes from that is there after an event: it was there before, it begins, it has taken a
step, or it is a find that nobody waits for any more. -/
inductive Origin (t : Traffic) (n : Nat) (g' : Registry) : Event → Call → Prop
  | stayed {event : Event} {call : Call} (h : t.calls[n]? = some call) : Origin t n g' event call
  | began {event : Event} {call : Call} (h : t.Opens call) : Origin t n g' event call
  | moved {call call' : Call} (h : t.calls[n]? = some call) (hm : Call.Moves t.registry call g' call') :
      Origin t n g' (.advance n) call'
  | abandoned (event : Event) : Origin t n g' event .abandoned

theorem origin_step (t : Traffic) (event : Event) {n : Nat} {call : Call}
    (h : (t.step event).calls[n]? = some call) : t.Origin n (t.step event).registry event call := by
  cases t.moves_step event with
  | quiet hr hc => exact .stayed (hc ▸ h)
  | opens ho hr hc =>
    obtain h | ⟨rfl, rfl⟩ := getElem?_concat_cases (hc ▸ h)
    · exact .stayed h
    · exact .began ho
  | moves hn hm hc =>
    obtain ⟨rfl, rfl⟩ | ⟨_, h⟩ := getElem?_set_cases (hc ▸ h)
    · exact .moved hn hm
    · exact .stayed h
  | abandons hn hw hr hc =>
    obtain ⟨rfl, rfl⟩ | ⟨_, h⟩ := getElem?_set_cases (hc ▸ h)
    · exact .abandoned _
    · exact .stayed h

theorem past_step (t : Traffic) (event : Event) :
    t.registry.stubs.Past (t.step event).registry.stubs := by
  cases t.moves_step event with
  | quiet hr hc | opens ho hr hc =>
    rw [hr]
    exact .refl _
  | moves hn hm hc => exact hm.past
  | abandons hn hw hr hc =>
    rw [hr]
    exact .refl _

theorem Opens.stubs_subset {call : Call} (h : t.Opens call) : call.stubs ⊆ t.created := by
  cases h with
  | add hs | remove hs => exact List.cons_subset.mpr ⟨hs, List.nil_subset _⟩
  | clear | getAll | find => exact List.nil_subset _

theorem Opens.recent {call : Call} (h : t.Opens call) (cell : Cell (List Stub)) : call.Recent cell := by
  cases h <;> trivial

theorem Opens.removesOnce {call : Call} (h : t.Opens call) : call.RemovesOnce := by
  cases h <;> trivial

theorem created_step (t : Traffic) (event : Event) : (t.step event).created = t.created ∨
    ∃ stub, stub.created = t.created.length + 1 ∧
      t.step event = { t with created := t.created ++ [stub] } := by
  cases event with
  | create => exact .inr ⟨_, rfl, rfl⟩
  | disturb => exact .inl rfl
  | call | advance | abandon | answer =>
    left
    simp only [step]
    repeat' split
    all_goals rfl

theorem created_subset_step (t : Traffic) (event : Event) : t.created ⊆ (t.step event).created := by
  obtain h | ⟨stub, _, h⟩ := t.created_step event
  · exact fun s hs => h ▸ hs
  · rw [h]
    exact List.subset_append_left _ _

/-- The stubs are told apart, the list is in order, the callers have only stubs in hand that were
created, they work on lists of the past, and finds take out only stubs for single use. -/
structure Sound (t : Traffic) : Prop where
  numbered : ∀ (i : Nat) (stub : Stub), t.created[i]? = some stub → stub.created = i + 1
  listed : t.registry.list ⊆ t.created
  sorted : Sorted t.registry.list
  inHand : ∀ (n : Nat) (call : Call), t.calls[n]? = some call → call.stubs ⊆ t.created
  recent : ∀ (n : Nat) (call : Call), t.calls[n]? = some call → call.Recent t.registry.stubs
  removesOnce : ∀ (n : Nat) (call : Call), t.calls[n]? = some call → call.RemovesOnce

theorem Sound.distinct (h : t.Sound) : Distinct t.created := Stub.distinct_of_numbered h.numbered

theorem Sound.tidy (h : t.Sound) : Tidy t.created t.registry.list := ⟨h.distinct, h.listed, h.sorted⟩

theorem sorted_of_changes {call call' : Call} {stubs stubs' : List Stub}
    (h : Call.Changes call call' stubs stubs') (hs : Sorted stubs) : Sorted stubs' := by
  cases h with
  | none => exact hs
  | add _ h => exact h.sorted
  | remove _ h | use _ _ _ h => exact hs.sublist h.sublist
  | clear => exact .nil

theorem subset_of_changes {call call' : Call} {stubs stubs' known : List Stub}
    (h : Call.Changes call call' stubs stubs') (hl : stubs ⊆ known) (hn : call.stubs ⊆ known) :
    stubs' ⊆ known := by
  cases h with
  | none => exact hl
  | add _ h =>
    intro s hs
    obtain rfl | hs := (h.mem_iff s).mp hs
    · exact hn List.mem_cons_self
    · exact hl hs
  | remove _ h | use _ _ _ h => exact List.Subset.trans h.sublist.subset hl
  | clear => exact List.nil_subset known

theorem list_step (h : t.Sound) (event : Event) : (t.step event).registry.list = t.registry.list ∨
    ∃ m call call', event = .advance m ∧ t.calls[m]? = some call ∧
      (t.step event).calls[m]? = some call' ∧
      Call.Changes call call' t.registry.list (t.step event).registry.list := by
  cases t.moves_step event with
  | quiet hr hc | opens ho hr hc => exact .inl (congrArg Registry.list hr)
  | @moves m call call' hn hm hc =>
    refine .inr ⟨m, call, call', rfl, hn, ?_,
      hm.changes h.tidy (h.inHand m call hn) (h.recent m call hn)⟩
    rw [hc, List.getElem?_set_self (List.getElem?_eq_some_iff.mp hn).1]
  | abandons hn hw hr hc =>
    rw [hr]
    exact .inl rfl

theorem numbered_step (h : t.Sound) (event : Event) (i : Nat) (stub : Stub)
    (hi : (t.step event).created[i]? = some stub) : stub.created = i + 1 := by
  obtain he | ⟨new, hnew, he⟩ := t.created_step event
  · exact h.numbered i stub (he ▸ hi)
  · rw [he] at hi
    exact Stub.numbered_concat hnew h.numbered i stub hi

theorem tidy_step (h : t.Sound) (event : Event) :
    (t.step event).registry.list ⊆ t.created ∧ Sorted (t.step event).registry.list := by
  obtain he | ⟨m, call, call', _, hcall, _, hchange⟩ := list_step h event
  · rw [he]
    exact ⟨h.listed, h.sorted⟩
  · exact ⟨subset_of_changes hchange h.listed (h.inHand m call hcall),
      sorted_of_changes hchange h.sorted⟩

theorem sound_step (h : t.Sound) (event : Event) : (t.step event).Sound := by
  have hsub := t.created_subset_step event
  have htidy := tidy_step h event
  refine ⟨numbered_step h event, List.Subset.trans htidy.1 hsub, htidy.2, ?_, ?_, ?_⟩
  · intro n call hn
    refine List.Subset.trans ?_ hsub
    cases t.origin_step event hn with
    | stayed hold => exact h.inHand n call hold
    | began ho => exact ho.stubs_subset
    | moved hold hm => exact hm.stubs_subset h.listed (h.inHand n _ hold)
    | abandoned => exact List.nil_subset _
  · intro n call hn
    cases t.origin_step event hn with
    | stayed hold => exact (h.recent n call hold).mono (t.past_step event)
    | began ho => exact ho.recent _
    | moved hold hm => exact hm.recent
    | abandoned => trivial
  · intro n call hn
    cases t.origin_step event hn with
    | stayed hold => exact h.removesOnce n call hold
    | began ho => exact ho.removesOnce
    | moved hold hm => exact hm.removesOnce (h.removesOnce n _ hold)
    | abandoned => trivial

theorem sound_start (requests : Nat → Request) : (start requests).Sound := by
  refine ⟨?_, List.nil_subset _, .nil, ?_, ?_, ?_⟩ <;>
    · intro i x hx
      simp [start] at hx

theorem sound_run (requests : Nat → Request) (events : List Event) : (run requests events).Sound :=
  List.foldlRecOn events step (sound_start requests) fun _ h event _ => sound_step h event

end Traffic

end StubServer
