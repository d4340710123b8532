import Mathlib.Data.Set.Insert
import StubServer.Proofs.Stub.Runs

namespace StubServer

open Stub (Sorted Tidy)

/-- The list of stubs as a set that one caller at a time uses. -/
def stubSet : Sequential (Set Stub) Registry.Op Registry.Reply where
  initial := ∅
  effect stubs op reply stubs' := match op with
    | .add stub =>
      (stub ∈ stubs ∧ reply = .added (.error (.duplicate stub.text)) ∧ stubs' = stubs) ∨
        stub ∉ stubs ∧ reply = .added (.ok ()) ∧ stubs' = insert stub stubs
    | .remove stub =>
      (stub ∈ stubs ∧ reply = .removed true ∧ stubs' = stubs \ {stub}) ∨
        stub ∉ stubs ∧ reply = .removed false ∧ stubs' = stubs
    | .clear => reply = .cleared ∧ stubs' = ∅
    | .getAll => stubs' = stubs ∧
      ∃ sorted, reply = .listed sorted ∧ Sorted sorted ∧ ∀ s, s ∈ sorted ↔ s ∈ stubs

def members (stubs : List Stub) : Set Stub := {s | s ∈ stubs}

theorem members_of_inserted {stub : Stub} {stubs stubs' : List Stub}
    (h : Stub.Inserted stub stubs stubs') : members stubs' = insert stub (members stubs) := by
  ext s
  exact h.mem_iff s

theorem members_of_deleted {stub : Stub} {stubs stubs' : List Stub}
    (h : Stub.Deleted stub stubs stubs') : members stubs' = members stubs \ {stub} := by
  ext s
  exact h.mem_iff s

namespace Call

def addPhase (stub : Stub) : Update (List Stub) StubError → Phase Registry.Op Registry.Reply
  | .start => .asking (.add stub)
  | .working seen =>
    match Registry.adding stub seen.value with
    | .ok _ => .asking (.add stub)
    | .error e => .served (.added (.error e))
  | .finished result => .served (.added (discard result))

def removePhase (stub : Stub) : Update (List Stub) Empty → Phase Registry.Op Registry.Reply
  | .start => .asking (.remove stub)
  | .working seen =>
    match Registry.removing stub seen.value with
    | .ok none => .served (.removed false)
    | .ok (some _) => .asking (.remove stub)
  | .finished (.ok wasThere) => .served (.removed wasThere)

def phase : Call → Phase Registry.Op Registry.Reply
  | .add stub update => addPhase stub update
  | .remove stub update | .find _ _ (.removing stub update) => removePhase stub update
  | .clear false => .asking .clear
  | .clear true => .served .cleared
  | .getAll none => .asking .getAll
  | .getAll (some stubs) => .served (.listed stubs)
  | .find _ _ (.finished (some stub)) => if stub.configuration.removeAfterMatch then .answered else .idle
  | _ => .idle

/-- What a step of call number `n` means for the others: nothing, that it takes effect, that it calls, or
that it has got its answer. -/
inductive Shows (n : Nat) (stubs stubs' : Set Stub) (before after : Phase Registry.Op Registry.Reply) :
    List (Moment Registry.Op Registry.Reply) → Prop
  | nothing (hp : after = before) (hs : stubs' = stubs) : Shows n stubs stubs' before after []
  | effect {op : Registry.Op} {reply : Registry.Reply} (hb : before = .asking op)
      (ha : after = .served reply) (he : stubSet.effect stubs op reply stubs') :
      Shows n stubs stubs' before after []
  | call {op : Registry.Op} (hb : before = .idle) (ha : after = .asking op) (hs : stubs' = stubs) :
      Shows n stubs stubs' before after [.called n op]
  | answer {reply : Registry.Reply} (hb : before = .served reply) (ha : after = .answered)
      (hs : stubs' = stubs) : Shows n stubs stubs' before after [.answered n reply]

variable {known : List Stub} {stub : Stub} {n : Nat} {cell cell' : Cell (List Stub)}

theorem addPhase_working {seen : Cell (List Stub)} {next : Option (List Stub)}
    (h : Registry.adding stub seen.value = .ok next) :
    addPhase stub (.working seen) = .asking (.add stub) := by
  simp only [addPhase, h]

theorem removePhase_working {seen : Cell (List Stub)} {next : List Stub}
    (h : Registry.removing stub seen.value = .ok (some next)) :
    removePhase stub (.working seen) = .asking (.remove stub) := by
  simp only [removePhase, h]

/-- Loading the list is the instant of an addition that will be refused. -/
theorem shows_load_add (hl : Tidy known cell.value) (hstub : stub ∈ known) :
    Shows n (members cell.value) (members cell.value) (.asking (.add stub))
      (addPhase stub (.working cell)) [] := by
  cases h : Registry.adding stub cell.value with
  | ok next => exact .nothing (addPhase_working h) rfl
  | error e =>
    obtain ⟨hmem, rfl⟩ := Registry.adding_eq_error hl hstub h
    refine .effect rfl ?_ (.inl ⟨hmem, rfl, rfl⟩)
    simp only [addPhase, h]

theorem shows_add {update update' : Update (List Stub) StubError} (hl : Tidy known cell.value)
    (hstub : stub ∈ known) (hr : update.Recent cell)
    (h : Update.Moves (Registry.adding stub) cell update cell' update') :
    Shows n (members cell.value) (members cell'.value) (addPhase stub update) (addPhase stub update')
      [] := by
  cases h with
  | load => exact shows_load_add hl hstub
  | fail h =>
    refine .nothing ?_ rfl
    simp only [addPhase, h]
    rfl
  | skip h => exact absurd h (Registry.adding_ne_none _ _)
  | publish h hv =>
    obtain rfl := hr.eq_of_publish hv
    have hin := Registry.adding_eq_some hl hstub h
    exact .effect (addPhase_working h) rfl (.inr ⟨hin.not_mem, rfl, members_of_inserted hin⟩)
  | retry h =>
    rw [addPhase_working h]
    exact shows_load_add hl hstub
  | stay => exact .nothing rfl rfl

theorem shows_load_remove (hl : Tidy known cell.value) (hstub : stub ∈ known) :
    Shows n (members cell.value) (members cell.value) (.asking (.remove stub))
      (removePhase stub (.working cell)) [] := by
  obtain ⟨hn, h⟩ | ⟨next, h, _⟩ := Registry.removing_spec hl hstub
  · refine .effect rfl ?_ (.inr ⟨hn, rfl, rfl⟩)
    simp only [removePhase, h]
  · exact .nothing (removePhase_working h) rfl

theorem shows_remove {update update' : Update (List Stub) Empty} (hl : Tidy known cell.value)
    (hstub : stub ∈ known) (hr : update.Recent cell)
    (h : Update.Moves (Registry.removing stub) cell update cell' update') :
    Shows n (members cell.value) (members cell'.value) (removePhase stub update)
      (removePhase stub update') [] := by
  cases h with
  | load => exact shows_load_remove hl hstub
  | fail h => cases h
  | skip h =>
    refine .nothing ?_ rfl
    simp only [removePhase, h]
  | publish h hv =>
    obtain rfl := hr.eq_of_publish hv
    have hdel := Registry.removing_eq_some hl hstub h
    exact .effect (removePhase_working h) rfl (.inl ⟨hdel.mem, rfl, members_of_deleted hdel⟩)
  | retry h =>
    rw [removePhase_working h]
    exact shows_load_remove hl hstub
  | stay => exact .nothing rfl rfl

theorem phase_of_isScanning (request : Nat) (q : Find.Query) {search : Find} (h : search.isScanning) :
    (Call.find request q search).phase = .idle := by
  cases search with
  | scanning | reading => rfl
  | start | queued | counting | removing | finished | escaped => cases h

theorem moments_of_isScanning (request : Nat) (q : Find.Query) {search : Find} (h : search.isScanning)
    (call : Call) : (Call.find request q search).moments n call = [] := by
  cases search with
  | scanning | reading => rfl
  | start | queued | counting | removing | finished | escaped => cases h

variable {g g' : Registry} {call call' : Call}

theorem Moves.shows (h : Moves g call g' call') (hl : Tidy known g.list) (hn : call.stubs ⊆ known)
    (hr : call.Recent g.stubs) (ho : call.RemovesOnce) (n : Nat) :
    Shows n (members g.list) (members g'.list) call.phase call'.phase (call.moments n call') := by
  cases h with
  | add h => exact shows_add hl (hn List.mem_cons_self) hr h
  | remove h => exact shows_remove hl (hn List.mem_cons_self) hr h
  | clear => exact .effect rfl rfl ⟨rfl, Set.eq_empty_of_forall_notMem fun s hs => nomatch hs⟩
  | getAll => exact .effect rfl rfl ⟨rfl, g.list, rfl, hl.sorted, fun s => Iff.rfl⟩
  | find request h =>
    rename_i q search search'
    cases h with
    | enter | wait | load => exact .nothing rfl rfl
    | scan hf hf' =>
      rw [moments_of_isScanning request q hf, phase_of_isScanning request q hf]
      obtain hf' | ⟨stub, rfl⟩ := hf'
      · exact .nothing (phase_of_isScanning request q hf') rfl
      · exact .nothing rfl rfl
    | miss hf hf' =>
      rw [moments_of_isScanning request q hf, phase_of_isScanning request q hf]
      obtain rfl | ⟨reason, rfl⟩ := hf' <;> exact .nothing rfl rfl
    | count => exact .call rfl rfl rfl
    | serve hkeep =>
      refine .nothing ?_ rfl
      simp only [phase, hkeep]
      rfl
    | @remove _ update _ _ hu h =>
      have hrecent : update.Recent g.stubs := hr
      cases update with
      | finished result => exact absurd rfl (hu result)
      | start | working => exact shows_remove hl (hn List.mem_cons_self) hrecent h
    | depart stub result =>
      cases result with
      | error e => cases e
      | ok wasThere => exact .answer rfl (if_pos ho) rfl
    | stay hf =>
      cases search with
      | finished | escaped => exact .nothing rfl rfl
      | start | queued | scanning | reading | counting | removing => cases hf
  | cleared | listed | abandoned => exact .nothing rfl rfl

theorem Moves.shows_of_reply {reply : Registry.Reply} (h : Moves g call g' call')
    (hr : call.reply? = some reply) :
    call' = call ∧ call.moments n call' = [] ∧ members g'.list = members g.list := by
  cases h with
  | add h =>
    cases h with
    | stay => exact ⟨rfl, rfl, rfl⟩
    | load | fail | skip | publish | retry => cases hr
  | remove h =>
    cases h with
    | stay => exact ⟨rfl, rfl, rfl⟩
    | load | fail | skip | publish | retry => cases hr
  | cleared | listed => exact ⟨rfl, rfl, rfl⟩
  | clear | getAll | find | abandoned => cases hr

theorem phase_of_reply {reply : Registry.Reply} (h : call.reply? = some reply) :
    call.phase = .served reply := by
  cases call with
  | add stub update =>
    cases update with
    | finished result =>
      obtain rfl := Option.some.inj h
      rfl
    | start | working => cases h
  | remove stub update =>
    cases update with
    | finished result =>
      cases result with
      | ok wasThere =>
        obtain rfl := Option.some.inj h
        rfl
      | error e => cases e
    | start | working => cases h
  | clear isDone =>
    cases isDone with
    | true =>
      obtain rfl := Option.some.inj h
      rfl
    | false => cases h
  | getAll seen =>
    cases seen with
    | some stubs =>
      obtain rfl := Option.some.inj h
      rfl
    | none => cases h
  | find | abandoned => cases h

end Call

namespace Traffic

variable {t t' : Traffic}

def phase (t : Traffic) (n : Nat) : Phase Registry.Op Registry.Reply :=
  if n ∈ t.answered then .answered else (t.calls[n]?.map Call.phase).getD .idle

/-- The history is one of a list that one caller at a time uses, and only calls that are finished
have been answered. -/
structure Explained (t : Traffic) : Prop where
  atomic : Atomic stubSet t.history (members t.registry.list) t.phase
  answered : ∀ n ∈ t.answered, ∃ call reply, t.calls[n]? = some call ∧ call.reply? = some reply

theorem atomic_of_shows {history : List (Moment Registry.Op Registry.Reply)} {stubs stubs' : Set Stub}
    {phases : Nat → Phase Registry.Op Registry.Reply} {n : Nat}
    {after : Phase Registry.Op Registry.Reply} {moments : List (Moment Registry.Op Registry.Reply)}
    (h : Atomic stubSet history stubs phases)
    (hs : Call.Shows n stubs stubs' (phases n) after moments) :
    Atomic stubSet (history ++ moments) stubs' (Function.update phases n after) := by
  cases hs with
  | nothing hp hs =>
    subst hp hs
    rwa [List.append_nil, Function.update_eq_self]
  | effect hb ha he =>
    subst ha
    rw [List.append_nil]
    exact .effect h hb he
  | call hb ha hs =>
    subst ha hs
    exact .call _ h hb
  | answer hb ha hs =>
    subst ha hs
    exact .answer h hb

theorem phase_of_getElem? {n : Nat} {call : Call} (hn : n ∉ t.answered)
    (hget : t.calls[n]? = some call) :
    t.phase n = call.phase := by
  rw [phase, if_neg hn, hget]
  rfl

theorem phase_eq_update {n : Nat} {phase : Phase Registry.Op Registry.Reply} (hn : t'.phase n = phase)
    (hrest : ∀ m, m ≠ n → t'.calls[m]? = t.calls[m]? ∧ (m ∈ t'.answered ↔ m ∈ t.answered)) :
    t'.phase = Function.update t.phase n phase := by
  funext m
  by_cases hm : m = n
  · subst hm
    rw [hn, Function.update_self]
  · obtain ⟨hcalls, hanswered⟩ := hrest m hm
    rw [Function.update_of_ne hm, Traffic.phase, Traffic.phase, hcalls]
    simp only [hanswered]

theorem phase_set {n : Nat} {call call' : Call} (hget : t.calls[n]? = some call) (hn : n ∉ t.answered)
    (hc : t'.calls = t.calls.set n call') (ha : t'.answered = t.answered) :
    t'.phase = Function.update t.phase n call'.phase := by
  have hlt := (List.getElem?_eq_some_iff.mp hget).1
  refine phase_eq_update (phase_of_getElem? (ha ▸ hn) ?_) fun m hm => ⟨?_, by rw [ha]⟩
  · rw [hc, List.getElem?_set_self hlt]
  · rw [hc, List.getElem?_set_ne hm.symm]

theorem phase_concat {call : Call} (hn : t.calls.length ∉ t.answered) (hc : t'.calls = t.calls ++ [call])
    (ha : t'.answered = t.answered) : t'.phase = Function.update t.phase t.calls.length call.phase := by
  refine phase_eq_update (phase_of_getElem? (ha ▸ hn) ?_) fun m hm => ⟨?_, by rw [ha]⟩
  · rw [hc, List.getElem?_concat_length]
  · rw [hc]
    obtain hlt | hgt := Nat.lt_or_gt_of_ne hm
    · exact List.getElem?_append_left hlt
    · have hle : (t.calls ++ [call]).length ≤ m := by
        rw [List.length_append, List.length_singleton]
        omega
      rw [List.getElem?_eq_none hle, List.getElem?_eq_none (Nat.le_of_lt hgt)]

theorem Opens.shows {call : Call} (h : t.Opens call) (n : Nat) (stubs : Set Stub) :
    Call.Shows n stubs stubs .idle call.phase (call.op?.map (.called n)).toList := by
  cases h with
  | add | remove | clear | getAll => exact .call rfl rfl rfl
  | find => exact .nothing rfl rfl

theorem explained_of_set {n : Nat} {call call' : Call}
    {moments : List (Moment Registry.Op Registry.Reply)} (h : t.Explained)
    (hget : t.calls[n]? = some call) (hn : n ∉ t.answered)
    (hs : Call.Shows n (members t.registry.list) (members t'.registry.list)
      call.phase call'.phase moments)
    (hh : t'.history = t.history ++ moments) (hc : t'.calls = t.calls.set n call')
    (ha : t'.answered = t.answered) : t'.Explained := by
  refine ⟨?_, fun m hm => ?_⟩
  · rw [hh, phase_set hget hn hc ha]
    rw [← phase_of_getElem? hn hget] at hs
    exact atomic_of_shows h.atomic hs
  · rw [ha] at hm
    obtain ⟨c, reply, hcall, hr⟩ := h.answered m hm
    have hne : m ≠ n := fun he => hn (he ▸ hm)
    exact ⟨c, reply, by rw [hc, List.getElem?_set_ne hne.symm, hcall], hr⟩

theorem explained_of_concat {call : Call} (h : t.Explained) (ho : t.Opens call)
    (hh : t'.history = t.history ++ (call.op?.map (.called t.calls.length)).toList)
    (hr : t'.registry = t.registry) (hc : t'.calls = t.calls ++ [call]) (ha : t'.answered = t.answered) :
    t'.Explained := by
  have hlast : t.calls[t.calls.length]? = none := List.getElem?_eq_none (Nat.le_refl _)
  have hn : t.calls.length ∉ t.answered := by
    intro hmem
    obtain ⟨c, _, hcall, _⟩ := h.answered _ hmem
    rw [hlast] at hcall
    cases hcall
  have hidle : t.phase t.calls.length = .idle := by
    rw [phase, if_neg hn, hlast]
    rfl
  refine ⟨?_, fun m hm => ?_⟩
  · rw [hh, hr, phase_concat hn hc ha]
    have hs := ho.shows t.calls.length (members t.registry.list)
    rw [← hidle] at hs
    exact atomic_of_shows h.atomic hs
  · rw [ha] at hm
    obtain ⟨c, reply, hcall, hreply⟩ := h.answered m hm
    refine ⟨c, reply, ?_, hreply⟩
    rw [hc, List.getElem?_append_left (List.getElem?_eq_some_iff.mp hcall).1, hcall]

theorem explained_of_answer {n : Nat} {call : Call} {reply : Registry.Reply} (h : t.Explained)
    (hget : t.calls[n]? = some call) (hreply : call.reply? = some reply) (hn : n ∉ t.answered)
    (hh : t'.history = t.history ++ [.answered n reply]) (hr : t'.registry = t.registry)
    (hc : t'.calls = t.calls) (ha : t'.answered = n :: t.answered) : t'.Explained := by
  have hserved : t.phase n = .served reply :=
    (phase_of_getElem? hn hget).trans (Call.phase_of_reply hreply)
  have hanswered : t'.phase n = .answered := by
    rw [phase, ha, if_pos List.mem_cons_self]
  have hphase : t'.phase = Function.update t.phase n .answered := by
    refine phase_eq_update hanswered fun m hm => ⟨by rw [hc], ?_⟩
    rw [ha, List.mem_cons, or_iff_right hm]
  refine ⟨?_, fun m hm => ?_⟩
  · rw [hh, hr, hphase]
    exact .answer h.atomic hserved
  · rw [hc]
    rw [ha, List.mem_cons] at hm
    obtain rfl | hm := hm
    · exact ⟨call, reply, hget, hreply⟩
    · exact h.answered m hm

theorem explained_of_eq (h : t.Explained) (hh : t'.history = t.history)
    (hm : members t'.registry.list = members t.registry.list) (hc : t'.calls = t.calls)
    (ha : t'.answered = t.answered) : t'.Explained := by
  have hphase : t'.phase = t.phase := by
    funext m
    rw [phase, phase, hc, ha]
  refine ⟨?_, ?_⟩
  · rw [hh, hm, hphase]
    exact h.atomic
  · rw [hc, ha]
    exact h.answered

theorem not_answered_of_reply {n : Nat} {call : Call} (h : t.Explained) (hget : t.calls[n]? = some call)
    (hr : call.reply? = none) : n ∉ t.answered := by
  intro hmem
  obtain ⟨c, reply, hc, hreply⟩ := h.answered n hmem
  rw [hget, Option.some.injEq] at hc
  rw [← hc, hr] at hreply
  cases hreply

theorem explained_advance (h : t.Explained) (hs : t.Sound) (n : Nat) :
    (t.step (.advance n)).Explained := by
  cases hget : t.calls[n]? with
  | none =>
    simp only [step, hget]
    exact h
  | some call =>
    have hm := Call.moves_step t.toShared call
    simp only [step, hget]
    by_cases hn : n ∈ t.answered
    · obtain ⟨c, reply, hc, hr⟩ := h.answered n hn
      rw [hget, Option.some.injEq] at hc
      subst hc
      obtain ⟨hcall, hmoments, hmembers⟩ := hm.shows_of_reply (n := n) hr
      refine explained_of_eq h ?_ hmembers ?_ rfl
      · rw [hmoments, List.append_nil]
      · obtain ⟨hlt, he⟩ := List.getElem?_eq_some_iff.mp hget
        rw [hcall, ← he]
        exact List.set_getElem_self hlt
    · have hshows := hm.shows hs.tidy (hs.inHand n call hget) (hs.recent n call hget)
        (hs.removesOnce n call hget) n
      exact explained_of_set h hget hn hshows rfl rfl rfl

theorem explained_abandon (h : t.Explained) (n : Nat) : (t.step (.abandon n)).Explained := by
  simp only [step]
  split
  · rename_i request q search hget
    split
    · rename_i hw
      have hidle : (Call.find request q search).phase = .idle := by
        cases search with
        | start | queued | reading => rfl
        | scanning | counting | removing | finished | escaped => cases hw
      have hshows : Call.Shows n (members t.registry.list) (members t.registry.list)
          (Call.find request q search).phase Call.abandoned.phase [] := .nothing hidle.symm rfl
      exact explained_of_set h hget (not_answered_of_reply h hget rfl) hshows (List.append_nil _).symm
        rfl rfl
    · exact h
  · exact h

theorem explained_step (h : t.Explained) (hs : t.Sound) (event : Event) : (t.step event).Explained := by
  cases event with
  | create | disturb => exact explained_of_eq h rfl rfl rfl rfl
  | call task =>
    cases ho : t.opening task with
    | none =>
      simp only [step, ho]
      exact h
    | some call =>
      simp only [step, ho]
      exact explained_of_concat h (opens_of_opening ho) rfl rfl rfl rfl
  | advance n => exact explained_advance h hs n
  | abandon n => exact explained_abandon h n
  | answer n =>
    simp only [step]
    split
    · rename_i reply hreply
      obtain ⟨call, hget, hr⟩ := Option.bind_eq_some_iff.mp hreply
      split
      · exact h
      · rename_i hn
        exact explained_of_answer h hget hr hn rfl rfl rfl rfl
    · exact h

theorem explained_start (requests : Nat → Request) : (start requests).Explained := by
  have hphase : (start requests).phase = fun _ => .idle := by
    funext n
    rfl
  have hmembers : members (start requests).registry.list = ∅ :=
    Set.eq_empty_of_forall_notMem fun s hs => nomatch hs
  refine ⟨?_, fun n hn => ?_⟩
  · rw [hphase, hmembers]
    exact .start
  · cases hn

theorem explained_run (requests : Nat → Request) (events : List Event) :
    (run requests events).Explained := by
  have hstart : (start requests).Sound ∧ (start requests).Explained :=
    ⟨sound_start requests, explained_start requests⟩
  refine (List.foldlRecOn (motive := fun t => t.Sound ∧ t.Explained) events step hstart ?_).2
  exact fun t h event _ => ⟨sound_step h.1 event, explained_step h.2 h.1 event⟩

/-- Whatever the order of events, the list is in order, and the history of additions, removals, clearings
and listings is that of a set of stubs which one caller at a time uses. -/
theorem linearizable (requests : Nat → Request) (events : List Event) :
    Sorted (run requests events).registry.list ∧ ∃ order,
      Linearizes stubSet (run requests events).history
      order (members (run requests events).registry.list) := by
  refine ⟨(sound_run requests events).sorted, ?_⟩
  obtain ⟨order, h, _⟩ := (explained_run requests events).atomic.linearizes
  exact ⟨order, h⟩

end Traffic

end StubServer
