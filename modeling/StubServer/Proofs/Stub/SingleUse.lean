import StubServer.Proofs.Stub.Turns

namespace StubServer

open Stub (Sorted Distinct Tidy)

namespace Call

/-- The call is a find that has come back with the stub. Stubs go by their numbers. -/
def returns (stub : Stub) : Call → Bool
  | .find _ _ (.finished (some s)) => s.created = stub.created
  | _ => false

/-- The call has put the stub into the list. -/
def adds (stub : Stub) : Call → Bool
  | .add s (.finished (.ok true)) => s.created = stub.created
  | _ => false

def holds (stub : Stub) : Call → Prop
  | .find _ _ search => search.isSearching ∧ stub ∈ search.held
  | _ => False

def isSpent (stub : Stub) : Update (List Stub) Empty → Prop
  | .start => False
  | .working seen => stub ∉ seen.value
  | .finished _ => True

def hasSpent (stub : Stub) : Call → Prop
  | .find _ _ (.removing s update) => s = stub ∧ isSpent stub update
  | _ => False

theorem isSearching_of_holds {stub : Stub} {call : Call} (h : call.holds stub) : call.isSearching := by
  cases call with
  | find request q search => exact h.1
  | add | remove | clear | getAll | abandoned => cases h

theorem holds_of_hasSpent {stub : Stub} {call : Call} (h : call.hasSpent stub) : call.holds stub := by
  cases call with
  | find request q search =>
    cases search with
    | removing s update =>
      obtain ⟨rfl, _⟩ := h
      exact ⟨rfl, List.mem_cons_self⟩
    | start | queued | scanning | reading | counting | finished | escaped => cases h
  | add | remove | clear | getAll | abandoned => cases h

theorem returns_of_isSearching (stub : Stub) (request : Nat) (q : Find.Query) {search : Find}
    (h : search.isSearching) : (Call.find request q search).returns stub = false := by
  cases search with
  | scanning | reading | counting | removing => rfl
  | start | queued | finished | escaped => cases h

theorem not_hasSpent_of_isScanning {stub : Stub} {request : Nat} {q : Find.Query} {search : Find}
    (h : search.isScanning) : ¬(Call.find request q search).hasSpent stub := by
  cases search with
  | scanning | reading => exact id
  | start | queued | counting | removing | finished | escaped => cases h

/-- What a step of a call does about the stub: nothing that matters, it puts it into the list, or it
comes back with it. -/
inductive Deals (stub : Stub) (stubs stubs' : List Stub) (call call' : Call) : Prop
  | plain (hret : call'.returns stub = call.returns stub) (hadd : call'.adds stub = call.adds stub)
      (hlist : stub ∈ stubs' → stub ∈ stubs) (hheld : call'.holds stub → call.holds stub ∨ stub ∈ stubs)
      (hspent : call'.hasSpent stub → stub ∈ stubs' → call.hasSpent stub)
  | adds (hret : call.returns stub = false) (hadd : call.adds stub = false) (hnot : stub ∉ stubs)
      (hret' : call'.returns stub = false) (hadd' : call'.adds stub) (hheld : ¬call'.holds stub)
      (hspent : ¬call'.hasSpent stub)
  | uses (hret : call.returns stub = false) (hadd : call.adds stub = false) (hheld : call.holds stub)
      (hspent : call.hasSpent stub) (hret' : call'.returns stub) (hadd' : call'.adds stub = false)
      (hheld' : ¬call'.holds stub) (hlist : stub ∈ stubs' → stub ∈ stubs)

variable {g g' : Registry} {call call' : Call} {known : List Stub} {stub s : Stub}

theorem deals_add {update update' : Update (List Stub) StubError} {stubs : Cell (List Stub)}
    (hl : Tidy known g.list) (hstub : stub ∈ known) (hs : s ∈ known) (hr : update.Recent g.stubs)
    (h : Update.Moves (Registry.adding s) g.stubs update stubs update') :
    Deals stub g.list stubs.value (.add s update) (.add s update') := by
  cases h with
  | load | fail | skip | retry | stay => exact .plain rfl rfl id .inl fun h _ => h
  | publish h hv =>
    obtain rfl := hr.eq_of_publish hv
    have hin := Registry.adding_eq_some hl hs h
    by_cases he : s = stub
    · subst he
      exact .adds rfl rfl hin.not_mem rfl (decide_eq_true rfl) id id
    · have hne : s.created ≠ stub.created := fun hc => he (hl.distinct s hs stub hstub hc)
      refine .plain rfl (decide_eq_false hne) (fun hmem => ?_) .inl fun h _ => h
      exact ((hin.mem_iff stub).mp hmem).resolve_left (Ne.symm he)

theorem deals_remove {update update' : Update (List Stub) Empty} {stubs : Cell (List Stub)}
    (hl : Tidy known g.list) (hs : s ∈ known) (hr : update.Recent g.stubs)
    (h : Update.Moves (Registry.removing s) g.stubs update stubs update') :
    Deals stub g.list stubs.value (.remove s update) (.remove s update') := by
  cases h with
  | load | fail | skip | retry | stay => exact .plain rfl rfl id .inl fun h _ => h
  | publish h hv =>
    obtain rfl := hr.eq_of_publish hv
    have hdel := Registry.removing_eq_some hl hs h
    exact .plain rfl rfl (fun hmem => ((hdel.mem_iff stub).mp hmem).1) .inl fun h _ => h

/-- A find that has taken out its match leaves it alone, although others may put it back. -/
theorem deals_use {request : Nat} {q : Find.Query} {update update' : Update (List Stub) Empty}
    {stubs : Cell (List Stub)} (hl : Tidy known g.list) (hs : s ∈ known) (hr : update.Recent g.stubs)
    (hu : ∀ result, update ≠ .finished result)
    (h : Update.Moves (Registry.removing s) g.stubs update stubs update') :
    Deals stub g.list stubs.value (.find request q (.removing s update))
      (.find request q (.removing s update')) := by
  cases h with
  | load | retry => exact .plain rfl rfl id .inl fun ⟨_, h⟩ hmem => absurd hmem h
  | fail h => cases h
  | skip h =>
    refine .plain rfl rfl id .inl fun ⟨he, _⟩ _ => ⟨he, ?_⟩
    subst he
    exact Registry.not_mem_of_removing_eq_none h
  | publish h hv =>
    obtain rfl := hr.eq_of_publish hv
    have hdel := Registry.removing_eq_some hl hs h
    refine .plain rfl rfl (fun hmem => ((hdel.mem_iff stub).mp hmem).1) .inl fun ⟨he, _⟩ hmem => ?_
    exact absurd he.symm ((hdel.mem_iff stub).mp hmem).2
  | stay result => exact absurd rfl (hu result)

theorem Moves.deals (h : Moves g call g' call') (hl : Tidy known g.list) (hn : call.stubs ⊆ known)
    (hr : call.Recent g.stubs) (hstub : stub ∈ known) (honce : stub.configuration.removeAfterMatch) :
    Deals stub g.list g'.list call call' := by
  cases h with
  | add h => exact deals_add hl hstub (hn List.mem_cons_self) hr h
  | remove h => exact deals_remove hl (hn List.mem_cons_self) hr h
  | clear => exact .plain rfl rfl (fun hmem => nomatch hmem) .inl fun h _ => h
  | getAll | cleared | listed | abandoned => exact .plain rfl rfl id .inl fun h _ => h
  | find request h =>
    rename_i q search search'
    cases h with
    | enter | wait => exact .plain rfl rfl id .inl fun h _ => h
    | load => exact .plain rfl rfl id (fun h => .inr h.2) fun h _ => h.elim
    | count => exact .plain rfl rfl id .inl fun h _ => h.2.elim
    | stay => exact .plain rfl rfl id .inl fun h _ => h
    | scan hf hf' hheld =>
      have hin := Find.isSearching_of_isScanning hf
      have hret := returns_of_isSearching stub request q hin
      obtain hf' | ⟨s, rfl⟩ := hf'
      · have hret' := returns_of_isSearching stub request q (Find.isSearching_of_isScanning hf')
        exact .plain (hret'.trans hret.symm) rfl id (fun h => .inl ⟨hin, hheld h.2⟩) fun h _ =>
          absurd h (not_hasSpent_of_isScanning hf')
      · exact .plain hret.symm rfl id (fun h => .inl ⟨hin, hheld h.2⟩) fun h _ => h.elim
    | miss hf hf' =>
      have hret := returns_of_isSearching stub request q (Find.isSearching_of_isScanning hf)
      obtain rfl | ⟨reason, rfl⟩ := hf' <;>
        exact .plain hret.symm rfl id (fun h => nomatch h) fun h _ => h.elim
    | serve hkeep =>
      rename_i s
      have hne : s.created ≠ stub.created := by
        intro hc
        obtain rfl := hl.distinct s (hn List.mem_cons_self) stub hstub hc
        rw [honce] at hkeep
        cases hkeep
      exact .plain (decide_eq_false hne) rfl id (fun h => nomatch h) fun h _ => h.elim
    | remove hu h => exact deals_use hl (hn List.mem_cons_self) hr hu h
    | depart s =>
      by_cases hc : s.created = stub.created
      · obtain rfl := hl.distinct s (hn List.mem_cons_self) stub hstub hc
        exact .uses rfl rfl ⟨rfl, List.mem_cons_self⟩ ⟨rfl, trivial⟩ (decide_eq_true rfl) rfl
          (fun h => nomatch h) id
      · exact .plain (decide_eq_false hc) rfl id (fun h => nomatch h) fun h _ => h.elim

end Call

namespace Traffic

variable {t t' : Traffic} {stub : Stub}

def timesReturned (t : Traffic) (stub : Stub) : Nat := t.calls.countP (·.returns stub)

def timesAdded (t : Traffic) (stub : Stub) : Nat := t.calls.countP (·.adds stub)

/-- The stub has been put into the list more often than finds have come back with it, as long as it
is there or a find may come back with it; and once more when both is the case although the find has
done with the list. -/
structure Covered (t : Traffic) (stub : Stub) : Prop where
  returned : t.timesReturned stub ≤ t.timesAdded stub
  listed : stub ∈ t.registry.list → t.timesReturned stub < t.timesAdded stub
  held : ∀ (n : Nat) (call : Call), t.calls[n]? = some call → call.holds stub →
    t.timesReturned stub < t.timesAdded stub
  spent : ∀ (n : Nat) (call : Call), t.calls[n]? = some call → call.hasSpent stub →
    stub ∈ t.registry.list → t.timesReturned stub + 1 < t.timesAdded stub

theorem countP_set_of_getElem? {α : Type} {l : List α} {n : Nat} {a b : α} (p : α → Bool)
    (h : l[n]? = some a) :
    (l.set n b).countP p + (if p a then 1 else 0) = l.countP p + if p b then 1 else 0 := by
  obtain ⟨hlt, rfl⟩ := List.getElem?_eq_some_iff.mp h
  rw [List.countP_set hlt]
  by_cases hp : p l[n]
  · have hpos : 0 < l.countP p := List.countP_pos_iff.mpr ⟨l[n], List.getElem_mem hlt, hp⟩
    rw [if_pos hp]
    omega
  · rw [if_neg hp]
    omega

section

variable {n : Nat} {call call' : Call} (hn : t.calls[n]? = some call)
  (hc : t'.calls = t.calls.set n call')

include hn hc

theorem timesReturned_set (stub : Stub) : t'.timesReturned stub + (if call.returns stub then 1 else 0) =
    t.timesReturned stub + if call'.returns stub then 1 else 0 := by
  rw [timesReturned, hc]
  exact countP_set_of_getElem? _ hn

theorem timesAdded_set (stub : Stub) : t'.timesAdded stub + (if call.adds stub then 1 else 0) =
    t.timesAdded stub + if call'.adds stub then 1 else 0 := by
  rw [timesAdded, hc]
  exact countP_set_of_getElem? _ hn

theorem covered_of_plain (h : t.Covered stub)
    (hret : call'.returns stub = call.returns stub) (hadd : call'.adds stub = call.adds stub)
    (hlist : stub ∈ t'.registry.list → stub ∈ t.registry.list)
    (hheld : call'.holds stub → call.holds stub ∨ stub ∈ t.registry.list)
    (hspent : call'.hasSpent stub → stub ∈ t'.registry.list → call.hasSpent stub) :
    t'.Covered stub := by
  have hr : t'.timesReturned stub = t.timesReturned stub := by
    have hset := timesReturned_set hn hc stub
    rw [hret] at hset
    omega
  have ha : t'.timesAdded stub = t.timesAdded stub := by
    have hset := timesAdded_set hn hc stub
    rw [hadd] at hset
    omega
  refine ⟨?_, fun hmem => ?_, fun m c hm hh => ?_, fun m c hm hs hmem => ?_⟩ <;> rw [hr, ha]
  · exact h.returned
  · exact h.listed (hlist hmem)
  · obtain ⟨rfl, rfl⟩ | ⟨_, hm⟩ := getElem?_set_cases (hc ▸ hm)
    · exact (hheld hh).elim (h.held m call hn) h.listed
    · exact h.held m c hm hh
  · obtain ⟨rfl, rfl⟩ | ⟨_, hm⟩ := getElem?_set_cases (hc ▸ hm)
    · exact h.spent m call hn (hspent hs hmem) (hlist hmem)
    · exact h.spent m c hm hs (hlist hmem)

theorem covered_of_adds (h : t.Covered stub) (hret : call.returns stub = false)
    (hadd : call.adds stub = false) (hret' : call'.returns stub = false) (hadd' : call'.adds stub)
    (hspent : ¬call'.hasSpent stub) : t'.Covered stub := by
  have hr : t'.timesReturned stub = t.timesReturned stub := by
    have hset := timesReturned_set hn hc stub
    rwa [hret, hret'] at hset
  have ha : t'.timesAdded stub = t.timesAdded stub + 1 := by
    have hset := timesAdded_set hn hc stub
    rwa [hadd, hadd'] at hset
  have hle := h.returned
  refine ⟨by omega, fun _ => by omega, fun m c hm hh => by omega, fun m c hm hs _ => ?_⟩
  obtain ⟨rfl, rfl⟩ | ⟨_, hm⟩ := getElem?_set_cases (hc ▸ hm)
  · exact absurd hs hspent
  · have hlt := h.held m c hm (Call.holds_of_hasSpent hs)
    omega

theorem not_holds_of_served (ho : t.Orderly) (hheld : call.holds stub)
    (hheld' : ¬call'.holds stub) {m : Nat} {c : Call} (hm : t'.calls[m]? = some c) :
    ¬c.holds stub := by
  intro hh
  obtain ⟨rfl, rfl⟩ | ⟨hmn, hm⟩ := getElem?_set_cases (hc ▸ hm)
  · exact hheld' hh
  · exact hmn (ho.eq_of_searching hm (Call.isSearching_of_holds hh) hn
      (Call.isSearching_of_holds hheld))

theorem covered_of_uses (h : t.Covered stub) (ho : t.Orderly)
    (hret : call.returns stub = false) (hadd : call.adds stub = false) (hheld : call.holds stub)
    (hspent : call.hasSpent stub) (hret' : call'.returns stub) (hadd' : call'.adds stub = false)
    (hheld' : ¬call'.holds stub) (hlist : stub ∈ t'.registry.list → stub ∈ t.registry.list) :
    t'.Covered stub := by
  have hr : t'.timesReturned stub = t.timesReturned stub + 1 := by
    have hset := timesReturned_set hn hc stub
    rwa [hret, hret'] at hset
  have ha : t'.timesAdded stub = t.timesAdded stub := by
    have hset := timesAdded_set hn hc stub
    rwa [hadd, hadd'] at hset
  -- No other find can hold the stub, because this one had its turn.
  have hnone : ∀ (m : Nat) (c : Call), t'.calls[m]? = some c → ¬c.holds stub :=
    fun m c hm => not_holds_of_served hn hc ho hheld hheld' hm
  have hlt := h.held n call hn hheld
  refine ⟨by omega, fun hmem => ?_, fun m c hm hh => absurd hh (hnone m c hm), fun m c hm hs _ =>
    absurd (Call.holds_of_hasSpent hs) (hnone m c hm)⟩
  have hlt' := h.spent n call hn hspent (hlist hmem)
  omega

theorem covered_of_deals (h : t.Covered stub) (ho : t.Orderly)
    (hd : Call.Deals stub t.registry.list t'.registry.list call call') : t'.Covered stub := by
  cases hd with
  | plain hret hadd hlist hheld hspent =>
    exact covered_of_plain hn hc h hret hadd hlist hheld hspent
  | adds hret hadd _ hret' hadd' _ hspent => exact covered_of_adds hn hc h hret hadd hret' hadd' hspent
  | uses hret hadd hheld hspent hret' hadd' hheld' hlist =>
    exact covered_of_uses hn hc h ho hret hadd hheld hspent hret' hadd' hheld' hlist

end

theorem Opens.returns {call : Call} (h : t.Opens call) : call.returns stub = false := by
  cases h <;> rfl

theorem Opens.adds {call : Call} (h : t.Opens call) : call.adds stub = false := by
  cases h <;> rfl

theorem Opens.not_holds {call : Call} (h : t.Opens call) : ¬call.holds stub := by
  cases h with
  | add | remove | clear | getAll => exact id
  | find => exact fun h => nomatch h

theorem covered_of_opens {call : Call} (h : t.Covered stub) (ho : t.Opens call)
    (hr : t'.registry = t.registry) (hc : t'.calls = t.calls ++ [call]) : t'.Covered stub := by
  have hret : t'.timesReturned stub = t.timesReturned stub := by
    simp [timesReturned, hc, ho.returns]
  have hadd : t'.timesAdded stub = t.timesAdded stub := by
    simp [timesAdded, hc, ho.adds]
  have hold : ∀ (n : Nat) (c : Call), t'.calls[n]? = some c → c.holds stub → t.calls[n]? = some c := by
    intro n c hn hh
    obtain hn | ⟨_, rfl⟩ := getElem?_concat_cases (hc ▸ hn)
    · exact hn
    · exact absurd hh ho.not_holds
  refine ⟨?_, fun hmem => ?_, fun n c hn hh => ?_, fun n c hn hs hmem => ?_⟩ <;> rw [hret, hadd]
  · exact h.returned
  · exact h.listed (hr ▸ hmem)
  · exact h.held n c (hold n c hn hh) hh
  · exact h.spent n c (hold n c hn (Call.holds_of_hasSpent hs)) hs (hr ▸ hmem)

theorem covered_of_quiet (h : t.Covered stub) (hr : t'.registry = t.registry)
    (hc : t'.calls = t.calls) : t'.Covered stub := by
  have hret : t'.timesReturned stub = t.timesReturned stub := by rw [timesReturned, timesReturned, hc]
  have hadd : t'.timesAdded stub = t.timesAdded stub := by rw [timesAdded, timesAdded, hc]
  refine ⟨?_, fun hmem => ?_, fun n c hn hh => ?_, fun n c hn hs hmem => ?_⟩ <;> rw [hret, hadd]
  · exact h.returned
  · exact h.listed (hr ▸ hmem)
  · exact h.held n c (hc ▸ hn) hh
  · exact h.spent n c (hc ▸ hn) hs (hr ▸ hmem)

theorem covered_step (h : t.Covered stub) (hsound : t.Sound) (ho : t.Orderly)
    (hstub : stub ∈ t.created) (honce : stub.configuration.removeAfterMatch) (event : Event) :
    (t.step event).Covered stub := by
  cases t.moves_step event with
  | quiet hr hc => exact covered_of_quiet h hr hc
  | opens hopen hr hc => exact covered_of_opens h hopen hr hc
  | moves hn hm hc =>
    exact covered_of_deals hn hc h ho
      (hm.deals hsound.tidy (hsound.inHand _ _ hn) (hsound.recent _ _ hn) hstub honce)
  | abandons hn hw hr hc =>
    rename_i n request q search
    have hret : (Call.find request q search).returns stub = false := by
      cases search with
      | finished => cases hw
      | start | queued | scanning | reading | counting | removing | escaped => rfl
    refine covered_of_deals hn hc h ho (.plain hret.symm rfl (fun hmem => ?_) (fun h => h.elim)
      fun h _ => h.elim)
    rw [hr] at hmem
    exact hmem

theorem covered_of_new (hsound : t.Sound) (hnew : stub.created = t.created.length + 1) :
    t.Covered stub := by
  have hold : ∀ s ∈ t.created, s.created ≠ stub.created := by
    intro s hs
    obtain ⟨i, hi⟩ := List.mem_iff_getElem?.mp hs
    have hlt := (List.getElem?_eq_some_iff.mp hi).1
    have hnum := hsound.numbered i s hi
    omega
  have hret : t.timesReturned stub = 0 := by
    refine List.countP_eq_zero.mpr fun call hcall => ?_
    obtain ⟨n, hn⟩ := List.mem_iff_getElem?.mp hcall
    have hin := hsound.inHand n call hn
    cases call with
    | find request q search =>
      cases search with
      | finished found =>
        cases found with
        | none => exact Bool.false_ne_true
        | some s =>
          have hne : s.created ≠ stub.created := hold s (hin List.mem_cons_self)
          exact fun h => hne (of_decide_eq_true h)
      | start | queued | scanning | reading | counting | removing | escaped => exact Bool.false_ne_true
    | add | remove | clear | getAll | abandoned => exact Bool.false_ne_true
  have hnone : ∀ (n : Nat) (call : Call), t.calls[n]? = some call → ¬call.holds stub := by
    intro n call hn hh
    cases call with
    | find request q search => exact hold stub (hsound.inHand n _ hn hh.2) rfl
    | add | remove | clear | getAll | abandoned => exact hh
  exact ⟨by omega, fun hmem => absurd rfl (hold stub (hsound.listed hmem)),
    fun n call hn hh => absurd hh (hnone n call hn),
    fun n call hn hs _ => absurd (Call.holds_of_hasSpent hs) (hnone n call hn)⟩

structure Used (t : Traffic) : Prop where
  sound : t.Sound
  orderly : t.Orderly
  covered : ∀ stub ∈ t.created, stub.configuration.removeAfterMatch → t.Covered stub

theorem used_step (h : t.Used) (event : Event) : (t.step event).Used := by
  refine ⟨sound_step h.sound event, orderly_step h.orderly event, fun stub hstub honce => ?_⟩
  have hknown : stub ∈ t.created → (t.step event).Covered stub := fun hold =>
    covered_step (h.covered stub hold honce) h.sound h.orderly hold honce event
  obtain he | ⟨new, hnew, he⟩ := t.created_step event
  · exact hknown (he ▸ hstub)
  · rw [he, List.mem_append, List.mem_singleton] at hstub
    obtain hold | rfl := hstub
    · exact hknown hold
    · rw [he]
      exact covered_of_quiet (covered_of_new h.sound hnew) rfl rfl

theorem used_run (requests : Nat → Request) (events : List Event) : (run requests events).Used := by
  have hstart : (start requests).Used := by
    refine ⟨sound_start requests, orderly_start requests, fun stub hstub => ?_⟩
    cases hstub
  exact List.foldlRecOn events step hstart fun _ h event _ => used_step h event

/-- Whatever the order of events, finds come back with a stub for single use at most as often as it
was put into the list, and of two finds one does not search. -/
theorem single_use (requests : Nat → Request) (events : List Event) :
    (∀ stub ∈ (run requests events).created, stub.configuration.removeAfterMatch →
      (run requests events).timesReturned stub ≤ (run requests events).timesAdded stub) ∧
    ∀ (i j : Nat) (a b : Call), (run requests events).calls[i]? = some a → a.isSearching →
      (run requests events).calls[j]? = some b → b.isSearching → i = j :=
  have h := used_run requests events
  ⟨fun stub hstub honce => (h.covered stub hstub honce).returned, fun _ _ _ _ hi ha hj hb =>
    h.orderly.eq_of_searching hi ha hj hb⟩

def once : Stub :=
  ⟨⟨none, true, false⟩, (Matching.Specification.any Matching.Decoder.text).erase,
    fun _ => .done (.failed ""), 1⟩

def reuse : List Event :=
  .create once.configuration once.specification once.responder ::
    ([.call (.add 0)] ++ List.replicate 2 (.advance 0) ++ [.call (.find 0 false)] ++
      List.replicate 7 (.advance 1) ++ [.call (.add 0)] ++ List.replicate 2 (.advance 2) ++
      [.call (.find 0 false)] ++ List.replicate 2 (.advance 3))

def bare : Request := ⟨⟨"GET", ⟨none, none, "/", none⟩, .http11, ⟨[]⟩⟩, .ofBytes []⟩

theorem single_use_reuse : (run (fun _ => bare) reuse).timesReturned once = 1 ∧
    (run (fun _ => bare) reuse).timesReturned once ≤ (run (fun _ => bare) reuse).timesAdded once ∧
    (run (fun _ => bare) reuse).calls[3]?.map Call.isSearching = some true ∧ 3 = 3 :=
  ⟨rfl, (single_use (fun _ => bare) reuse).1 once List.mem_cons_self rfl, rfl,
    (single_use (fun _ => bare) reuse).2 3 3 _ _ rfl rfl rfl rfl⟩

end Traffic

end StubServer
