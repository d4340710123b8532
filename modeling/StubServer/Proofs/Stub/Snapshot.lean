import StubServer.Proofs.Stub.Turns

namespace StubServer

/-- The find may still come to count a stub. -/
def Find.isDeciding : Find → Bool
  | .scanning _ | .reading .. | .counting _ => true
  | _ => false

theorem Find.isDeciding_of_isScanning {find : Find} (h : find.isScanning) : find.isDeciding := by
  cases find with
  | scanning | reading => rfl
  | start | queued | counting | removing | finished | escaped => cases h

def Call.mayCount (stub : Stub) : Call → Prop
  | .find _ _ search => search.isDeciding ∧ stub ∈ search.held
  | _ => False

theorem Call.isSearching_of_mayCount {stub : Stub} {call : Call} (h : call.mayCount stub) :
    call.isSearching := by
  cases call with
  | find request q search =>
    cases search with
    | scanning | reading | counting => rfl
    | start | queued | removing | finished | escaped => cases h.1
  | add | remove | clear | getAll | abandoned => cases h

def Call.isQueued : Call → Bool
  | .find _ _ .queued => true
  | _ => false

inductive Call.TakesOut (stub : Stub) : Call → Prop
  | remove : TakesOut stub (.remove stub (.finished (.ok true)))
  | clear : TakesOut stub (.clear true)

variable {g g' : Registry} {call call' : Call} {stub : Stub}

theorem Call.Moves.mayCount (h : Moves g call g' call') (hc : call'.mayCount stub) :
    call.mayCount stub ∨ call.isQueued ∧ g' = g ∧ stub ∈ g.list := by
  cases h with
  | find request h =>
    cases h with
    | load => exact .inr ⟨rfl, rfl, hc.2⟩
    | scan hf hf' hheld => exact .inl ⟨Find.isDeciding_of_isScanning hf, hheld hc.2⟩
    | miss hf hf' => obtain rfl | ⟨reason, rfl⟩ := hf' <;> cases hc.1
    | stay => exact .inl hc
    | enter | wait | count | serve | remove | depart => cases hc.1
  | add | remove | clear | getAll | cleared | listed | abandoned => cases hc

def Call.hasCounted (stub : Stub) : Call → Prop
  | .find _ _ (.removing s _) | .find _ _ (.finished (some s)) => s = stub
  | _ => False

theorem Call.Moves.hasCounted (h : Moves g call g' call') (hc : call'.hasCounted stub) :
    call.hasCounted stub ∨ ∃ request q, call = .find request q (.counting stub) := by
  cases h with
  | @find _ request q search search' h =>
    cases h with
    | count | serve =>
      obtain rfl := hc
      exact .inr ⟨request, q, rfl⟩
    | remove | depart | stay => exact .inl hc
    | scan hf hf' =>
      obtain hf' | ⟨s, rfl⟩ := hf'
      · cases search' with
        | scanning | reading => cases hc
        | start | queued | counting | removing | finished | escaped => cases hf'
      · cases hc
    | miss hf hf' => obtain rfl | ⟨reason, rfl⟩ := hf' <;> cases hc
    | enter | wait | load => cases hc
  | add | remove | clear | getAll | cleared | listed | abandoned => cases hc

namespace Traffic

variable {requests : Nat → Request} {n : Nat}

/-- The find got its turn when the stub was in the list. -/
inductive Loaded (requests : Nat → Request) (n : Nat) (stub : Stub) : List Event → Prop
  | intro {before : List Event} (after : List Event) {call call' : Call}
      (hcall : (run requests before).calls[n]? = some call) (hqueued : call.isQueued)
      (hmem : stub ∈ (run requests before).registry.list)
      (hcall' : (run requests (before ++ [.advance n])).calls[n]? = some call')
      (hcount : call'.mayCount stub) :
      Loaded requests n stub (before ++ .advance n :: after)

/-- While the find had the stub in view, another caller took it out of the list, and it has not been
there again. -/
inductive TakenOut (requests : Nat → Request) (n : Nat) (stub : Stub) : List Event → Prop
  | intro {before : List Event} {m : Nat} {after : List Event} {call other : Call}
      (hcall : (run requests before).calls[n]? = some call) (hcount : call.mayCount stub)
      (hmem : stub ∈ (run requests before).registry.list)
      (hother : (run requests (before ++ [.advance m])).calls[m]? = some other)
      (hout : other.TakesOut stub)
      (hnot : ∀ mid, mid <+: after → stub ∉ (run requests (before ++ .advance m :: mid)).registry.list) :
      TakenOut requests n stub (before ++ .advance m :: after)

theorem Loaded.concat {events : List Event} (h : Loaded requests n stub events) (event : Event) :
    Loaded requests n stub (events ++ [event]) := by
  obtain ⟨after, hcall, hqueued, hmem, hcall', hcount⟩ := h
  rw [List.append_assoc, List.cons_append]
  exact .intro _ hcall hqueued hmem hcall' hcount

theorem TakenOut.not_mem {events : List Event} (h : TakenOut requests n stub events) :
    stub ∉ (run requests events).registry.list := by
  obtain ⟨hcall, hcount, hmem, hother, hout, hnot⟩ := h
  exact hnot _ (List.prefix_refl _)

theorem TakenOut.concat {events : List Event} (h : TakenOut requests n stub events) (event : Event)
    (hn : stub ∉ (run requests (events ++ [event])).registry.list) :
    TakenOut requests n stub (events ++ [event]) := by
  obtain ⟨hcall, hcount, hmem, hother, hout, hnot⟩ := h
  rw [List.append_assoc, List.cons_append] at hn ⊢
  refine .intro hcall hcount hmem hother hout fun mid hmid => ?_
  obtain rfl | hmid := List.prefix_concat_iff.mp hmid
  · exact hn
  · exact hnot mid hmid

theorem run_concat (requests : Nat → Request) (events : List Event) (event : Event) :
    run requests (events ++ [event]) = (run requests events).step event :=
  run_append requests events [event]

section

variable {t : Traffic} {event : Event}

theorem Opens.not_mayCount (h : t.Opens call) : ¬call.mayCount stub := by
  cases h with
  | add | remove | clear | getAll => exact id
  | find => exact fun h => nomatch h.1

theorem mayCount_step {call' : Call} (hcall : (t.step event).calls[n]? = some call')
    (hcount : call'.mayCount stub) : (∃ call, t.calls[n]? = some call ∧ call.mayCount stub) ∨
      event = .advance n ∧ (t.step event).registry = t.registry ∧ stub ∈ t.registry.list ∧
        ∃ call, t.calls[n]? = some call ∧ call.isQueued := by
  cases t.origin_step event hcall with
  | stayed h => exact .inl ⟨call', h, hcount⟩
  | began h => exact absurd hcount h.not_mayCount
  | moved h hm =>
    obtain hcount | ⟨hqueued, hr, hmem⟩ := hm.mayCount hcount
    · exact .inl ⟨_, h, hcount⟩
    · exact .inr ⟨rfl, hr, hmem, _, h, hqueued⟩
  | abandoned => cases hcount

theorem takesOut_of_not_mem (h : t.Sound) (ho : t.Orderly) {call call' : Call}
    (hcall : t.calls[n]? = some call) (hcount : call.mayCount stub)
    (hcall' : (t.step event).calls[n]? = some call') (hcount' : call'.mayCount stub)
    (hmem : stub ∈ t.registry.list) (hnot : stub ∉ (t.step event).registry.list) :
    ∃ m other, event = .advance m ∧ (t.step event).calls[m]? = some other ∧ other.TakesOut stub := by
  obtain he | ⟨m, before, after, rfl, hbefore, hafter, hchange⟩ := list_step h event
  · exact absurd (he ▸ hmem) hnot
  · generalize (t.step (.advance m)).registry.list = stubs' at hchange hnot
    cases hchange with
    | none => exact absurd hmem hnot
    | add seen h => exact absurd ((h.mem_iff stub).mpr (.inr hmem)) hnot
    | @remove s seen _ _ h =>
      have he : stub = s := by
        by_contra hne
        exact hnot ((h.mem_iff stub).mpr ⟨hmem, hne⟩)
      subst he
      exact ⟨m, _, rfl, hafter, .remove⟩
    | use request q seen h =>
      obtain rfl := ho.eq_of_searching hbefore rfl hcall (Call.isSearching_of_mayCount hcount)
      rw [hafter] at hcall'
      cases hcall'
      cases hcount'.1
    | clear => exact ⟨m, _, rfl, hafter, .clear⟩

end

/-- A stub that a find has in view was in the list when the find got its turn, and is there still unless
another caller has taken it out. -/
theorem inView (requests : Nat → Request) (events : List Event) {call : Call}
    (hcall : (run requests events).calls[n]? = some call) (hcount : call.mayCount stub) :
    Loaded requests n stub events ∧
      (stub ∈ (run requests events).registry.list ∨ TakenOut requests n stub events) := by
  induction events using List.reverseRecOn generalizing call with
  | nil => cases hcall
  | append_singleton events event ih =>
    have hstep := run_concat requests events event
    rw [hstep] at hcall
    obtain ⟨before, hbefore, hcountb⟩ | ⟨rfl, hr, hmem, before, hbefore, hqueued⟩ :=
      mayCount_step hcall hcount
    · obtain ⟨hloaded, hlist⟩ := ih hbefore hcountb
      refine ⟨hloaded.concat event, ?_⟩
      by_cases hmem : stub ∈ (run requests (events ++ [event])).registry.list
      · exact .inl hmem
      · obtain hold | htaken := hlist
        · rw [hstep] at hmem
          obtain ⟨m, other, rfl, hother, hout⟩ := takesOut_of_not_mem (sound_run requests events)
            (orderly_run requests events) hbefore hcountb hcall hcount hold hmem
          rw [← hstep] at hother hmem
          refine .inr (.intro hbefore hcountb hold hother hout fun mid hmid => ?_)
          obtain rfl := List.prefix_nil.mp hmid
          exact hmem
        · exact .inr (htaken.concat event hmem)
    · rw [← hstep] at hcall
      refine ⟨.intro [] hbefore hqueued hmem hcall hcount, .inl ?_⟩
      rw [hstep, hr]
      exact hmem

theorem hasCounted_step {t : Traffic} {event : Event} {call' : Call}
    (hcall : (t.step event).calls[n]? = some call') (hcount : call'.hasCounted stub) :
    (∃ call, t.calls[n]? = some call ∧ call.hasCounted stub) ∨
      event = .advance n ∧ ∃ request q, t.calls[n]? = some (.find request q (.counting stub)) := by
  cases t.origin_step event hcall with
  | stayed h => exact .inl ⟨call', h, hcount⟩
  | began h => cases h <;> cases hcount
  | moved h hm =>
    obtain hcount | ⟨request, q, rfl⟩ := hm.hasCounted hcount
    · exact .inl ⟨_, h, hcount⟩
    · exact .inr ⟨rfl, request, q, h⟩
  | abandoned => cases hcount

/-- The instant at which a find counts the stub that it comes back with. -/
theorem exists_counting (requests : Nat → Request) (events : List Event) {call : Call}
    (hcall : (run requests events).calls[n]? = some call) (hcount : call.hasCounted stub) :
    ∃ before after request q, events = before ++ .advance n :: after ∧
      (run requests before).calls[n]? = some (.find request q (.counting stub)) := by
  induction events using List.reverseRecOn generalizing call with
  | nil => cases hcall
  | append_singleton events event ih =>
    rw [run_concat] at hcall
    obtain ⟨before, hbefore, hcountb⟩ | ⟨rfl, request, q, hcounting⟩ := hasCounted_step hcall hcount
    · obtain ⟨first, after, request, q, rfl, hcounting⟩ := ih hbefore hcountb
      refine ⟨first, after ++ [event], request, q, ?_, hcounting⟩
      rw [List.append_assoc, List.cons_append]
    · exact ⟨events, [], request, q, rfl, hcounting⟩

/-- A find that comes back with a stub got its turn when the stub was in the list; when it counts
the stub, that is not there exactly if another caller has taken it out in between. -/
theorem returned_counted (requests : Nat → Request) (events : List Event) (n request : Nat)
    (q : Find.Query) (stub : Stub)
    (h : (run requests events).calls[n]? = some (.find request q (.finished (some stub)))) :
    ∃ before after request' q', events = before ++ .advance n :: after ∧
      (run requests before).calls[n]? = some (.find request' q' (.counting stub)) ∧
      Loaded requests n stub before ∧
      (stub ∉ (run requests before).registry.list ↔ TakenOut requests n stub before) := by
  obtain ⟨before, after, request', q', he, hcounting⟩ := exists_counting requests events h rfl
  obtain ⟨hloaded, hlist⟩ := inView requests before hcounting ⟨rfl, List.mem_cons_self⟩
  exact ⟨before, after, request', q', he, hcounting, hloaded, hlist.resolve_left, TakenOut.not_mem⟩

def arriving : Request := ⟨⟨"POST", ⟨none, none, "/", none⟩, .http11, ⟨[]⟩⟩, .ofFrames [⟨5, .data []⟩]⟩

def onBody : Stub :=
  ⟨.blank, (Matching.Specification.ofCriteria .text [.bodyText (.ofBool "" fun _ => true)]).erase,
    fun _ => .done (.failed ""), 1⟩

def overtaken : List Event :=
  .create onBody.configuration onBody.specification onBody.responder ::
    ([.call (.add 0)] ++ List.replicate 2 (.advance 0) ++ [.answer 0, .call (.find 0 false)] ++
      List.replicate 6 (.advance 1) ++ [.call (.remove 0)] ++ List.replicate 2 (.advance 2) ++
      [.answer 2] ++ List.replicate 3 (.advance 1))

/-- The find counts a stub that is not registered any more, and comes back with it. -/
theorem counts_removed :
    ((run (fun _ => arriving) overtaken).calls[1]?, (run (fun _ => arriving) overtaken).calls[2]?,
      (run (fun _ => arriving) overtaken).answered, (run (fun _ => arriving) overtaken).registry.list) =
      (some (.find 0 ⟨1, arriving.head, false, ""⟩ (.counting onBody)),
        some (.remove onBody (.finished (.ok true))), [2, 0], []) ∧
    (run (fun _ => arriving) (overtaken ++ [.advance 1])).calls[1]? =
      some (.find 0 ⟨1, arriving.head, false, ""⟩ (.finished (some onBody))) ∧
    (run (fun _ => arriving) (overtaken ++ [.advance 1])).registry.countOf onBody = 1 :=
  ⟨rfl, rfl, rfl⟩

theorem returned_counted_overtaken :
    ∃ before after request' q', overtaken ++ [.advance 1] = before ++ .advance 1 :: after ∧
      (run (fun _ => arriving) before).calls[1]? = some (.find request' q' (.counting onBody)) ∧
      Loaded (fun _ => arriving) 1 onBody before ∧
      (onBody ∉ (run (fun _ => arriving) before).registry.list ↔
        TakenOut (fun _ => arriving) 1 onBody before) :=
  returned_counted (fun _ => arriving) (overtaken ++ [.advance 1]) 1 0 ⟨1, arriving.head, false, ""⟩
    onBody rfl

end Traffic

end StubServer
