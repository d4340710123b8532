import StubServer.Proofs.Stub.Traffic

namespace StubServer.Find

def isOpen : Find → Bool
  | .start | .queued | .scanning _ | .reading .. | .counting _ => true
  | _ => false

/-- A bound for the steps up to the next wait. -/
def due : Find → Nat
  | .scanning rest => 3 * rest.length + 5
  | .reading _ _ rest .start | .reading _ _ rest (.draining ..) => 3 * rest.length + 7
  | .reading _ _ rest (.finished _) => 3 * rest.length + 6
  | .counting _ => 4
  | .removing _ .start => 3
  | .removing _ (.working _) => 2
  | .removing _ (.finished _) => 1
  | _ => 0

/-- Goes on with nobody else around until the find waits or is over. -/
def goOn (q : Query) : Nat → World → Find → World × Find
  | 0, world, find => (world, find)
  | fuel + 1, world, find =>
    if find.isWaiting || find.isOver then (world, find)
    else goOn q fuel (find.step q world).1 (find.step q world).2

/-- A step of a find that waits, and all that follow up to the next wait. -/
def poll (q : Query) (world : World) (find : Find) : World × Find :=
  let (world, find) := find.step q world
  goOn q find.due world find

inductive TakesOut (stub : Stub) (cell : Cell (List Stub)) :
    Cell (List Stub) → Update (List Stub) Empty → Prop
  | start : TakesOut stub cell cell .start
  | working : TakesOut stub cell cell (.working cell)
  | finished {cell' : Cell (List Stub)} (result : Except Empty Bool)
      (h : cell'.value = cell.value.eraseP (·.created = stub.created)) :
      TakesOut stub cell cell' (.finished result)

def listAfter (stub : Stub) (stubs : List Stub) : List Stub :=
  if stub.configuration.removeAfterMatch then stubs.eraseP (·.created = stub.created) else stubs

/-- Where a find can have come with nobody else around: it is still open, or it has come back with
nothing, or it has counted one of the stubs that it had in hand or that were in the list. -/
inductive Leads (g : Registry) (find : Find) : Registry → Find → Prop
  | opened {g' : Registry} {find' : Find} (h : find'.isOpen) (hstubs : g'.stubs = g.stubs)
      (hcounts : g'.counts = g.counts) (hheld : find'.held ⊆ find.held ++ g.list) : Leads g find g' find'
  | missed {g' : Registry} {find' : Find} (h : find' = .finished none ∨
      ∃ reason, find' = .escaped reason)
      (hstubs : g'.stubs = g.stubs) (hcounts : g'.counts = g.counts) : Leads g find g' find'
  | counted {g' : Registry} {stub : Stub} {update : Update (List Stub) Empty}
      (hstub : stub ∈ find.held ++ g.list) (honce : stub.configuration.removeAfterMatch = true)
      (hcounts : g'.counts = (g.count stub).counts) (h : TakesOut stub g.stubs g'.stubs update) :
      Leads g find g' (.removing stub update)
  | served {g' : Registry} {stub : Stub} (hstub : stub ∈ find.held ++ g.list)
      (hcounts : g'.counts = (g.count stub).counts) (hlist : g'.list = listAfter stub g.list) :
      Leads g find g' (.finished (some stub))

variable {q : Query} {g : Registry} {find : Find} {world : World}

theorem goOn_induction {P : World → Find → Prop}
    (hstep : ∀ world find, P world find → P (find.step q world).1 (find.step q world).2) (fuel : Nat)
    (h : P world find) : P (goOn q fuel world find).1 (goOn q fuel world find).2 := by
  induction fuel generalizing world find with
  | zero => exact h
  | succ fuel ih =>
    rw [goOn]
    split
    · exact h
    · exact ih (hstep world find h)

theorem takesOut_moves {stub : Stub} {cell before after : Cell (List Stub)}
    {update update' : Update (List Stub) Empty} (h : TakesOut stub cell before update)
    (hm : Update.Moves (Registry.removing stub) before update after update') :
    TakesOut stub cell after update' := by
  cases hm with
  | load =>
    cases h
    exact .working
  | fail he => cases he
  | skip he =>
    cases h
    refine .finished _ (List.eraseP_of_forall_not fun s hs hc => ?_).symm
    rw [Registry.removing, if_pos (List.any_eq_true.mpr ⟨s, hs, hc⟩)] at he
    cases he
  | publish he hv =>
    cases h
    refine .finished _ ?_
    rw [Registry.removing] at he
    split at he
    · injection he with he
      injection he with he
      exact he.symm
    · injection he with he
      cases he
  | retry he hv =>
    cases h
    exact absurd rfl hv
  | stay => exact h

theorem TakesOut.value {stub : Stub} {cell cell' : Cell (List Stub)} {result : Except Empty Bool}
    (h : TakesOut stub cell cell' (.finished result)) :
    cell'.value = cell.value.eraseP (·.created = stub.created) := by
  cases h with
  | finished _ hvalue => exact hvalue

theorem TakesOut.seen_eq {stub : Stub} {cell cell' seen : Cell (List Stub)}
    (h : TakesOut stub cell cell' (.working seen)) : seen = cell' := by
  cases h
  rfl

theorem isOver_of_isOpen (h : find.isOpen) : find.isOver = false := by
  cases find with
  | finished | escaped => cases h
  | start | queued | scanning | reading | counting | removing => rfl

theorem leads_self (h : find.isOpen) : Leads g find g find :=
  .opened h rfl rfl (List.subset_append_left _ _)

theorem isOpen_of_isScanning {find' : Find} (h : find'.isScanning ∨ ∃ stub, find' = .counting stub) :
    find'.isOpen := by
  obtain h | ⟨stub, rfl⟩ := h
  · cases find' with
    | scanning | reading => rfl
    | start | queued | counting | removing | finished | escaped => cases h
  · rfl

theorem count_counts {g' : Registry} (h : g'.counts = g.counts) (stub : Stub) :
    (g'.count stub).counts = (g.count stub).counts := by
  simp only [Registry.count, h]

theorem count_counts_apply (g : Registry) (stub : Stub) (number : Nat) : (g.count stub).counts number =
    g.counts number + if (some stub).any (·.created = number) then 1 else 0 := by
  by_cases hn : number = stub.created
  · simp [Registry.count, hn]
  · simp [Registry.count, hn, Ne.symm hn]

theorem Leads.step {find' : Find} (h : Leads g find world.registry find') :
    Leads g find (find'.step q world).1.registry (find'.step q world).2 := by
  have hm := moves_step q world find'
  generalize (find'.step q world).1.registry = after, (find'.step q world).2 = next at hm ⊢
  cases h with
  | missed hover hstubs hcounts =>
    obtain rfl | ⟨reason, rfl⟩ := hover
    · cases hm with
      | scan | miss => contradiction
      | stay => exact .missed (.inl rfl) hstubs hcounts
    · cases hm with
      | scan | miss => contradiction
      | stay => exact .missed (.inr ⟨reason, rfl⟩) hstubs hcounts
  | served hstub hcounts hlist =>
    cases hm with
    | scan | miss => contradiction
    | stay => exact .served hstub hcounts hlist
  | counted hstub honce hcounts ht =>
    cases hm with
    | scan | miss | stay => contradiction
    | remove hu hm => exact .counted hstub honce hcounts (takesOut_moves ht hm)
    | depart stub result =>
      refine .served hstub hcounts ?_
      rw [listAfter, if_pos honce]
      exact ht.value
  | opened hopen hstubs hcounts hheld =>
    have hlist : world.registry.list = g.list := congrArg Cell.value hstubs
    cases hm with
    | enter | wait => exact .opened rfl hstubs hcounts hheld
    | load => exact .opened rfl hstubs hcounts (hlist ▸ List.subset_append_right _ _)
    | scan _ hnext hsub =>
      exact .opened (isOpen_of_isScanning hnext) hstubs hcounts (List.Subset.trans hsub hheld)
    | miss _ hnext => exact .missed hnext hstubs hcounts
    | count honce =>
      exact .counted (hheld List.mem_cons_self) honce (count_counts hcounts _) (hstubs ▸ .start)
    | @serve stub honce =>
      refine .served (hheld List.mem_cons_self) (count_counts hcounts _) ?_
      rw [listAfter, honce]
      exact hlist
    | remove | depart => cases hopen
    | stay hover => cases (isOver_of_isOpen hopen).symm.trans hover

theorem due_proceed (q : Query) (world : World) (stub : Stub) (rest : List Stub)
    (ruling : Matching.Ruling) :
    (proceed q world stub rest ruling).2.due < 3 * rest.length + 6 := by
  cases ruling with
  | escaped reason => simp [proceed, finish, due]
  | settled verdict =>
    cases verdict with
    | error e => simp [proceed, due]
    | ok passed =>
      cases passed with
      | false => simp [proceed, due]
      | true =>
        simp only [proceed, due]
        omega

theorem due_step {find' : Find} (h : Leads g find world.registry find')
    (hrest : (find'.isWaiting || find'.isOver) = false) :
    (find'.step q world).2.due < find'.due := by
  cases find' with
  | start | queued | finished | escaped => cases hrest
  | scanning rest =>
    cases rest with
    | nil => simp [step, finish, due]
    | cons stub rest =>
      cases hj : stub.specification.judge q.head with
      | decided ruling =>
        have hproceed := due_proceed q world stub rest ruling
        simp only [step, hj]
        exact Nat.lt_of_lt_of_le hproceed (by simp only [due, List.length_cons]; omega)
      | onBody rule =>
        simp only [step, hj, due, List.length_cons]
        omega
  | reading stub rule rest reader =>
    cases reader with
    | queued | awaiting => cases hrest
    | finished result =>
      exact due_proceed q (world.report (rule result).log) stub rest (rule result).ruling
    | start =>
      simp only [step, Request.Reader.step]
      split <;> simp [due]
    | draining frames soFar => cases frames <;> simp [step, Request.Reader.step, due]
  | counting stub =>
    simp only [step]
    split <;> simp [finish, due]
  | removing stub update =>
    cases update with
    | start => simp [step, Update.step, due]
    | working seen =>
      -- Nobody else has published, so that the change cannot begin again.
      have hseen : seen = world.registry.stubs := by
        cases h with
        | opened hopen => cases hopen
        | counted hstub honce hcounts ht => exact ht.seen_eq
        | missed hover => obtain he | ⟨reason, he⟩ := hover <;> cases he
      subst hseen
      obtain ⟨result, hresult⟩ := (Update.moves_step (Registry.removing stub) world.registry.stubs
        (.working world.registry.stubs)).finishes
      simp only [step, hresult, due]
      omega
    | finished result => simp [step, finish, due]

theorem goOn_leads (fuel : Nat) {find' : Find} (h : Leads g find world.registry find') :
    Leads g find (goOn q fuel world find').1.registry (goOn q fuel world find').2 := by
  induction fuel generalizing world find' with
  | zero => exact h
  | succ fuel ih =>
    rw [goOn]
    split
    · exact h
    · exact ih h.step

theorem rests_of_due_eq_zero {find' : Find} (h : find'.due = 0) :
    (find'.isWaiting || find'.isOver) = true := by
  cases find' with
  | start | queued | finished | escaped => rfl
  | scanning | counting => simp [due] at h
  | reading stub rule rest reader =>
    cases reader with
    | queued | awaiting => rfl
    | start | draining | finished => simp [due] at h
  | removing stub update => cases update <;> simp [due] at h

theorem goOn_rests (fuel : Nat) {find' : Find} (h : Leads g find world.registry find')
    (hfuel : find'.due ≤ fuel) :
    ((goOn q fuel world find').2.isWaiting || (goOn q fuel world find').2.isOver) = true := by
  induction fuel generalizing world find' with
  | zero => exact rests_of_due_eq_zero (Nat.le_zero.mp hfuel)
  | succ fuel ih =>
    rw [goOn]
    split
    · assumption
    · rename_i hrest
      have hstep := due_step (q := q) h (eq_false_of_ne_true hrest)
      exact ih h.step (by omega)

/-- What a find comes to before the next wait: it waits with nothing done, or it is over; and if it
has come back with a stub, then the stub has been counted, and is gone from the list if it is for
single use. -/
inductive Pauses (g : Registry) (find : Find) : Registry → Find → Prop
  | waits {g' : Registry} {find' : Find} (h : find'.isWaiting) (hlist : g'.list = g.list)
      (hcounts : g'.counts = g.counts) (hheld : find'.held ⊆ find.held ++ g.list) :
        Pauses g find g' find'
  | misses {g' : Registry} (hlist : g'.list = g.list) (hcounts : g'.counts = g.counts) :
      Pauses g find g' (.finished none)
  | escapes {g' : Registry} (reason : String) (hlist : g'.list = g.list)
      (hcounts : g'.counts = g.counts) :
      Pauses g find g' (.escaped reason)
  | serves {g' : Registry} {stub : Stub} (hstub : stub ∈ find.held ++ g.list)
      (hlist : g'.list = listAfter stub g.list) (hcounts : g'.counts = (g.count stub).counts) :
      Pauses g find g' (.finished (some stub))

theorem Leads.pauses {g' : Registry} {find' : Find} (h : Leads g find g' find')
    (hrest : (find'.isWaiting || find'.isOver) = true) : Pauses g find g' find' := by
  cases h with
  | opened hopen hstubs hcounts hheld =>
    rw [isOver_of_isOpen hopen, Bool.or_false] at hrest
    exact .waits hrest (congrArg Cell.value hstubs) hcounts hheld
  | missed hnone hstubs hcounts =>
    obtain rfl | ⟨reason, rfl⟩ := hnone
    · exact .misses (congrArg Cell.value hstubs) hcounts
    · exact .escapes reason (congrArg Cell.value hstubs) hcounts
  | counted => cases hrest
  | served hstub hcounts hlist => exact .serves hstub hlist hcounts

theorem poll_rests (q : Query) (world : World) (h : find.isOpen) :
    ((find.poll q world).2.isWaiting || (find.poll q world).2.isOver) = true := by
  have hstep : Leads world.registry find (find.step q world).1.registry (find.step q world).2 :=
    (leads_self h).step
  exact goOn_rests _ hstep (Nat.le_refl _)

theorem pauses_poll (q : Query) (world : World) (h : find.isOpen) :
    Pauses world.registry find (find.poll q world).1.registry (find.poll q world).2 := by
  have hstep : Leads world.registry find (find.step q world).1.registry (find.step q world).2 :=
    (leads_self h).step
  exact (goOn_leads _ hstep).pauses (poll_rests q world h)

theorem isOpen_of_isWaiting (h : find.isWaiting) : find.isOpen := by
  cases find with
  | start | queued | reading => rfl
  | scanning | counting | removing | finished | escaped => cases h

end StubServer.Find
