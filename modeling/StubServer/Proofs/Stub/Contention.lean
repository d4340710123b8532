import StubServer.Proofs.Stub.Effects
import StubServer.Proofs.Stub.Snapshot

namespace StubServer

/-- How far a caller has come with its change of the list: it may still load the list, it works on
the publication that it has loaded last, or it has nothing to change any more. -/
inductive Writing where
  | ahead
  | underway (seen : Cell (List Stub))
  | behind

def Writing.isUnderway : Writing → Bool
  | .underway _ => true
  | _ => false

def Update.writing {ε : Type} : Update (List Stub) ε → Writing
  | .start => .ahead
  | .working seen => .underway seen
  | .finished _ => .behind

/-- One if there is a newer publication than the one that was seen. -/
def Cell.lag {α : Type} (cell seen : Cell α) : Nat := if cell.version = seen.version then 0 else 1

section

variable {α : Type} {cell seen : Cell α}

theorem Cell.lag_of_eq (h : cell.version = seen.version) : cell.lag seen = 0 := if_pos h

theorem Cell.lag_self (cell : Cell α) : cell.lag cell = 0 := if_pos rfl

theorem Cell.lag_of_ne (h : cell.version ≠ seen.version) : cell.lag seen = 1 := if_neg h

theorem Cell.lag_le_one (cell seen : Cell α) : cell.lag seen ≤ 1 := by
  rw [Cell.lag]
  split <;> decide

end

namespace Call

def writing : Call → Writing
  | .add _ update => update.writing
  | .remove _ update | .find _ _ (.removing _ update) => update.writing
  | .find _ _ (.finished _) | .find _ _ (.escaped _) => .behind
  | .find .. => .ahead
  | .clear _ | .getAll _ | .abandoned => .behind

/-- The list that the call wants in the place of a list; none if it leaves the list alone. -/
def wanted? : Call → List Stub → Option (List Stub)
  | .add stub _, stubs => (Registry.adding stub stubs).toOption.join
  | .remove stub _, stubs | .find _ _ (.removing stub _), stubs =>
      (Registry.removing stub stubs).toOption.join
  | _, _ => none

/-- The next step of the call tries to publish a list. -/
def attempts (call : Call) : Bool :=
  match call.writing with
  | .underway seen => (call.wanted? seen.value).isSome
  | _ => false

/-- The next step of the call publishes a list: it tries to, and what it has loaded is current, or
it clears. -/
def publishes (g : Registry) (call : Call) : Bool :=
  match call, call.writing with
  | .clear isDone, _ => !isDone
  | _, .underway seen => call.attempts && g.stubs.version = seen.version
  | _, _ => false

/-- What a step makes of a change of the list, if it is to put these lists in the place of others. -/
inductive Writes (cell : Cell (List Stub)) (wanted? : List Stub → Option (List Stub)) :
    Writing → Cell (List Stub) → Writing → Prop
  | approach : Writes cell wanted? .ahead cell .ahead
  | miss : Writes cell wanted? .ahead cell .behind
  | load : Writes cell wanted? .ahead cell (.underway cell)
  | leave {seen : Cell (List Stub)} (h : wanted? seen.value = none) :
      Writes cell wanted? (.underway seen) cell .behind
  | publish {seen : Cell (List Stub)} {next : List Stub} (h : wanted? seen.value = some next)
      (hv : cell.version = seen.version) : Writes cell wanted? (.underway seen) (cell.store next) .behind
  | retry {seen : Cell (List Stub)} {next : List Stub} (h : wanted? seen.value = some next)
      (hv : cell.version ≠ seen.version) : Writes cell wanted? (.underway seen) cell (.underway cell)

variable {g g' : Registry} {call call' : Call}

theorem writes_of_moves {ε : Type} {change : List Stub → Except ε (Option (List Stub))}
    {cell cell' : Cell (List Stub)}
    {update update' : Update (List Stub) ε} (h : Update.Moves change cell update cell' update') :
    (update.writing = .behind ∧ update'.writing = .behind ∧ cell' = cell) ∨
      Writes cell (fun stubs => (change stubs).toOption.join) update.writing cell' update'.writing := by
  cases h with
  | load => exact .inr .load
  | fail h | skip h => exact .inr (.leave (by rw [h]; rfl))
  | publish h hv => exact .inr (.publish (by rw [h]; rfl) hv)
  | retry h hv => exact .inr (.retry (by rw [h]; rfl) hv)
  | stay => exact .inl ⟨rfl, rfl, rfl⟩

theorem writing_of_isScanning {search : Find} (h : search.isScanning) (request : Nat) (q : Find.Query) :
    (Call.find request q search).writing = .ahead := by
  cases search with
  | scanning | reading => rfl
  | start | queued | counting | removing | finished | escaped => cases h

theorem attempts_eq {seen : Cell (List Stub)} (h : call.writing = .underway seen) :
    call.attempts = (call.wanted? seen.value).isSome := by
  simp only [attempts, h]

theorem publishes_of_behind (h : call.writing = .behind) (hclear : call ≠ .clear false) :
    call.publishes g = false := by
  cases call with
  | clear isDone =>
    cases isDone with
    | false => exact absurd rfl hclear
    | true => rfl
  | add | remove | getAll | find | abandoned => simp only [publishes, h]

theorem publishes_of_ahead (h : call.writing = .ahead) : call.publishes g = false := by
  cases call with
  | clear => cases h
  | add | remove | getAll | find | abandoned => simp only [publishes, h]

theorem publishes_of_underway {seen : Cell (List Stub)} (h : call.writing = .underway seen) :
    call.publishes g = (call.attempts && g.stubs.version = seen.version) := by
  cases call with
  | clear => cases h
  | add | remove | getAll | find | abandoned => simp only [publishes, h]

theorem Moves.writes (h : Moves g call g' call') :
    (call.writing = .behind ∧ call'.writing = .behind ∧
      (call ≠ .clear false ∧ g'.stubs = g.stubs ∨ call = .clear false ∧ g' = g.clear)) ∨
      Writes g.stubs call.wanted? call.writing g'.stubs call'.writing := by
  cases h with
  | add h | remove h => exact (writes_of_moves h).imp_left fun h => ⟨h.1, h.2.1, .inl ⟨nofun, h.2.2⟩⟩
  | clear => exact .inl ⟨rfl, rfl, .inr ⟨rfl, rfl⟩⟩
  | getAll | cleared | listed | abandoned => exact .inl ⟨rfl, rfl, .inl ⟨by simp, rfl⟩⟩
  | @find _ request q search search' h =>
    cases h with
    | enter | wait | load | count => exact .inr .approach
    | serve => exact .inr .miss
    | scan hf hf' =>
      rw [writing_of_isScanning hf]
      obtain hf' | ⟨stub, rfl⟩ := hf'
      · rw [writing_of_isScanning hf']
        exact .inr .approach
      · exact .inr .approach
    | miss hf hf' =>
      rw [writing_of_isScanning hf]
      obtain rfl | ⟨reason, rfl⟩ := hf' <;> exact .inr .miss
    | remove hu h => exact (writes_of_moves h).imp_left fun h => ⟨h.1, h.2.1, .inl ⟨nofun, h.2.2⟩⟩
    | depart => exact .inl ⟨rfl, rfl, .inl ⟨nofun, rfl⟩⟩
    | stay hover =>
      cases search with
      | finished | escaped => exact .inl ⟨rfl, rfl, .inl ⟨nofun, rfl⟩⟩
      | start | queued | scanning | reading | counting | removing => cases hover

theorem Moves.publishes (h : Moves g call g' call') :
    call.publishes g ∧ g'.stubs.version = g.stubs.version + 1 ∨ call.publishes g = false ∧
      g'.stubs = g.stubs := by
  obtain ⟨hbehind, -, ⟨hclear, hstubs⟩ | ⟨rfl, rfl⟩⟩ | hwrites := h.writes
  · exact .inr ⟨publishes_of_behind hbehind hclear, hstubs⟩
  · exact .inl ⟨rfl, rfl⟩
  · generalize hbefore : call.writing = before at hwrites
    generalize call'.writing = after at hwrites
    generalize hcell : g'.stubs = cell' at hwrites
    cases hwrites with
    | approach | miss | load => exact .inr ⟨publishes_of_ahead hbefore, rfl⟩
    | leave hnone =>
      refine .inr ⟨?_, rfl⟩
      rw [publishes_of_underway hbefore, attempts_eq hbefore, hnone]
      rfl
    | publish hsome hv =>
      refine .inl ⟨?_, rfl⟩
      simp [publishes_of_underway hbefore, attempts_eq hbefore, hsome, hv]
    | retry hsome hv =>
      refine .inr ⟨?_, rfl⟩
      simp [publishes_of_underway hbefore, hv]

end Call

namespace Traffic

/-- How many of the events are of a kind, each judged by how things stand when it happens. -/
def tally (isCounted : Traffic → Event → Bool) : Traffic → List Event → Nat
  | _, [] => 0
  | t, event :: more => (isCounted t event).toNat + tally isCounted (t.step event) more

theorem tally_append (isCounted : Traffic → Event → Bool) (t : Traffic) (events more : List Event) :
    tally isCounted t (events ++ more) = tally isCounted t events +
      tally isCounted (events.foldl step t) more := by
  induction events generalizing t with
  | nil => exact (Nat.zero_add _).symm
  | cons event events ih => rw [List.cons_append, tally, tally, ih, Nat.add_assoc, List.foldl_cons]

/-- How far a caller has come with its change of the list; one that has not come yet has all before
it. -/
def writing (t : Traffic) (n : Nat) : Writing := (t.calls[n]?.map Call.writing).getD .ahead

def wanted? (t : Traffic) (n : Nat) (stubs : List Stub) : Option (List Stub) :=
  t.calls[n]?.bind (·.wanted? stubs)

def publishes (t : Traffic) : Event → Bool
  | .advance m => t.calls[m]?.any (·.publishes t.registry)
  | _ => false

def attempts (n : Nat) (t : Traffic) : Event → Bool
  | .advance m => m = n && t.calls[n]?.any Call.attempts
  | _ => false

/-- While the caller changes the list, somebody else publishes one. -/
def overtakes (n : Nat) (t : Traffic) : Event → Bool
  | .advance m => m ≠ n && (t.writing n).isUnderway && t.publishes (.advance m)
  | _ => false

variable {t : Traffic} {n : Nat} {event : Event} {seen : Cell (List Stub)}

theorem writing_of_call {call : Call} (h : t.calls[n]? = some call) : t.writing n = call.writing := by
  rw [writing, h]
  rfl

theorem wanted_of_call {call : Call} (h : t.calls[n]? = some call) : t.wanted? n = call.wanted? := by
  funext stubs
  rw [wanted?, h]
  rfl

theorem registry_advance {call : Call} (h : t.calls[n]? = some call) :
    (t.step (.advance n)).registry = (call.step t.toShared).1.registry := by simp only [step, h]

theorem stubs_step_of_ne_advance (h : ∀ m, event ≠ .advance m) :
    (t.step event).registry.stubs = t.registry.stubs := by
  cases t.moves_step event with
  | quiet hregistry | opens _ hregistry => rw [hregistry]
  | abandons _ _ hregistry =>
    rw [hregistry]
    rfl
  | moves => exact absurd rfl (h _)

theorem publishes_step (t : Traffic) (event : Event) :
    t.publishes event ∧ (t.step event).registry.stubs.version = t.registry.stubs.version + 1 ∨
      t.publishes event = false ∧ (t.step event).registry.stubs = t.registry.stubs := by
  cases event with
  | advance m =>
    cases h : t.calls[m]? with
    | none => exact .inr ⟨by simp only [publishes, h, Option.any_none], by simp only [step, h]⟩
    | some call =>
      have hpublishes : t.publishes (.advance m) = call.publishes t.registry := by
        rw [publishes, h, Option.any_some]
      rw [hpublishes, registry_advance h]
      exact (Call.moves_step t.toShared call).publishes
  | create | call | abandon | answer | disturb => exact .inr ⟨rfl, stubs_step_of_ne_advance (by simp)⟩

theorem writes_own (t : Traffic) (n : Nat) :
    t.writing n = .behind ∧ (t.step (.advance n)).writing n = .behind ∨
      Call.Writes t.registry.stubs (t.wanted? n) (t.writing n) (t.step (.advance n)).registry.stubs
        ((t.step (.advance n)).writing n) := by
  cases h : t.calls[n]? with
  | none =>
    have hstep : t.step (.advance n) = t := by simp only [step, h]
    have hahead : t.writing n = .ahead := by rw [writing, h]; rfl
    rw [hstep, hahead]
    exact .inr .approach
  | some call =>
    have hnext : (t.step (.advance n)).calls[n]? = some (call.step t.toShared).2 := by
      simp only [step, h, List.getElem?_set_self (List.getElem?_eq_some_iff.mp h).1]
    rw [writing_of_call h, writing_of_call hnext, wanted_of_call h, registry_advance h]
    exact (Call.moves_step t.toShared call).writes.imp_left fun hbehind => ⟨hbehind.1, hbehind.2.1⟩

theorem writing_other (hevent : event ≠ .advance n) : (t.step event).writing n = t.writing n ∨
    t.writing n = .ahead ∧ (t.step event).writing n = .behind := by
  cases h : t.calls[n]? with
  | some call =>
    obtain hsame | ⟨hgone, request, q, search, rfl, hwait⟩ := calls_step_other h hevent
    · exact .inl ((writing_of_call hsame).trans (writing_of_call h).symm)
    · refine .inr ⟨?_, writing_of_call hgone⟩
      rw [writing_of_call h]
      cases search with
      | start | queued | reading => rfl
      | scanning | counting | removing | finished | escaped => cases hwait
  | none =>
    have hahead : t.writing n = .ahead := by rw [writing, h]; rfl
    rw [hahead]
    cases hnext : (t.step event).calls[n]? with
    | none => exact .inl (by rw [writing, hnext]; rfl)
    | some call =>
      rw [writing_of_call hnext]
      cases t.origin_step event hnext with
      | stayed hold | moved hold => cases h.symm.trans hold
      | began ho =>
        cases ho with
        | add | remove | find => exact .inl rfl
        | clear | getAll => exact .inr ⟨rfl, rfl⟩
      | abandoned => exact .inr ⟨rfl, rfl⟩

theorem attempts_own (h : t.writing n = .underway seen) :
    t.attempts n (.advance n) = (t.wanted? n seen.value).isSome := by
  cases hcall : t.calls[n]? with
  | none =>
    rw [writing, hcall] at h
    cases h
  | some call =>
    rw [writing_of_call hcall] at h
    simp only [attempts, hcall, Option.any_some, Call.attempts_eq h, wanted_of_call hcall,
      decide_true, Bool.true_and]

theorem attempts_of_not_underway (h : (t.writing n).isUnderway = false) (event : Event) :
    t.attempts n event = false := by
  cases event with
  | advance m =>
    cases hcall : t.calls[n]? with
    | none => simp only [attempts, hcall, Option.any_none, Bool.and_false]
    | some call =>
      rw [writing_of_call hcall] at h
      simp only [attempts, hcall, Option.any_some, Call.attempts]
      cases hwriting : call.writing with
      | underway seen =>
        rw [hwriting] at h
        cases h
      | ahead | behind => exact Bool.and_false _
  | create | call | abandon | answer | disturb => rfl

theorem attempts_other (h : event ≠ .advance n) : t.attempts n event = false := by
  cases event with
  | advance m =>
    have hmn : m ≠ n := fun he => h (he ▸ rfl)
    simp only [attempts, hmn, decide_false, Bool.false_and]
  | create | call | abandon | answer | disturb => rfl

theorem overtakes_own : t.overtakes n (.advance n) = false := by simp [overtakes]

theorem overtakes_other (h : event ≠ .advance n) :
    t.overtakes n event = ((t.writing n).isUnderway && t.publishes event) := by
  cases event with
  | advance m =>
    have hmn : m ≠ n := fun he => h (he ▸ rfl)
    simp [overtakes, hmn]
  | create | call | abandon | answer | disturb => exact (Bool.and_false _).symm

theorem version_foldl (t : Traffic) (events : List Event) :
    (events.foldl step t).registry.stubs.version = t.registry.stubs.version +
      tally publishes t events := by
  induction events generalizing t with
  | nil => rfl
  | cons event events ih =>
    rw [List.foldl_cons, ih, tally, ← Nat.add_assoc]
    obtain ⟨hpub, hversion⟩ | ⟨hquiet, hstubs⟩ := t.publishes_step event
    · rw [hversion, hpub]
      rfl
    · rw [hstubs, hquiet]
      rfl

theorem stubs_foldl_of_quiet {events : List Event} (h : tally publishes t events = 0) :
    (events.foldl step t).registry.stubs = t.registry.stubs := by
  induction events generalizing t with
  | nil => rfl
  | cons event events ih =>
    obtain ⟨hfirst, hrest⟩ := Nat.add_eq_zero_iff.mp h
    obtain ⟨hpub, -⟩ | ⟨-, hstubs⟩ := t.publishes_step event
    · rw [hpub] at hfirst
      cases hfirst
    · rw [List.foldl_cons, ih hrest, hstubs]

/-- The attempts of a caller are balanced by what others have published in its way: there is none
before it has loaded the list, no more of them while what it has loaded is current, and one less
when it is not. -/
def Balanced (n : Nat) (t : Traffic) (attempted overtaken : Nat) : Prop :=
  match t.writing n with
  | .ahead => attempted = 0
  | .underway seen => attempted + t.registry.stubs.lag seen ≤ overtaken
  | .behind => attempted ≤ overtaken + 1

theorem balanced_own {attempted overtaken : Nat} (h : Balanced n t attempted overtaken) :
    Balanced n (t.step (.advance n)) (attempted + (t.attempts n (.advance n)).toNat) overtaken := by
  rw [Balanced] at h ⊢
  obtain ⟨hbefore, hafter⟩ | hwrites := t.writes_own n
  · rw [hbefore] at h
    rw [hafter, attempts_of_not_underway (by rw [hbefore]; rfl)]
    exact h
  · generalize hbefore : t.writing n = before at hwrites h
    generalize (t.step (.advance n)).writing n = after at hwrites
    generalize (t.step (.advance n)).registry.stubs = cell at hwrites
    cases hwrites with
    | approach =>
      rw [attempts_of_not_underway (by rw [hbefore]; rfl)]
      exact h
    | miss =>
      rw [attempts_of_not_underway (by rw [hbefore]; rfl)]
      exact Nat.le_succ_of_le (h.trans_le (Nat.zero_le _))
    | load =>
      rw [attempts_of_not_underway (by rw [hbefore]; rfl)]
      simp only [Cell.lag_self]
      exact h.trans_le (Nat.zero_le _)
    | leave hnone =>
      rw [attempts_own hbefore, hnone, Option.isSome_none, Bool.toNat_false]
      omega
    | publish hsome hv =>
      simp only [Cell.lag_of_eq hv] at h
      rw [attempts_own hbefore, hsome, Option.isSome_some, Bool.toNat_true]
      omega
    | retry hsome hv =>
      simp only [Cell.lag_of_ne hv] at h
      simp only [attempts_own hbefore, hsome, Option.isSome_some, Bool.toNat_true, Cell.lag_self]
      exact h

theorem balanced_other {attempted overtaken : Nat} (hevent : event ≠ .advance n)
    (h : Balanced n t attempted overtaken) :
    Balanced n (t.step event) attempted (overtaken + (t.overtakes n event).toNat) := by
  rw [Balanced] at h ⊢
  obtain hsame | ⟨hahead, hbehind⟩ := t.writing_other hevent
  · rw [hsame, overtakes_other hevent]
    cases hwriting : t.writing n with
    | ahead =>
      rw [hwriting] at h
      exact h
    | behind =>
      simp only [hwriting] at h ⊢
      omega
    | underway seen =>
      simp only [hwriting] at h
      have hle := (t.step event).registry.stubs.lag_le_one seen
      obtain ⟨hpub, -⟩ | ⟨hquiet, hstubs⟩ := t.publishes_step event
      · simp only [hpub, Writing.isUnderway, Bool.and_self, Bool.toNat_true]
        omega
      · simp only [hquiet, hstubs, Bool.and_false, Bool.toNat_false]
        exact h
  · rw [hahead] at h
    rw [hbehind]
    exact h.trans_le (Nat.zero_le _)

theorem balanced_step {attempted overtaken : Nat} (h : Balanced n t attempted overtaken)
    (event : Event) :
    Balanced n (t.step event) (attempted + (t.attempts n event).toNat)
      (overtaken + (t.overtakes n event).toNat) := by
  by_cases hevent : event = .advance n
  · subst hevent
    rw [overtakes_own]
    exact balanced_own h
  · rw [attempts_other hevent]
    exact balanced_other hevent h

theorem Balanced.bounded {attempted overtaken : Nat} (h : Balanced n t attempted overtaken) :
    attempted ≤ overtaken + 1 := by
  rw [Balanced] at h
  cases hwriting : t.writing n with
  | ahead | underway | behind =>
    simp only [hwriting] at h
    omega

theorem tally_concat (isCounted : Traffic → Event → Bool) (t : Traffic) (events : List Event)
    (event : Event) :
    tally isCounted t (events ++ [event]) =
      tally isCounted t events + (isCounted (events.foldl step t) event).toNat := by
  rw [tally_append, tally, tally, Nat.add_zero]

theorem balanced_run (requests : Nat → Request) (events : List Event) (n : Nat) :
    Balanced n (run requests events) (tally (attempts n) (start requests) events)
      (tally (overtakes n) (start requests) events) := by
  induction events using List.reverseRecOn with
  | nil => rfl
  | append_singleton events event ih =>
    rw [run_append, tally_concat, tally_concat]
    exact balanced_step ih event

theorem writing_start (requests : Nat → Request) (n : Nat) : (start requests).writing n = .ahead := rfl

theorem seen_own (h : (t.step (.advance n)).writing n = .underway seen) :
    (t.step (.advance n)).registry.stubs = seen := by
  obtain ⟨-, hbehind⟩ | hwrites := t.writes_own n
  · cases hbehind.symm.trans h
  · rw [h] at hwrites
    generalize t.writing n = before at hwrites
    generalize (t.step (.advance n)).registry.stubs = cell at hwrites ⊢
    cases hwrites with
    | load | retry => rfl

theorem exists_load {requests : Nat → Request} {events : List Event}
    (h : (run requests events).writing n = .underway seen) : ∃ first middle,
      events = first ++ .advance n :: middle ∧ .advance n ∉ middle ∧
        (run requests (first ++ [.advance n])).registry.stubs = seen := by
  induction events using List.reverseRecOn with
  | nil => cases (writing_start requests n).symm.trans h
  | append_singleton events event ih =>
    by_cases hevent : event = .advance n
    · subst hevent
      refine ⟨events, [], rfl, List.not_mem_nil, ?_⟩
      rw [run_append] at h ⊢
      exact seen_own h
    · rw [run_append] at h
      obtain hsame | ⟨-, hbehind⟩ := (run requests events).writing_other hevent
      · obtain ⟨first, middle, rfl, hmiddle, hload⟩ := ih (hsame.symm.trans h)
        refine ⟨first, middle ++ [event], by simp, ?_, hload⟩
        simp only [List.mem_append, List.mem_singleton, not_or]
        exact ⟨hmiddle, fun he => hevent he.symm⟩
      · cases hbehind.symm.trans h

theorem attempt_own {next : List Stub} (h : t.writing n = .underway seen)
    (hnext : t.wanted? n seen.value = some next) :
    (t.registry.stubs.version = seen.version ∧ (t.step (.advance n)).registry.stubs =
      t.registry.stubs.store next ∧ (t.step (.advance n)).writing n = .behind) ∨
    (t.registry.stubs.version ≠ seen.version ∧ (t.step (.advance n)).registry.stubs = t.registry.stubs ∧
      (t.step (.advance n)).writing n = .underway t.registry.stubs) := by
  obtain ⟨hbehind, -⟩ | hwrites := t.writes_own n
  · cases hbehind.symm.trans h
  · rw [h] at hwrites
    generalize (t.step (.advance n)).writing n = after at hwrites ⊢
    generalize (t.step (.advance n)).registry.stubs = cell at hwrites ⊢
    cases hwrites with
    | leave hnone => cases hnone.symm.trans hnext
    | publish hsome hv =>
      cases hsome.symm.trans hnext
      exact .inl ⟨hv, rfl, rfl⟩
    | retry hsome hv => exact .inr ⟨hv, rfl, rfl⟩

/-- The caller has loaded the list, and this many steps of its own finish the change if nobody else
publishes. -/
def EndsWithin (n steps : Nat) (t : Traffic) : Prop :=
  match t.writing n with
  | .ahead => False
  | .underway seen => 1 + t.registry.stubs.lag seen ≤ steps
  | .behind => True

theorem endsWithin_own {steps : Nat} (h : EndsWithin n (steps + 1) t) :
    EndsWithin n steps (t.step (.advance n)) := by
  rw [EndsWithin] at h ⊢
  obtain ⟨-, hbehind⟩ | hwrites := t.writes_own n
  · rw [hbehind]
    trivial
  · generalize t.writing n = before at hwrites h
    generalize (t.step (.advance n)).writing n = after at hwrites
    generalize (t.step (.advance n)).registry.stubs = cell at hwrites
    cases hwrites with
    | approach | miss | load => exact h.elim
    | leave | publish => trivial
    | retry hsome hv =>
      simp only [Cell.lag_of_ne hv] at h
      simp only [Cell.lag_self]
      exact Nat.le_of_succ_le_succ h

theorem endsWithin_other {steps : Nat} (hevent : event ≠ .advance n)
    (hstubs : (t.step event).registry.stubs = t.registry.stubs) (h : EndsWithin n steps t) :
    EndsWithin n steps (t.step event) := by
  rw [EndsWithin] at h ⊢
  obtain hsame | ⟨hahead, -⟩ := t.writing_other hevent
  · rw [hsame, hstubs]
    exact h
  · rw [hahead] at h
    exact h.elim

def ownSteps (n : Nat) (t : Traffic) (events : List Event) : Nat :=
  tally (fun _ event => match event with | .advance m => m = n | _ => false) t events

theorem ChangedOnlyBy.endsWithin {more : List Event} {steps : Nat}
    (halone : ChangedOnlyBy n (fun t => t.registry.stubs) t more)
      (h : EndsWithin n (ownSteps n t more + steps) t) :
    EndsWithin n steps (more.foldl step t) := by
  induction more generalizing t with
  | nil => exact Nat.zero_add steps ▸ h
  | cons event more ih =>
    apply ih halone.2
    by_cases hevent : event = .advance n
    · subst hevent
      have hown : ownSteps n t (.advance n :: more) = ownSteps n (t.step (.advance n)) more + 1 := by
        simp [ownSteps, tally, Nat.add_comm]
      rw [hown, Nat.add_right_comm] at h
      exact endsWithin_own h
    · have hown : ownSteps n t (event :: more) = ownSteps n (t.step event) more := by
        cases event with
        | advance m =>
          have hmn : m ≠ n := fun he => hevent (he ▸ rfl)
          simp [ownSteps, tally, hmn]
        | create | call | abandon | answer | disturb => exact Nat.zero_add _
      rw [hown] at h
      exact endsWithin_other hevent (halone.1 hevent) h

/-- An attempt to publish `next`, made from what the caller has loaded with its last step. It
succeeds if nobody has published since; otherwise it changes nothing, and the caller goes on with
the list that is there now. -/
structure Attempt (requests : Nat → Request) (events : List Event) (n : Nat) (seen : Cell (List Stub))
    (next : List Stub) (first middle : List Event) : Prop where
  wanted : (run requests events).wanted? n seen.value = some next
  since : events = first ++ .advance n :: middle ∧ .advance n ∉ middle
  loaded : (run requests (first ++ [.advance n])).registry.stubs = seen
  outcome :
    tally publishes (run requests (first ++ [.advance n])) middle = 0 ∧
      (run requests events).registry.stubs = seen ∧
      (run requests (events ++ [.advance n])).registry.stubs = seen.store next ∧
      (run requests (events ++ [.advance n])).writing n = .behind ∨
    0 < tally publishes (run requests (first ++ [.advance n])) middle ∧
      (run requests (events ++ [.advance n])).registry.stubs = (run requests events).registry.stubs ∧
      (run requests (events ++ [.advance n])).writing n = .underway (run requests events).registry.stubs

theorem exists_attempt {requests : Nat → Request} {events : List Event}
    (h : (run requests events).attempts n (.advance n)) :
    ∃ seen next first middle, Attempt requests events n seen next first middle := by
  cases hseen : (run requests events).writing n with
  | ahead | behind =>
    rw [attempts_of_not_underway (by rw [hseen]; rfl)] at h
    cases h
  | underway seen =>
    rw [attempts_own hseen, Option.isSome_iff_exists] at h
    obtain ⟨next, hnext⟩ := h
    obtain ⟨first, middle, hevents, hmiddle, hload⟩ := exists_load hseen
    refine ⟨seen, next, first, middle, hnext, ⟨hevents, hmiddle⟩, hload, ?_⟩
    have hsplit : run requests events = middle.foldl step (run requests (first ++ [.advance n])) := by
      rw [← run_append, hevents, List.append_assoc, List.singleton_append]
    have hversion := (run requests (first ++ [.advance n])).version_foldl middle
    rw [hload, ← hsplit] at hversion
    rw [run_concat requests events]
    obtain ⟨hv, hpublished, hbehind⟩ | ⟨hv, hkept, hagain⟩ := attempt_own hseen hnext
    · have hquiet : tally publishes (run requests (first ++ [.advance n])) middle = 0 := by omega
      have hstubs := stubs_foldl_of_quiet hquiet
      rw [hload, ← hsplit] at hstubs
      exact .inl ⟨hquiet, hstubs, hstubs ▸ hpublished, hbehind⟩
    · exact .inr ⟨by omega, hkept, hagain⟩

/-- What becomes of a change of the list among others: there is at most one attempt more than others
publish while it is underway; each attempt is made from what was loaded after the one before, and
fails just if others have published since; and a change that is underway is over with the first
attempt, or the second, if nobody else publishes. -/
structure Contends (requests : Nat → Request) (events : List Event) (n : Nat) : Prop where
  bounded : tally (attempts n) (start requests) events ≤ tally (overtakes n) (start requests) events + 1
  attempt : (run requests events).attempts n (.advance n) →
    ∃ seen next first middle, Attempt requests events n seen next first middle
  ends : ∀ seen more, (run requests events).writing n = .underway seen →
    ChangedOnlyBy n (fun t => t.registry.stubs) (run requests events) more →
    1 + (run requests events).registry.stubs.lag seen ≤ ownSteps n (run requests events) more →
    (run requests (events ++ more)).writing n = .behind

theorem contends (requests : Nat → Request) (events : List Event) (n : Nat) :
    Contends requests events n := by
  constructor
  case bounded => exact (balanced_run requests events n).bounded
  case attempt => exact exists_attempt
  case ends =>
    intro seen more hseen halone hsteps
    have hstart : EndsWithin n (ownSteps n (run requests events) more + 0) (run requests events) := by
      rw [EndsWithin, hseen]
      exact hsteps
    have hend := halone.endsWithin hstart
    rw [← run_append, EndsWithin] at hend
    cases hwriting : (run requests (events ++ more)).writing n with
    | behind => rfl
    | ahead =>
      rw [hwriting] at hend
      exact hend.elim
    | underway seen =>
      simp only [hwriting] at hend
      omega

def racing : List Event :=
  [.create onceOnBody.configuration onceOnBody.specification onceOnBody.responder,
    .create onceOnBody.configuration onceOnBody.specification onceOnBody.responder,
    .call (.add 0), .call (.add 1), .advance 0, .advance 1, .advance 0, .advance 1, .advance 1]

example : (tally (attempts 0) (start fun _ => posted) racing,
    tally (overtakes 0) (start fun _ => posted) racing,
    tally (attempts 1) (start fun _ => posted) racing,
      tally (overtakes 1) (start fun _ => posted) racing,
    (run (fun _ => posted) racing).registry.list.length) = (1, 0, 2, 1, 2) := rfl

end Traffic

end StubServer
