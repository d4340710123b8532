import Mathlib.Data.List.Basic
import StubServer.Server.Shutdown

namespace StubServer

/-- What ends then, if ever, has not ended before the given time. -/
def IsOpenAt (time : Nat) (endsAt : Option Nat) : Prop := ∀ e, endsAt = some e → time ≤ e

/-- When the connection ends if those that are open at the given time are told to close then. -/
def Connection.endsWhenTold (c : Connection) (time : Nat) : Option Nat :=
  match c.alone with
  | some e => if e < time then some e else (c.reaction time).map (time + ·)
  | none => (c.reaction time).map (time + ·)

variable {time : Nat} {c : Connection}

theorem Connection.endsWhenTold_of_ended {e : Nat} (he : c.alone = some e) (hlt : e < time) :
    c.endsWhenTold time = some e := by
  simp only [endsWhenTold, he, if_pos hlt]

theorem Connection.endsWhenTold_of_isOpenAt (h : IsOpenAt time c.alone) :
    c.endsWhenTold time = (c.reaction time).map (time + ·) := by
  cases he : c.alone with
  | none => simp only [endsWhenTold, he]
  | some e =>
    have hle : time ≤ e := h e he
    simp only [endsWhenTold, he, if_neg (Nat.not_lt.mpr hle)]

theorem not_isOpenAt {endsAt : Option Nat} {e : Nat} (he : endsAt = some e) (hle : e ≤ time)
    (htie : endsAt ≠ some time) : ¬IsOpenAt time endsAt := by
  intro hopen
  apply htie
  rw [he, Nat.le_antisymm hle (hopen e he)]

namespace Shutdown

theorem firstEnd_eq_none {pending : List Pending} (h : firstEnd pending = none) :
    ∀ p ∈ pending, p.endsAt = none := by
  induction pending with
  | nil => simp
  | cons p rest ih =>
    rw [firstEnd] at h
    cases hp : p.endsAt with
    | none =>
      simp only [hp] at h
      exact List.forall_mem_cons.mpr ⟨hp, ih h⟩
    | some e =>
      simp only [hp] at h
      cases hrest : firstEnd rest <;> simp [hrest] at h

theorem firstEnd_eq_some {pending : List Pending} (h : firstEnd pending = some time) :
    (∃ p ∈ pending, p.endsAt = some time) ∧ ∀ p ∈ pending, ∀ e, p.endsAt = some e → time ≤ e := by
  induction pending generalizing time with
  | nil => cases h
  | cons p rest ih =>
    rw [firstEnd] at h
    cases hp : p.endsAt with
    | none =>
      simp only [hp] at h
      obtain ⟨⟨q, hq, hends⟩, hleast⟩ := ih h
      refine ⟨⟨q, List.mem_cons_of_mem p hq, hends⟩, List.forall_mem_cons.mpr ⟨?_, hleast⟩⟩
      intro e he
      rw [hp] at he
      cases he
    | some a =>
      cases hrest : firstEnd rest with
      | none =>
        simp only [hp, hrest] at h
        cases h
        refine ⟨⟨p, List.mem_cons_self, hp⟩, List.forall_mem_cons.mpr ⟨?_, ?_⟩⟩
        · intro e he
          rw [hp] at he
          cases he
          exact Nat.le_refl _
        · intro q hq e he
          rw [firstEnd_eq_none hrest q hq] at he
          cases he
      | some b =>
        simp only [hp, hrest] at h
        cases h
        obtain ⟨⟨q, hq, hends⟩, hleast⟩ := ih hrest
        refine ⟨?_, List.forall_mem_cons.mpr ⟨?_, ?_⟩⟩
        · by_cases hle : a ≤ b
          · exact ⟨p, List.mem_cons_self, by rw [hp, Nat.min_eq_left hle]⟩
          · exact ⟨q, List.mem_cons_of_mem p hq, by rw [hends, Nat.min_eq_right (by omega)]⟩
        · intro e he
          rw [hp] at he
          cases he
          exact Nat.min_le_left _ _
        · intro r hr e he
          exact Nat.le_trans (Nat.min_le_right a b) (hleast r hr e he)

theorem isOpenAt_of_firstEnd {pending : List Pending} {deadline : Nat}
    (h : ∀ time, firstEnd pending = some time → deadline < time) :
    ∀ p ∈ pending, IsOpenAt deadline p.endsAt := by
  intro p hp e he
  cases hfirst : firstEnd pending with
  | none =>
    rw [firstEnd_eq_none hfirst p hp] at he
    cases he
  | some time =>
    have hle := (firstEnd_eq_some hfirst).2 p hp e he
    have hlt := h time hfirst
    omega

/-- The connections that are pending are those that have not ended by now, each of which ends when
it should; and when none is left, the last has ended just now. -/
structure Keeps (connections : List Connection) (endOf : Connection → Option Nat) (now : Nat)
    (pending : List Pending) : Prop where
  numbers : (pending.map (·.number)).Sublist (List.range connections.length)
  listed : ∀ p ∈ pending, connections[p.number]? = some p.connection
  ends : ∀ p ∈ pending, p.endsAt = endOf p.connection
  later : ∀ p ∈ pending, ∀ e, p.endsAt = some e → now ≤ e
  ended : ∀ n c, connections[n]? = some c → n ∉ pending.map (·.number) → ∃ e, endOf c = some e ∧ e ≤ now
  last : pending = [] → connections = [] ∧ now = 0 ∨ ∃ c ∈ connections, endOf c = some now

variable {connections : List Connection} {endOf : Connection → Option Nat} {now : Nat}
  {pending : List Pending}

theorem map_number (n : Nat) (connections : List Connection) :
    (number n connections).map (·.number) = List.range' n connections.length := by
  induction connections generalizing n with
  | nil => rfl
  | cons c rest ih => simp only [number, List.map_cons, ih, List.length_cons, List.range'_succ]

theorem mem_number {n : Nat} {p : Pending} (h : p ∈ number n connections) :
    ∃ i, p.number = n + i ∧ connections[i]? = some p.connection ∧ p.endsAt = p.connection.alone := by
  induction connections generalizing n with
  | nil => cases h
  | cons c rest ih =>
    obtain rfl | h := List.mem_cons.mp h
    · exact ⟨0, rfl, rfl, rfl⟩
    · obtain ⟨i, hnumber, hat, halone⟩ := ih h
      exact ⟨i + 1, by omega, hat, halone⟩

theorem keeps_number (connections : List Connection) :
    Keeps connections Connection.alone 0 (number 0 connections) := by
  have hnumbers := map_number 0 connections
  rw [← List.range_eq_range'] at hnumbers
  refine ⟨hnumbers ▸ .refl _, fun p hp => ?_, fun p hp => ?_, fun p hp e he =>
    Nat.zero_le e, ?_, fun h => .inl ?_⟩
  · obtain ⟨i, hi, hat, -⟩ := mem_number hp
    rwa [hi, Nat.zero_add]
  · obtain ⟨i, -, -, halone⟩ := mem_number hp
    exact halone
  · intro n c hat hnot
    rw [hnumbers, List.mem_range] at hnot
    exact absurd (List.getElem?_eq_some_iff.mp hat).1 hnot
  · rw [h, List.map_nil, eq_comm, List.range_eq_nil, List.length_eq_zero_iff] at hnumbers
    exact ⟨hnumbers, rfl⟩

theorem hasEnded_iff {p : Pending} : p.hasEnded time = true ↔ ∃ e, p.endsAt = some e ∧ e ≤ time := by
  rw [Pending.hasEnded]
  cases p.endsAt <;> simp

theorem Keeps.advance (h : Keeps connections endOf now pending) (hfirst : firstEnd pending = some time) :
    Keeps connections endOf (max now time) (pending.filter fun p => !p.hasEnded time) := by
  obtain ⟨⟨first, hmem, hends⟩, hleast⟩ := firstEnd_eq_some hfirst
  have hmax : max now time = time := Nat.max_eq_right (h.later first hmem time hends)
  have hkept : ∀ p ∈ pending.filter fun p => !p.hasEnded time, p ∈ pending ∧
    p.hasEnded time = false := by
    intro p hp
    rw [List.mem_filter, Bool.not_eq_true'] at hp
    exact hp
  rw [hmax]
  refine ⟨(List.filter_sublist.map _).trans h.numbers, fun p hp => h.listed p (hkept p hp).1,
    fun p hp => h.ends p (hkept p hp).1, fun p hp => hleast p (hkept p hp).1,
      fun n c hat hnot => ?_, fun _ => ?_⟩
  · by_cases hin : n ∈ pending.map (·.number)
    · obtain ⟨p, hp, rfl⟩ := List.mem_map.mp hin
      have hended : p.hasEnded time = true := by
        by_contra hopen
        apply hnot
        exact List.mem_map.mpr ⟨p, List.mem_filter.mpr ⟨hp, by simp [hopen]⟩, rfl⟩
      obtain ⟨e, he, hle⟩ := hasEnded_iff.mp hended
      obtain rfl : p.connection = c := Option.some.inj ((h.listed p hp).symm.trans hat)
      exact ⟨e, (h.ends p hp).symm.trans he, hle⟩
    · obtain ⟨e, he, hle⟩ := h.ended n c hat hin
      exact ⟨e, he, hmax ▸ Nat.le_trans hle (Nat.le_max_left now time)⟩
  · exact .inr ⟨first.connection, List.mem_of_getElem? (h.listed first hmem),
      (h.ends first hmem).symm.trans hends⟩

theorem length_filter_lt (hfirst : firstEnd pending = some time) :
    (pending.filter fun p => !p.hasEnded time).length < pending.length := by
  obtain ⟨⟨first, hmem, hends⟩, -⟩ := firstEnd_eq_some hfirst
  apply List.length_filter_lt_length_iff_exists.mpr
  exact ⟨first, hmem, by simp [hasEnded_iff.mpr ⟨time, hends, Nat.le_refl time⟩]⟩

theorem Keeps.tell (h : Keeps connections Connection.alone now pending) (hnow : now ≤ time)
    (hopen : ∀ p ∈ pending, IsOpenAt time p.endsAt) (hne : pending ≠ [])
    (hties : ∀ c ∈ connections, c.alone ≠ some time) :
    Keeps connections (·.endsWhenTold time) time (pending.map (·.tell time)) := by
  have hnumbers : (pending.map (·.tell time)).map (·.number) = pending.map (·.number) := by
    simp only [List.map_map]
    rfl
  have htold : ∀ p ∈ pending, (p.tell time).endsAt = p.connection.endsWhenTold time := by
    intro p hp
    have hp' := hopen p hp
    rw [h.ends p hp] at hp'
    exact (Connection.endsWhenTold_of_isOpenAt hp').symm
  refine ⟨hnumbers ▸ h.numbers, ?_, ?_, ?_, fun n c hat hnot => ?_,
    fun hnil => absurd (List.map_eq_nil_iff.mp hnil) hne⟩
  · intro q hq
    obtain ⟨p, hp, rfl⟩ := List.mem_map.mp hq
    exact h.listed p hp
  · intro q hq
    obtain ⟨p, hp, rfl⟩ := List.mem_map.mp hq
    exact htold p hp
  · intro q hq e he
    obtain ⟨p, hp, rfl⟩ := List.mem_map.mp hq
    obtain ⟨wait, -, rfl⟩ := Option.map_eq_some_iff.mp he
    exact Nat.le_add_right time wait
  · obtain ⟨e, he, hle⟩ := h.ended n c hat (hnumbers ▸ hnot)
    have hne : e ≠ time := fun heq => hties c (List.mem_of_getElem? hat) (heq ▸ he)
    exact ⟨e, Connection.endsWhenTold_of_ended he (by omega), by omega⟩

theorem Keeps.mem_iff (h : Keeps connections endOf now pending) (hnow : now ≤ time)
    (hopen : ∀ p ∈ pending, IsOpenAt time p.endsAt)
    (hties : ∀ c ∈ connections, endOf c ≠ some time) (n : Nat) :
    n ∈ pending.map (·.number) ↔ ∃ c, connections[n]? = some c ∧ IsOpenAt time (endOf c) := by
  constructor
  · intro hin
    obtain ⟨p, hp, rfl⟩ := List.mem_map.mp hin
    exact ⟨p.connection, h.listed p hp, h.ends p hp ▸ hopen p hp⟩
  · rintro ⟨c, hat, hc⟩
    by_contra hnot
    obtain ⟨e, he, hle⟩ := h.ended n c hat hnot
    exact not_isOpenAt he (Nat.le_trans hle hnow) (hties c (List.mem_of_getElem? hat)) hc

/-- So the connections have ended, the last of them just now. -/
structure Ended (connections : List Connection) (endOf : Connection → Option Nat) (now : Nat) :
    Prop where
  all : ∀ c ∈ connections, ∃ e, endOf c = some e ∧ e ≤ now
  last : connections = [] ∧ now = 0 ∨ ∃ c ∈ connections, endOf c = some now

theorem Keeps.ended_all (h : Keeps connections endOf now []) : Ended connections endOf now := by
  refine ⟨fun c hc => ?_, h.last rfl⟩
  obtain ⟨n, hat⟩ := List.mem_iff_getElem?.mp hc
  exact h.ended n c hat List.not_mem_nil

namespace Drain

variable {timeouts : Timeouts} {d : Drain}

/-- How a shutdown stands in each phase, with the two ways to be over before the timeout and the one
to be over then. -/
inductive Stands (timeouts : Timeouts) (connections : List Connection) : Drain → Prop
  | waiting {now : Nat} {pending : List Pending} {log : List LogEvent}
      (hkeeps : Keeps connections Connection.alone now pending) (hnow : now ≤ timeouts.grace.nanos) :
      Stands timeouts connections ⟨.waiting, now, timeouts.grace.nanos, pending, none, [], log⟩
  | closing {now : Nat} {pending : List Pending} {log : List LogEvent}
      (hkeeps : Keeps connections (·.endsWhenTold timeouts.grace.nanos) now pending)
      (hopen : ∃ c ∈ connections, IsOpenAt timeouts.grace.nanos c.alone)
      (hgrace : timeouts.grace.nanos ≤ now) (hnow : now ≤ timeouts.timeout.nanos) :
      Stands timeouts connections
        ⟨.closing, now, timeouts.timeout.nanos, pending, some timeouts.grace.nanos, [], log⟩
  | settled {now deadline : Nat} {log : List LogEvent}
      (hended : Ended connections Connection.alone now) (hnow : now ≤ timeouts.grace.nanos) :
      Stands timeouts connections ⟨.over, now, deadline, [], none, [], log⟩
  | closed {now deadline : Nat} {log : List LogEvent}
      (hended : Ended connections (·.endsWhenTold timeouts.grace.nanos) now)
      (hopen : ∃ c ∈ connections, IsOpenAt timeouts.grace.nanos c.alone)
      (hgrace : timeouts.grace.nanos ≤ now) (hnow : now ≤ timeouts.timeout.nanos) :
      Stands timeouts connections ⟨.over, now, deadline, [], some timeouts.grace.nanos, [], log⟩
  | aborted {deadline : Nat} {numbers : List Nat} {log : List LogEvent} (hne : numbers ≠ [])
      (hnumbers : numbers.Sublist (List.range connections.length))
      (hmem : ∀ n, n ∈ numbers ↔ ∃ c, connections[n]? = some c ∧
        IsOpenAt timeouts.timeout.nanos (c.endsWhenTold timeouts.grace.nanos))
      (hopen : ∃ c ∈ connections, IsOpenAt timeouts.grace.nanos c.alone) :
      Stands timeouts connections
        ⟨.over, timeouts.timeout.nanos, deadline, [], some timeouts.grace.nanos, numbers, log⟩

theorem stands_start (timeouts : Timeouts) (connections : List Connection) :
    Stands timeouts connections (start timeouts connections) :=
  .waiting (keeps_number connections) (Nat.zero_le _)

/-- What a step does while the shutdown is not over: it is over when nobody is left, goes on to the
next end if that is in time, and otherwise to the end of the phase. -/
theorem step_cases (timeouts : Timeouts) (hphase : d.phase ≠ .over) :
    (d.pending = [] ∧ d.step timeouts = { d with phase := .over }) ∨
    (∃ time, firstEnd d.pending = some time ∧ time ≤ d.deadline ∧ d.step timeouts = d.advance time) ∨
    (d.pending ≠ [] ∧ (∀ p ∈ d.pending, IsOpenAt d.deadline p.endsAt) ∧
      d.step timeouts = d.expire timeouts) := by
  rw [step, if_neg hphase]
  by_cases hpending : d.pending = []
  · left
    simp [hpending]
  · right
    rw [if_neg (by simpa using hpending)]
    cases hfirst : firstEnd d.pending with
    | none =>
      right
      refine ⟨hpending, isOpenAt_of_firstEnd fun time htime => ?_, rfl⟩
      rw [hfirst] at htime
      cases htime
    | some time =>
      by_cases htime : time ≤ d.deadline
      · exact .inl ⟨time, rfl, htime, if_pos htime⟩
      · right
        refine ⟨hpending, isOpenAt_of_firstEnd fun other hother => ?_, if_neg htime⟩
        rw [hfirst] at hother
        cases hother
        omega

theorem Stands.step (h : Stands timeouts connections d)
    (hgrace : ∀ c ∈ connections, c.alone ≠ some timeouts.grace.nanos)
    (htimeout : ∀ c ∈ connections, c.endsWhenTold timeouts.grace.nanos ≠ some timeouts.timeout.nanos) :
    Stands timeouts connections (d.step timeouts) := by
  have hordered : timeouts.grace.nanos + timeouts.remaining.nanos = timeouts.timeout.nanos :=
    Nat.add_sub_cancel' timeouts.ordered
  cases h with
  | waiting hkeeps hnow =>
    obtain ⟨hnil, hstep⟩ | ⟨time, hfirst, htime, hstep⟩ | ⟨hne, hopen, hstep⟩ :=
      step_cases (d := ⟨.waiting, _, timeouts.grace.nanos, _, none, [], _⟩) timeouts (by simp)
    · rw [hstep]
      obtain rfl : _ = [] := hnil
      exact .settled hkeeps.ended_all hnow
    · rw [hstep]
      exact .waiting (hkeeps.advance hfirst) (Nat.max_le.mpr ⟨hnow, htime⟩)
    · rw [hstep]
      have htold := hkeeps.tell hnow hopen hne hgrace
      obtain ⟨p, hp⟩ := List.exists_mem_of_ne_nil _ hne
      have hat : ∃ c ∈ connections, IsOpenAt timeouts.grace.nanos c.alone :=
        ⟨p.connection, List.mem_of_getElem? (hkeeps.listed p hp), hkeeps.ends p hp ▸ hopen p hp⟩
      simp only [expire, hordered]
      exact .closing htold hat (Nat.le_refl _) timeouts.ordered
  | closing hkeeps hat htold hnow =>
    obtain ⟨hnil, hstep⟩ | ⟨time, hfirst, htime, hstep⟩ | ⟨hne, hopen, hstep⟩ :=
      step_cases (d := ⟨.closing, _, timeouts.timeout.nanos, _, some timeouts.grace.nanos, [], _⟩)
        timeouts (by simp)
    · rw [hstep]
      obtain rfl : _ = [] := hnil
      exact .closed hkeeps.ended_all hat htold hnow
    · rw [hstep]
      exact .closing (hkeeps.advance hfirst) hat (Nat.le_trans htold (Nat.le_max_left _ _))
        (Nat.max_le.mpr ⟨hnow, htime⟩)
    · rw [hstep]
      exact .aborted (by simpa using hne) hkeeps.numbers (hkeeps.mem_iff hnow hopen htimeout) hat
  | settled hended hnow => exact .settled hended hnow
  | closed hended hat htold hnow => exact .closed hended hat htold hnow
  | aborted hne hnumbers hmem hat => exact .aborted hne hnumbers hmem hat

theorem stands_steps (h : Stands timeouts connections d)
    (hgrace : ∀ c ∈ connections, c.alone ≠ some timeouts.grace.nanos)
    (htimeout : ∀ c ∈ connections, c.endsWhenTold timeouts.grace.nanos ≠
      some timeouts.timeout.nanos) (n : Nat) :
    Stands timeouts connections (steps timeouts n d) := by
  induction n generalizing d with
  | zero => exact h
  | succ n ih => exact ih (h.step hgrace htimeout)

def left (d : Drain) : Nat :=
  match d.phase with
  | .waiting => d.pending.length + 2
  | .closing => d.pending.length + 1
  | .over => 0

theorem phase_cases (hphase : d.phase ≠ .over) : d.phase = .waiting ∨ d.phase = .closing := by
  revert hphase
  cases d.phase <;> simp

theorem left_step (timeouts : Timeouts) (hphase : d.phase ≠ .over) :
    (d.step timeouts).left < d.left := by
  obtain ⟨-, hstep⟩ | ⟨time, hfirst, -, hstep⟩ | ⟨-, -, hstep⟩ := step_cases timeouts hphase
  · rw [hstep]
    obtain hd | hd := phase_cases hphase <;> simp [left, hd]
  · have hless := length_filter_lt hfirst
    rw [hstep]
    obtain hd | hd := phase_cases hphase <;> simpa [left, advance, hd] using hless
  · rw [hstep]
    obtain hd | hd := phase_cases hphase <;> simp [left, expire, hd]

theorem phase_steps (timeouts : Timeouts) {n : Nat} (hn : d.left ≤ n) :
    (steps timeouts n d).phase = .over := by
  induction n generalizing d with
  | zero =>
    by_contra hnot
    have hphase : d.phase ≠ .over := hnot
    obtain hd | hd := phase_cases hphase <;> simp [left, hd] at hn
  | succ n ih =>
    apply ih
    by_cases hphase : d.phase = .over
    · have hstep : d.step timeouts = d := by rw [step, if_pos hphase]
      have hleft : d.left = 0 := by simp only [left, hphase]
      rw [hstep, hleft]
      exact Nat.zero_le n
    · have hless := left_step timeouts hphase
      omega

theorem length_number (n : Nat) (connections : List Connection) :
    (number n connections).length = connections.length := by
  have h := congrArg List.length (map_number n connections)
  rwa [List.length_map, List.length_range'] at h

theorem run_over (timeouts : Timeouts) (connections : List Connection) :
    (run timeouts connections).phase = .over := by
  apply phase_steps
  simp only [left, start, length_number]
  omega

theorem Stands.in_time (h : Stands timeouts connections d) : d.now ≤ timeouts.timeout.nanos ∧
    (d.toldAt ≠ none → timeouts.grace.nanos ≤ d.now) ∧
    (d.aborted ≠ [] → d.now = timeouts.timeout.nanos) := by
  have hordered : timeouts.grace.nanos ≤ timeouts.timeout.nanos := timeouts.ordered
  cases h with
  | waiting _ hnow | settled _ hnow =>
    exact ⟨Nat.le_trans hnow hordered, fun hne => absurd rfl hne, fun hne => absurd rfl hne⟩
  | closing _ _ htold hnow | closed _ _ htold hnow =>
    exact ⟨hnow, fun _ => htold, fun hne => absurd rfl hne⟩
  | aborted => exact ⟨Nat.le_refl _, fun _ => hordered, fun _ => rfl⟩

theorem ended_told (h : Ended connections Connection.alone now) (hnow : now ≤ time)
    (hties : ∀ c ∈ connections, c.alone ≠ some time) : Ended connections (·.endsWhenTold time) now := by
  have htold : ∀ c ∈ connections, c.endsWhenTold time = c.alone := by
    intro c hc
    obtain ⟨e, he, hle⟩ := h.all c hc
    have hne : e ≠ time := fun heq => hties c hc (heq ▸ he)
    rw [Connection.endsWhenTold_of_ended he (by omega), he]
  refine ⟨fun c hc => ?_, h.last.imp_right ?_⟩
  · rw [htold c hc]
    exact h.all c hc
  · rintro ⟨c, hc, hends⟩
    exact ⟨c, hc, (htold c hc).trans hends⟩

theorem not_isOpenAt_of_ended (h : Ended connections endOf now) (hnow : now ≤ time)
    (hties : ∀ c ∈ connections, endOf c ≠ some time) : ∀ c ∈ connections, ¬IsOpenAt time (endOf c) := by
  intro c hc
  obtain ⟨e, he, hle⟩ := h.all c hc
  exact not_isOpenAt he (Nat.le_trans hle hnow) (hties c hc)

/-- What a shutdown has done when it is over. -/
structure Drained (timeouts : Timeouts) (connections : List Connection) (d : Drain) : Prop where
  told_iff : ∀ time, d.toldAt = some time ↔
    time = timeouts.grace.nanos ∧ ∃ c ∈ connections, IsOpenAt timeouts.grace.nanos c.alone
  aborted_iff : ∀ n, n ∈ d.aborted ↔ ∃ c, connections[n]? = some c ∧
    IsOpenAt timeouts.timeout.nanos (c.endsWhenTold timeouts.grace.nanos)
  aborted_once : d.aborted.Nodup
  returns : (∀ c ∈ connections, ¬IsOpenAt timeouts.timeout.nanos (c.endsWhenTold timeouts.grace.nanos)) →
    Ended connections (·.endsWhenTold timeouts.grace.nanos) d.now
  returns_late :
    (∃ c ∈ connections, IsOpenAt timeouts.timeout.nanos (c.endsWhenTold timeouts.grace.nanos)) →
    d.now = timeouts.timeout.nanos

theorem drained_of_ended (hended : Ended connections (·.endsWhenTold timeouts.grace.nanos) d.now)
    (hnow : d.now ≤ timeouts.timeout.nanos) (hnobody : d.aborted = [])
    (htold : ∀ time, d.toldAt = some time ↔
      time = timeouts.grace.nanos ∧ ∃ c ∈ connections, IsOpenAt timeouts.grace.nanos c.alone)
    (hties : ∀ c ∈ connections, c.endsWhenTold timeouts.grace.nanos ≠ some timeouts.timeout.nanos) :
    Drained timeouts connections d := by
  have hclosed := not_isOpenAt_of_ended hended hnow hties
  refine ⟨htold, fun n => ?_, ?_, fun _ => hended, ?_⟩
  · rw [hnobody]
    refine ⟨fun hin => absurd hin List.not_mem_nil, ?_⟩
    rintro ⟨c, hat, hopen⟩
    exact absurd hopen (hclosed c (List.mem_of_getElem? hat))
  · rw [hnobody]
    exact List.nodup_nil
  · rintro ⟨c, hc, hopen⟩
    exact absurd hopen (hclosed c hc)

theorem Stands.drained (h : Stands timeouts connections d) (hover : d.phase = .over)
    (hgrace : ∀ c ∈ connections, c.alone ≠ some timeouts.grace.nanos)
    (htimeout : ∀ c ∈ connections, c.endsWhenTold timeouts.grace.nanos ≠ some timeouts.timeout.nanos) :
    Drained timeouts connections d := by
  cases h with
  | waiting | closing => cases hover
  | settled hended hnow =>
    have hlate := Nat.le_trans hnow timeouts.ordered
    refine drained_of_ended (ended_told hended hnow hgrace) hlate rfl (fun time => ?_) htimeout
    refine ⟨fun htold => (nomatch htold), ?_⟩
    rintro ⟨-, c, hc, hopen⟩
    exact absurd hopen (not_isOpenAt_of_ended hended hnow hgrace c hc)
  | closed hended hat htold hnow =>
    refine drained_of_ended hended hnow rfl (fun time => ?_) htimeout
    exact ⟨fun h => ⟨(Option.some.inj h).symm, hat⟩, fun h => congrArg some h.1.symm⟩
  | aborted hne hnumbers hmem hat =>
    refine ⟨fun time => ⟨fun h => ⟨(Option.some.inj h).symm, hat⟩, fun h => congrArg some h.1.symm⟩,
      hmem, hnumbers.nodup List.nodup_range, fun hclosed => ?_, fun _ => rfl⟩
    obtain ⟨n, hn⟩ := List.exists_mem_of_ne_nil _ hne
    obtain ⟨c, hc, hopen⟩ := (hmem n).mp hn
    exact absurd hopen (hclosed c (List.mem_of_getElem? hc))

/-- What a shutdown does: it comes to an end, and never does anything too early or too late on the
way. -/
structure Drains (timeouts : Timeouts) (connections : List Connection) : Prop
    extends Drained timeouts connections (run timeouts connections) where
  ends : (run timeouts connections).phase = .over
  in_time : ∀ n, (steps timeouts n (start timeouts connections)).now ≤ timeouts.timeout.nanos ∧
    ((steps timeouts n (start timeouts connections)).toldAt ≠ none →
      timeouts.grace.nanos ≤ (steps timeouts n (start timeouts connections)).now) ∧
    ((steps timeouts n (start timeouts connections)).aborted ≠ [] →
      (steps timeouts n (start timeouts connections)).now = timeouts.timeout.nanos)

/-- Whatever the connections do, as long as none ends at a deadline. -/
theorem drains_run (timeouts : Timeouts) (connections : List Connection)
    (hgrace : ∀ c ∈ connections, c.alone ≠ some timeouts.grace.nanos)
    (htimeout : ∀ c ∈ connections, c.endsWhenTold timeouts.grace.nanos ≠ some timeouts.timeout.nanos) :
    Drains timeouts connections := by
  have hstands : ∀ n, Stands timeouts connections (steps timeouts n (start timeouts connections)) :=
    stands_steps (stands_start timeouts connections) hgrace htimeout
  have hover := run_over timeouts connections
  exact ⟨(hstands _).drained hover hgrace htimeout, hover, fun n => (hstands n).in_time⟩

def mixed : List Connection :=
  [⟨some 3, fun _ => none⟩, ⟨none, fun _ => some 0⟩, ⟨some 40, fun time => some (35 - time)⟩,
    ⟨none, fun _ => none⟩]

theorem drains_run_mixed :
    (∀ c ∈ mixed, c.alone ≠ some 10) ∧ (∀ c ∈ mixed, c.endsWhenTold 10 ≠ some 100) ∧
    (run ⟨⟨10⟩, ⟨100⟩, by decide⟩ mixed).aborted = [3] ∧ Drains ⟨⟨10⟩, ⟨100⟩, by decide⟩ mixed := by
  have hgrace : ∀ c ∈ mixed, c.alone ≠ some 10 := by simp [mixed]
  have htimeout : ∀ c ∈ mixed, c.endsWhenTold 10 ≠ some 100 := by simp [mixed, Connection.endsWhenTold]
  exact ⟨hgrace, htimeout, by decide, drains_run ⟨⟨10⟩, ⟨100⟩, by decide⟩ mixed hgrace htimeout⟩

end Drain

end Shutdown

end StubServer
