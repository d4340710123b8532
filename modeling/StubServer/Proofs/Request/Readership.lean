import Mathlib.Algebra.Ring.Nat
import StubServer.Proofs.Request.Readers
import StubServer.Proofs.Shared.Queue

namespace StubServer.Request.Readership

variable {queue : List Nat} {readers : List (Option Reader)} {n : Nat} {reader : Reader}

theorem lt_of_at {x : Option Reader} (h : readers[n]? = some x) : n < readers.length :=
  (List.getElem?_eq_some_iff.mp h).1

def pulls (n : Nat) (past : List Arrival) : List Moment :=
  past.flatMap fun next => [.asked n next, .got n next]

@[irreducible]
def record (n : Nat) (past : List Arrival) (more : List Moment) : List Moment :=
  .took n :: (pulls n past ++ more)

theorem record_append (n : Nat) (past : List Arrival) (more moments : List Moment) :
    record n past more ++ moments = record n past (more ++ moments) := by
  simp [record]

theorem record_concat (n : Nat) (past : List Arrival) (next : Arrival) (more : List Moment) :
    record n (past ++ [next]) more = record n past (.asked n next :: .got n next :: more) := by
  simp [record, pulls]

theorem filterMap_record (n : Nat) (past : List Arrival) (more : List Moment) :
    (record n past more).filterMap Moment.pulled? = past ++ more.filterMap Moment.pulled? := by
  have hpulls : (pulls n past).filterMap Moment.pulled? = past := by
    induction past with
    | nil => rfl
    | cons next past ih =>
      simp only [pulls, List.flatMap_cons, List.cons_append, List.nil_append, List.filterMap_cons,
        Moment.pulled?]
      exact congrArg (next :: ·) ih
  rw [record, List.filterMap_cons_none rfl, List.filterMap_append, hpulls]

theorem mem_record {n : Nat} {past : List Arrival} {more : List Moment} {moment : Moment} :
    moment ∈ record n past more ↔ moment = .took n ∨
      (∃ next ∈ past, moment = .asked n next ∨ moment = .got n next) ∨ moment ∈ more := by
  simp [record, pulls]

/-- How far the source has come: its state and the bytes in store, the frames asked for, what has
been done to it, the reader who took it with where that reader stands, and what all readers are told
from now on. -/
inductive Stage (frames : List Arrival) : BodyState → Option Bytes → Nat → List Moment →
    Option (Nat × Option Reader) → Option (Except BodyError Bytes) → Prop
  | untouched : Stage frames (.unread frames) none 0 [] none none
  | draining (n : Nat) (past rest : List Arrival) (h : frames = past ++ rest)
      (hsound : breakage? past = none) :
      Stage frames .taken none past.length (record n past [])
        (some (n, some (.draining rest (content past)))) none
  | awaiting (n : Nat) (past : List Arrival) (next : Arrival) (rest : List Arrival)
      (h : frames = past ++ next :: rest) (hsound : breakage? past = none) :
      Stage frames .taken none (past.length + 1) (record n past [.asked n next])
        (some (n, some (.awaiting next rest (content past)))) none
  | read (n : Nat) (hsound : breakage? frames = none) :
      Stage frames .done (some (content frames)) frames.length (record n frames [])
        (some (n, some (.finished (.ok (content frames))))) (some (.ok (content frames)))
  | broken (n : Nat) (past : List Arrival) (next : Arrival) (rest : List Arrival) (reason : String)
      (h : frames = past ++ next :: rest) (hsound : breakage? past = none)
      (hbreak : next.frame.failure? = some reason) :
      Stage frames (.failed reason) none (past.length + 1) (record n past [.asked n next, .got n next])
        (some (n, some (.finished (.error (.unreadable reason))))) (some (.error (.unreadable reason)))
  | abandoned (n : Nat) (past rest : List Arrival) (h : frames = past ++ rest)
      (hsound : breakage? past = none) :
      Stage frames .taken none past.length (record n past [.left n])
        (some (n, none)) (some (.error Reader.interrupted))
  | missed (n : Nat) (past : List Arrival) (next : Arrival) (rest : List Arrival)
      (h : frames = past ++ next :: rest) (hsound : breakage? past = none) :
      Stage frames .taken none (past.length + 1) (record n past [.asked n next, .left n])
        (some (n, none)) (some (.error Reader.interrupted))

/-- The readers and how far the source has come: who took it stands where the source says, nobody
else drains it, and who has finished has been told what all are told. -/
structure Fits (taker : Option (Nat × Option Reader)) (told : Option (Except BodyError Bytes))
    (readers : List (Option Reader)) : Prop where
  at_taker : ∀ n reader, taker = some (n, reader) → readers[n]? = some reader
  of_draining : ∀ (n : Nat) reader, readers[n]? = some (some reader) → reader.isDraining →
    taker = some (n, some reader)
  of_told : ∀ (n : Nat) result, readers[n]? = some (some (.finished result)) → told = some result

variable {frames : List Arrival} {state : BodyState} {cached : Option Bytes} {asked : Nat}
  {history : List Moment}
variable {taker : Option (Nat × Option Reader)} {told : Option (Except BodyError Bytes)}

namespace Fits

theorem call (h : Fits taker told readers) : Fits taker told (readers ++ [some .start]) := by
  refine ⟨fun n reader ht => ?_, fun n reader hat hdrain => ?_, fun n result hat => ?_⟩
  · have hat := h.at_taker n reader ht
    rwa [List.getElem?_append_left (lt_of_at hat)]
  · obtain hat | ⟨-, he⟩ := getElem?_concat_cases hat
    · exact h.of_draining n reader hat hdrain
    · cases he
      cases hdrain
  · obtain hat | ⟨-, he⟩ := getElem?_concat_cases hat
    · exact h.of_told n result hat
    · cases he

theorem aside {x : Option Reader} (h : Fits taker told readers)
    (htaker : ∀ reader, taker ≠ some (n, reader))
    (hx : ∀ reader, x = some reader → reader.isDraining = false)
    (htold : ∀ result, x = some (.finished result) → told = some result) :
    Fits taker told (readers.set n x) := by
  refine ⟨fun m reader ht => ?_, fun m reader hat hdrain => ?_, fun m result hat => ?_⟩
  · have hne : n ≠ m := fun he => htaker reader (he ▸ ht)
    rw [List.getElem?_set_ne hne]
    exact h.at_taker m reader ht
  · obtain ⟨-, he⟩ | ⟨-, hat⟩ := getElem?_set_cases hat
    · rw [hx reader he.symm] at hdrain
      cases hdrain
    · exact h.of_draining m reader hat hdrain
  · obtain ⟨-, he⟩ | ⟨-, hat⟩ := getElem?_set_cases hat
    · exact htold result he.symm
    · exact h.of_told m result hat

theorem take {x : Option Reader} {told' : Option (Except BodyError Bytes)} (h : Fits taker none readers)
    (htaker : ∀ m reader, taker = some (m, reader) → m = n) (hn : n < readers.length)
    (htold : ∀ result, x = some (.finished result) → told' = some result) :
    Fits (some (n, x)) told' (readers.set n x) := by
  refine ⟨fun m reader ht => ?_, fun m reader hat hdrain => ?_, fun m result hat => ?_⟩
  · cases ht
    exact List.getElem?_set_self hn
  · obtain ⟨rfl, rfl⟩ | ⟨hne, hat⟩ := getElem?_set_cases hat
    · rfl
    · exact absurd (htaker m _ (h.of_draining m reader hat hdrain)) hne
  · obtain ⟨-, he⟩ | ⟨-, hat⟩ := getElem?_set_cases hat
    · exact htold result he.symm
    · exact nomatch h.of_told m result hat

end Fits

structure Sound (frames : List Arrival) (r : Readership) : Prop where
  inTurn : InTurn (Option.any Reader.isInLine) (Option.any Reader.isDraining) r.body.queue r.readers
  stage : ∃ taker told, Stage frames r.body.state r.body.cached r.body.asked r.history taker told ∧
    Fits taker told r.readers

theorem sound_start (frames : List Arrival) : Sound frames ⟨.ofFrames frames, [], []⟩ := by
  have hnone : ∀ (n : Nat) (x : Option Reader), ([] : List (Option Reader))[n]? ≠ some x := by simp
  refine ⟨.empty (by simp) (by simp), none, none, .untouched, ?_⟩
  exact ⟨fun _ _ h => (nomatch h), fun n _ h => absurd h (hnone n _), fun n _ h => absurd h (hnone n _)⟩

theorem Stage.taker_ne (hstage : Stage frames state cached asked history taker told)
    (hfits : Fits taker told readers)
    (hat : readers[n]? = some (some reader)) (hdrain : reader.isDraining = false)
    (hf : ∀ result, reader ≠ .finished result) (x : Option Reader) : taker ≠ some (n, x) := by
  intro ht
  have hx : x = some reader := Option.some.inj ((hfits.at_taker n x ht).symm.trans hat)
  subst hx
  cases hstage with
  | untouched | abandoned | missed => cases ht
  | draining | awaiting =>
    cases ht
    cases hdrain
  | read | broken =>
    cases ht
    exact hf _ rfl

theorem Stage.told_eq (hstage : Stage frames state cached asked history taker told)
    (hstate : cached = none → ∀ frames, state ≠ .unread frames)
    (htaker : ∀ m reader, taker = some (m, some reader) → reader.isDraining = false) (queue : List Nat) :
    told = some (Body.outcome ⟨state, cached, queue, asked⟩) := by
  cases hstage with
  | untouched => exact absurd rfl (hstate rfl frames)
  | draining | awaiting => exact nomatch htaker _ _ rfl
  | read | broken | abandoned | missed => rfl

section

variable {body body' : Body} {reader' : Reader}

theorem inTurn_moves (h : Reader.Moves n body reader body' reader')
    (hturn : InTurn (Option.any Reader.isInLine) (Option.any Reader.isDraining) body.queue readers)
    (hat : readers[n]? = some (some reader)) :
    InTurn (Option.any Reader.isInLine) (Option.any Reader.isDraining) body'.queue
      (readers.set n (some reader')) := by
  cases h with
  | join => exact hturn.join hat rfl rfl rfl
  | wait | hit | stay => exact hturn.keep hat rfl fun h => nomatch h
  | take hhead => exact hturn.keep hat rfl fun _ => hhead
  | ask | receive => exact hturn.keep hat rfl fun _ => hturn.first n _ hat rfl
  | tell | «break» | fill => exact hturn.leave rfl rfl

/-- A step of a reader who does not touch the source. What it is told, if anything, is what all are
told. -/
theorem Stage.aside (h : Reader.Moves n ⟨state, cached, queue, asked⟩ reader body' reader')
    (hdrain : reader.isDraining = false) (hdrain' : reader'.isDraining = false)
    (hf : ∀ result, reader ≠ .finished result)
    (hidle : queue.head? = some n → ∀ m other, taker = some (m, some other) → other.isDraining = false)
    (hstage : Stage frames state cached asked history taker told) :
    Stage frames body'.state body'.cached body'.asked
      (history ++ Moment.ofStep n reader reader') taker told ∧
      ∀ result, reader' = .finished result → told = some result := by
  cases h with
  | join | wait =>
    simp only [Moment.ofStep, List.append_nil]
    exact ⟨hstage, fun _ he => nomatch he⟩
  | hit hcached =>
    obtain rfl : cached = _ := hcached
    cases hstage with
    | read m hsound =>
      simp only [Moment.ofStep, List.append_nil]
      refine ⟨.read m hsound, ?_⟩
      rintro result ⟨⟩
      rfl
  | tell hhead hstate =>
    have htold := hstage.told_eq hstate (hidle hhead) queue
    simp only [Moment.ofStep, List.append_nil]
    refine ⟨hstage, ?_⟩
    rintro result ⟨⟩
    exact htold
  | take => cases hdrain'
  | ask | receive | «break» | fill => cases hdrain
  | stay result => exact absurd rfl (hf result)

/-- A step of the reader who drains the source. -/
theorem Stage.drain (h : Reader.Moves n ⟨state, cached, queue, asked⟩ reader body' reader')
    (hdrain : reader.isDraining)
      (hstage : Stage frames state cached asked history (some (n, some reader)) told) :
    told = none ∧ ∃ told', Stage frames body'.state body'.cached body'.asked
      (history ++ Moment.ofStep n reader reader') (some (n, some reader')) told' ∧
        ∀ result, reader' = .finished result → told' = some result := by
  cases h with
  | join | wait | take | hit | tell | stay => cases hdrain
  | ask next rest soFar =>
    cases hstage with
    | draining _ past _ hframes hsound =>
      refine ⟨rfl, ?_⟩
      simp only [Moment.ofStep, record_append, List.nil_append]
      exact ⟨_, .awaiting n past next rest hframes hsound, fun _ he => nomatch he⟩
  | receive next rest soFar hframe =>
    cases hstage with
    | awaiting _ past _ _ hframes hsound =>
      have hstage' : Stage frames .taken none (past ++ [next]).length (record n (past ++ [next]) [])
          (some (n, some (.draining rest (content (past ++ [next]))))) none :=
        .draining n (past ++ [next]) rest (by simp [hframes]) (breakage?_concat hsound hframe)
      simp only [List.length_append, List.length_singleton, record_concat, content_concat] at hstage'
      refine ⟨rfl, ?_⟩
      simp only [Moment.ofStep, record_append, List.cons_append, List.nil_append]
      exact ⟨_, hstage', fun _ he => nomatch he⟩
  | «break» next rest soFar hframe =>
    cases hstage with
    | awaiting _ past _ _ hframes hsound =>
      refine ⟨rfl, ?_⟩
      simp only [Moment.ofStep, record_append, List.cons_append, List.nil_append]
      refine ⟨_, .broken n past next rest _ hframes hsound hframe, ?_⟩
      rintro result ⟨⟩
      rfl
  | fill soFar =>
    cases hstage with
    | draining _ past _ hframes hsound =>
      rw [List.append_nil] at hframes
      subst hframes
      refine ⟨rfl, ?_⟩
      simp only [Moment.ofStep, List.append_nil]
      refine ⟨_, .read n hsound, ?_⟩
      rintro result ⟨⟩
      rfl

end

/-- While a reader drains the source, it is the first in the queue. -/
theorem taker_idle
    (hturn : InTurn (Option.any Reader.isInLine) (Option.any Reader.isDraining) queue readers)
    (hfits : Fits taker told readers) (hhead : queue.head? = some n)
      (hne : ∀ x, taker ≠ some (n, x)) (m : Nat)
    (other : Reader) (ht : taker = some (m, some other)) : other.isDraining = false := by
  by_contra hother
  have hm := hturn.first m _ (hfits.at_taker m _ ht) (by simpa using hother)
  cases hhead.symm.trans hm
  exact hne _ ht

theorem sound_advance {r : Readership} (h : Sound frames r) (hat : r.At n reader) :
    Sound frames (r.advance n reader) := by
  obtain ⟨hturn, taker, told, hstage, hfits⟩ := h
  obtain ⟨⟨state, cached, queue, asked⟩, readers, history⟩ := r
  have hmoves := Reader.moves_step n ⟨state, cached, queue, asked⟩ reader
  have hlt : n < readers.length := lt_of_at hat
  simp only [advance]
  generalize (reader.step n ⟨state, cached, queue, asked⟩).1 = body',
    (reader.step n ⟨state, cached, queue, asked⟩).2 = reader' at hmoves
  refine ⟨inTurn_moves hmoves hturn hat, ?_⟩
  cases hdrain : reader.isDraining with
  | true =>
    obtain rfl := hfits.of_draining n reader hat hdrain
    obtain ⟨rfl, told', hstage', htold⟩ := hstage.drain hmoves hdrain
    exact ⟨_, told', hstage', hfits.take (by simp) hlt (by simpa using htold)⟩
  | false =>
    cases hdrain' : reader'.isDraining with
    | true =>
      -- Nobody begins to drain the source but by taking it.
      cases hmoves with
      | take hhead hcached hstate =>
        obtain rfl : state = _ := hstate
        cases hstage
        have hrecord : [.took n] = record n [] [] := by simp [record, pulls]
        simp only [Moment.ofStep, List.nil_append, hrecord]
        exact ⟨_, _, .draining n [] frames rfl rfl, hfits.take (fun _ _ h => (nomatch h)) hlt (by simp)⟩
      | join | wait | hit | tell | «break» | fill | stay => cases hdrain'
      | ask | receive => cases hdrain
    | false =>
      by_cases hf : ∃ result, reader = .finished result
      · obtain ⟨result, rfl⟩ := hf
        cases hmoves
        have hset : readers.set n (some (.finished result)) = readers := by
          obtain ⟨hget, he⟩ := List.getElem?_eq_some_iff.mp hat
          rw [← he]
          exact List.set_getElem_self hget
        simp only [Moment.ofStep, List.append_nil, hset]
        exact ⟨taker, told, hstage, hfits⟩
      · have hunfinished : ∀ result, reader ≠ .finished result := fun result he => hf ⟨result, he⟩
        have hne := hstage.taker_ne hfits hat hdrain hunfinished
        obtain ⟨hstage', htold⟩ := hstage.aside hmoves hdrain hdrain' hunfinished fun hhead =>
          taker_idle hturn hfits hhead hne
        exact ⟨taker, told, hstage', hfits.aside hne (by simpa using hdrain') (by simpa using htold)⟩

theorem sound_cancel {r : Readership} (h : Sound frames r) (hat : r.At n reader)
    (hf : ∀ result, reader ≠ .finished result) : Sound frames (r.cancel n reader) := by
  obtain ⟨hturn, taker, told, hstage, hfits⟩ := h
  obtain ⟨⟨state, cached, queue, asked⟩, readers, history⟩ := r
  have hlt : n < readers.length := lt_of_at hat
  have hturn' : InTurn (Option.any Reader.isInLine) (Option.any Reader.isDraining) (queue.erase n)
      (readers.set n none) := hturn.leave rfl rfl
  cases hdrain : reader.isDraining with
  | false =>
    have hne := hstage.taker_ne hfits hat hdrain hf
    simp only [cancel, hdrain, Bool.false_eq_true, if_false, List.append_nil]
    exact ⟨hturn', taker, told, hstage, hfits.aside hne (by simp) (by simp)⟩
  | true =>
    obtain rfl := hfits.of_draining n reader hat hdrain
    have hfits' : ∀ told', told = none → Fits (some (n, none)) told' (readers.set n none) := by
      rintro told' rfl
      exact hfits.take (by simp) hlt (by simp)
    simp only [cancel, hdrain, if_true]
    cases hstage with
    | draining _ past rest hframes hsound =>
      simp only [record_append, List.nil_append]
      exact ⟨hturn', _, _, .abandoned n past rest hframes hsound, hfits' _ rfl⟩
    | awaiting _ past next rest hframes hsound =>
      simp only [record_append, List.cons_append, List.nil_append]
      exact ⟨hturn', _, _, .missed n past next rest hframes hsound, hfits' _ rfl⟩
    | read | broken => cases hdrain

theorem sound_step {r : Readership} (h : Sound frames r) (event : Event) :
    Sound frames (r.step event) := by
  cases event with
  | call =>
    obtain ⟨hturn, taker, told, hstage, hfits⟩ := h
    exact ⟨hturn.arrive rfl rfl, taker, told, hstage, hfits.call⟩
  | advance n =>
    simp only [step]
    split
    · exact sound_advance h ‹_›
    · exact h
  | cancel n =>
    simp only [step]
    split
    · exact h
    · next reader hf hat => exact sound_cancel h hat hf
    · exact h

theorem sound_foldl {r : Readership} (h : Sound frames r) (events : List Event) :
    Sound frames (events.foldl step r) :=
  List.foldlRecOn events step h fun _ h event _ => sound_step h event

theorem sound_run (frames : List Arrival) (events : List Event) : Sound frames (run frames events) :=
  sound_foldl (sound_start frames) events

def left (r : Readership) : Nat :=
  2 * r.body.pending + (r.readers.map fun reader => (reader.map Reader.left).getD 0).sum

theorem sum_set_lt {f : Option Reader → Nat} {x y : Option Reader} {a b : Nat} (h : readers[n]? = some x)
    (hlt : a + f y < b + f x) : a + ((readers.set n y).map f).sum < b + (readers.map f).sum := by
  have hsum := sum_map_set f h y
  omega

theorem left_advance {r : Readership} (hat : r.At n reader) (hf : ∀ result, reader ≠ .finished result)
    (hturn : reader = .queued → r.body.queue.head? = some n) : (r.advance n reader).left < r.left :=
  sum_set_lt hat (Reader.left_of_moves (Reader.moves_step n r.body reader) hf hturn)

theorem exists_mover {r : Readership} (h : Sound frames r) (hat : r.At n reader)
    (hf : ∀ result, reader ≠ .finished result) :
    ∃ m other, r.At m other ∧ (∀ result, other ≠ .finished result) ∧
      (other = .queued → r.body.queue.head? = some m) := by
  by_cases hq : reader = .queued
  · have hn : n ∈ r.body.queue := (h.inTurn.mem_iff n).mpr ⟨some reader, hat, hq ▸ rfl⟩
    obtain ⟨m, rest, hqueue⟩ := List.exists_cons_of_ne_nil (List.ne_nil_of_mem hn)
    obtain ⟨party, hother, hline⟩ := (h.inTurn.mem_iff m).mp (by simp [hqueue])
    cases party with
    | none => cases hline
    | some other =>
      refine ⟨m, other, hother, fun result he => ?_, fun _ => by simp [hqueue]⟩
      rw [he] at hline
      cases hline
  · exact ⟨n, reader, hat, hf, fun he => absurd he hq⟩

theorem told_of_advances {r : Readership} (h : Sound frames r) (hat : r.At n reader) :
    ∃ turns : List Nat, ∃ result, Told ((turns.map Event.advance).foldl step r) n result := by
  induction hleft : r.left using Nat.strongRecOn generalizing r reader with
  | ind bound ih =>
    by_cases hf : ∃ result, reader = .finished result
    · obtain ⟨result, rfl⟩ := hf
      exact ⟨[], result, hat⟩
    · have hf' : ∀ result, reader ≠ .finished result := fun result he => hf ⟨result, he⟩
      obtain ⟨m, other, hother, hunfinished, hturn⟩ := exists_mover h hat hf'
      have hless := left_advance hother hunfinished hturn
      have hstep : r.step (.advance m) = r.advance m other := by
        have hget : r.readers[m]? = some (some other) := hother
        simp only [step, hget]
      obtain ⟨reader', hat'⟩ : ∃ reader', (r.advance m other).At n reader' := by
        by_cases hm : m = n
        · subst hm
          exact ⟨_, List.getElem?_set_self (lt_of_at hother)⟩
        · exact ⟨reader, (List.getElem?_set_ne hm).trans hat⟩
      obtain ⟨turns, result, htold⟩ := ih _ (hleft ▸ hless) (sound_advance h hother) hat' rfl
      exact ⟨m :: turns, result, by simpa only [List.map_cons, List.foldl_cons, hstep] using htold⟩

theorem history_step (r : Readership) (event : Event) : r.history <+: (r.step event).history := by
  cases event with
  | call => exact List.prefix_rfl
  | advance n =>
    simp only [step]
    split
    · exact List.prefix_append _ _
    · exact List.prefix_rfl
  | cancel n =>
    simp only [step]
    split
    · exact List.prefix_rfl
    · exact List.prefix_append _ _
    · exact List.prefix_rfl

theorem history_foldl (r : Readership) (events : List Event) :
    r.history <+: (events.foldl step r).history := by
  induction events generalizing r with
  | nil => exact List.prefix_rfl
  | cons event events ih => exact (history_step r event).trans (ih (r.step event))

theorem reader_eq_of_mem_record {n : Nat} {past : List Arrival} {more : List Moment} {moment : Moment}
    (h : moment ∈ record n past more) (hmore : ∀ moment ∈ more, moment.reader = n) :
    moment.reader = n := by
  obtain rfl | ⟨next, -, rfl | rfl⟩ | hin := mem_record.mp h
  · rfl
  · rfl
  · rfl
  · exact hmore moment hin

namespace Stage

theorem history_eq (h : Stage frames state cached asked history taker told) :
    history = [] ∨ ∃ n past more, history = record n past more ∧ (∃ x, taker = some (n, x)) ∧
      ∀ moment ∈ more, moment.reader = n := by
  cases h with
  | untouched => exact .inl rfl
  | draining n past | read n => exact .inr ⟨n, _, [], rfl, ⟨_, rfl⟩, by simp⟩
  | awaiting n past | broken n past | abandoned n past | missed n past =>
    exact .inr ⟨n, past, _, rfl, ⟨_, rfl⟩, by simp [Moment.reader]⟩

theorem pulled (h : Stage frames state cached asked history taker told) :
    history.filterMap Moment.pulled? <+: frames ∧ asked = (history.filterMap Moment.pulled?).length := by
  cases h with
  | untouched => exact ⟨List.nil_prefix, rfl⟩
  | draining n past rest hframes
  | abandoned n past rest hframes
  | awaiting n past next rest hframes
  | missed n past next rest hframes
  | broken n past next rest reason hframes =>
    simp [filterMap_record, List.filterMap_cons, Moment.pulled?, hframes]
  | read n => simp [filterMap_record]

theorem failed (h : Stage frames state cached asked history taker told) {n : Nat} {next : Arrival}
    {reason : String} (hgot : .got n next ∈ history) (hframe : next.frame.failure? = some reason) :
    breakage? frames = some reason ∧ told = some (.error (.unreadable reason)) := by
  -- A frame from before the frame in hand has not failed.
  have hpast : ∀ {m past more}, breakage? past = none → .got n next ∈ record m past more →
      .got n next ∈ more := by
    intro m past more hsound hin
    obtain he | ⟨next', hnext', he | he⟩ | hin := mem_record.mp hin
    · cases he
    · cases he
    · cases he
      have hnone := List.findSome?_eq_none_iff.mp hsound next hnext'
      cases hframe.symm.trans hnone
    · exact hin
  cases h with
  | untouched => cases hgot
  | draining _ _ _ _ hsound
  | awaiting _ _ _ _ _ hsound
  | read _ hsound
  | abandoned _ _ _ _ hsound
  | missed _ _ _ _ _ hsound => simpa using hpast hsound hgot
  | broken m past next' rest reason' hframes hsound hbreak =>
    obtain ⟨-, rfl⟩ : n = m ∧ next = next' := by simpa using hpast hsound hgot
    cases hframe.symm.trans hbreak
    refine ⟨?_, rfl⟩
    rw [hframes, breakage?_append, hsound, Option.none_or, breakage?, List.findSome?_cons, hframe]

theorem interrupted (h : Stage frames state cached asked history taker told) {n : Nat}
    (hleft : .left n ∈ history) :
    told = some (.error Reader.interrupted) := by
  cases h with
  | untouched => cases hleft
  | draining | awaiting | read | broken => simp [mem_record] at hleft
  | abandoned | missed => rfl

theorem told_cases (h : Stage frames state cached asked history taker told)
    {result : Except BodyError Bytes} (htold : told = some result) :
    result = .ok (content frames) ∧ breakage? frames = none ∨
      (∃ n next reason, .got n next ∈ history ∧ next.frame.failure? = some reason ∧
        result = .error (.unreadable reason)) ∨
      ∃ n, .left n ∈ history ∧ result = .error Reader.interrupted := by
  cases h with
  | untouched | draining | awaiting => cases htold
  | read n hsound =>
    cases htold
    exact .inl ⟨rfl, hsound⟩
  | broken n past next rest reason _ _ hbreak =>
    cases htold
    exact .inr (.inl ⟨n, next, reason, by simp [mem_record], hbreak, rfl⟩)
  | abandoned n | missed n =>
    cases htold
    exact .inr (.inr ⟨n, by simp [mem_record], rfl⟩)

theorem cached_iff (h : Stage frames state cached asked history taker told) {bytes : Bytes} :
    cached = some bytes ↔ ∃ n, .took n ∈ history ∧ taker = some (n, some (.finished (.ok bytes))) := by
  cases h with
  | read n => simp [mem_record]
  | untouched | draining | awaiting | broken | abandoned | missed => simp

end Stage

/-- A body that is read once. One reader alone takes frames off the source, each frame once and in
order. Who is told bytes is told all of them. When a frame has failed everybody is told so, from
then on; when the one who drained the source has been cancelled, everybody is told that; and nobody
is told an error for another reason. The bytes are in store exactly when the read is complete. Who
is cancelled while it waits leaves no trace, and who is not cancelled is told something in the end.
-/
structure ReadOnce (frames : List Arrival) (r : Readership) : Prop where
  one_reader : ∃ n, ∀ moment ∈ r.history, moment.reader = n
  pulled_once : r.history.filterMap Moment.pulled? <+: frames
  asked_eq : r.body.asked = (r.history.filterMap Moment.pulled?).length
  succeeds : ∀ n bytes, r.Told n (.ok bytes) → bytes = content frames ∧ breakage? frames = none
  breaks : ∀ n next reason, .got n next ∈ r.history → next.frame.failure? = some reason →
    breakage? frames = some reason ∧
      ∀ (more : List Event) m result, Told (more.foldl step r) m result →
        result = .error (.unreadable reason)
  interrupts : ∀ n, .left n ∈ r.history →
    ∀ (more : List Event) m result, Told (more.foldl step r) m result →
      result = .error Reader.interrupted
  fails : ∀ m error, r.Told m (.error error) →
    (∃ n next reason, .got n next ∈ r.history ∧ next.frame.failure? = some reason ∧
      error = .unreadable reason) ∨
      ∃ n, .left n ∈ r.history ∧ error = Reader.interrupted
  cached_iff : ∀ bytes, r.body.cached = some bytes ↔ ∃ n, .took n ∈ r.history ∧ r.Told n (.ok bytes)
  cancelled : ∀ n reader, r.At n reader → reader.isDraining = false →
    (∀ result, reader ≠ .finished result) →
    r.step (.cancel n) = ⟨{ r.body with queue := r.body.queue.erase n }, r.readers.set n none, r.history⟩
  answers : ∀ n reader, r.At n reader →
    ∃ turns : List Nat, ∃ result, Told ((turns.map Event.advance).foldl step r) n result

theorem told_of_sound {r : Readership} (h : Sound frames r) {result : Except BodyError Bytes}
    (hresult : ∀ taker told, Stage frames r.body.state r.body.cached r.body.asked r.history taker told →
      told = some result) {n : Nat} {result' : Except BodyError Bytes} (htold : r.Told n result') :
    result' = result := by
  obtain ⟨-, taker, told, hstage, hfits⟩ := h
  exact Option.some.inj ((hfits.of_told n result' htold).symm.trans (hresult taker told hstage))

/-- Whatever the order in which readers come, go on and are cancelled, the body is read once for all. -/
theorem readOnce_run (frames : List Arrival) (events : List Event) :
    ReadOnce frames (run frames events) := by
  have h := sound_run frames events
  generalize run frames events = r at h ⊢
  obtain ⟨hturn, taker, told, hstage, hfits⟩ := id h
  have hgrows : ∀ more : List Event, r.history <+: (more.foldl step r).history := history_foldl r
  refine ⟨?_, hstage.pulled.1, hstage.pulled.2, fun n bytes htold => ?_,
    fun n next reason hgot hframe => ?_,
    fun n hleft more m result htold => ?_, fun m error htold => ?_, fun bytes => ?_,
    fun n reader hat hdrain hf => ?_, fun n reader hat => told_of_advances h hat⟩
  · obtain he | ⟨n, past, more, he, -, hmore⟩ := hstage.history_eq
    · exact ⟨0, by simp [he]⟩
    · exact ⟨n, fun moment hin => reader_eq_of_mem_record (he ▸ hin) hmore⟩
  · obtain ⟨he, hsound⟩ | ⟨_, _, _, -, -, he⟩ | ⟨_, -, he⟩ := hstage.told_cases (hfits.of_told n _ htold)
    · exact ⟨Except.ok.inj he, hsound⟩
    · cases he
    · cases he
  · refine ⟨(hstage.failed hgot hframe).1, fun more m result htold => ?_⟩
    have hgot' := (hgrows more).subset hgot
    exact told_of_sound (sound_foldl h more) (fun _ _ hstage => (hstage.failed hgot' hframe).2) htold
  · have hleft' := (hgrows more).subset hleft
    exact told_of_sound (sound_foldl h more) (fun _ _ hstage => hstage.interrupted hleft') htold
  · obtain ⟨he, -⟩ | ⟨n, next, reason, hgot, hframe, he⟩ | ⟨n, hleft, he⟩ :=
      hstage.told_cases (hfits.of_told m _ htold)
    · cases he
    · exact .inl ⟨n, next, reason, hgot, hframe, Except.error.inj he⟩
    · exact .inr ⟨n, hleft, Except.error.inj he⟩
  · rw [hstage.cached_iff]
    refine exists_congr fun n => and_congr_right fun htook => ⟨hfits.at_taker n _, fun htold => ?_⟩
    obtain he | ⟨m, past, more, he, ⟨x, rfl⟩, hmore⟩ := hstage.history_eq
    · simp [he] at htook
    · have hreader : Moment.reader (.took n) = m := reader_eq_of_mem_record (he ▸ htook) hmore
      obtain rfl : n = m := hreader
      rw [Option.some.inj ((hfits.at_taker n x rfl).symm.trans htold)]
  · have hget : r.readers[n]? = some (some reader) := hat
    have hcancel : r.step (.cancel n) = r.cancel n reader := by
      cases reader with
      | finished result => exact absurd rfl (hf result)
      | start | queued | draining | awaiting => simp only [step, hget]
    rw [hcancel, cancel, hdrain, if_neg (by simp), List.append_nil]
    rfl

end StubServer.Request.Readership
