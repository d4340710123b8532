import StubServer.Proofs.Response.Delivery

namespace StubServer.Response

/-- The item that the producer has and the buffer has not. -/
def Producer.inHand : Producer → List Bytes
  | .sending _ bytes => [bytes]
  | .ready _ | .asking _ | .ended => []

/-- Questions to the source that have brought no item: the one under way, or the one after which the
producer has ended. -/
def Producer.unanswered : Producer → Nat
  | .asking _ | .ended => 1
  | .ready _ | .sending .. => 0

theorem Producer.inHand_add_unanswered_le (producer : Producer) :
    producer.inHand.length + producer.unanswered ≤ 1 := by
  cases producer <;> simp [inHand, unanswered]

namespace Pump

/-- The producer has asked once for every item that is with the reader, in the buffer or in its
hand, and the buffer is not overfull. -/
structure InBounds (frames : List Bytes) (pump : Pump) : Prop where
  room : pump.buffer.length ≤ bufferRoom
  asked : pump.wanted → pump.pulled =
    (frames ++ pump.buffer ++ pump.producer.inHand).length + pump.producer.unanswered
  bound : pump.pulled ≤ frames.length + bufferRoom + 1

/-- The producer will ask for nothing more. -/
def IsQuiet (pump : Pump) : Prop := pump.wanted = false ∨ pump.producer = .ended

variable {source : Source Bytes} {frames : List Bytes} {pump : Pump}

theorem inBounds_of_asked (hroom : pump.buffer.length ≤ bufferRoom)
    (hasked : pump.pulled = (frames ++ pump.buffer ++ pump.producer.inHand).length +
      pump.producer.unanswered) :
    pump.InBounds frames := by
  refine ⟨hroom, fun _ => hasked, ?_⟩
  have hhand := pump.producer.inHand_add_unanswered_le
  simp only [List.length_append] at hasked
  omega

theorem inBounds_start : start.InBounds [] := inBounds_of_asked (Nat.zero_le bufferRoom) rfl

theorem inBounds_produce (h : pump.InBounds frames) (source : Source Bytes) (verbose : Bool) :
    (pump.produce source verbose).1.InBounds frames := by
  obtain ⟨producer, pulled, buffer, wanted, delivered⟩ := pump
  cases wanted with
  | false =>
    have hgone : InBounds frames ⟨.ended, pulled, buffer, false, delivered⟩ :=
      ⟨h.room, fun hw => (nomatch hw), h.bound⟩
    cases producer with
    | ready | asking | sending => exact hgone
    | ended => exact h
  | true =>
    have hasked := h.asked rfl
    simp only [List.length_append] at hasked
    cases producer with
    | ready i =>
      refine inBounds_of_asked h.room ?_
      simp only [List.length_append]
      exact congrArg (· + 1) hasked
    | asking i =>
      simp only [produce, Bool.not_true, Bool.false_eq_true, if_false]
      cases (source i).item with
      | none =>
        exact inBounds_of_asked h.room
          (by simpa [Producer.inHand, Producer.unanswered, Nat.add_assoc] using hasked)
      | some item =>
        cases item with
        | error reason =>
          exact inBounds_of_asked h.room
            (by simpa [Producer.inHand, Producer.unanswered, Nat.add_assoc] using hasked)
        | ok bytes =>
          refine inBounds_of_asked h.room ?_
          simp only [List.length_append]
          exact hasked
    | sending i bytes =>
      simp only [produce, Bool.not_true, Bool.false_eq_true, if_false]
      split
      · next hroom =>
        refine inBounds_of_asked ?_ ?_
        · rw [List.length_append]
          exact hroom
        · simp only [List.length_append] at hasked ⊢
          exact hasked
      · exact h
    | ended => exact h

theorem inBounds_receive {bytes : Bytes} {rest : Pump} (h : pump.InBounds frames)
    (hr : pump.receive = (.frame bytes, rest)) : rest.InBounds (frames ++ [bytes]) := by
  obtain ⟨producer, pulled, buffer, wanted, delivered⟩ := pump
  cases buffer with
  | nil =>
    simp only [receive] at hr
    split at hr <;> cases hr
  | cons head tail =>
    cases hr
    have hroom := h.room
    have hbound := h.bound
    refine ⟨Nat.le_of_succ_le hroom, fun hw => ?_, ?_⟩
    · have hasked := h.asked hw
      simpa [Nat.add_assoc, Nat.add_comm, Nat.add_left_comm] using hasked
    · simp only [List.length_append, List.length_singleton] at hbound ⊢
      omega

theorem inBounds_drop (h : pump.InBounds frames) : pump.drop.InBounds frames :=
  ⟨Nat.zero_le bufferRoom, fun hw => (nomatch hw), h.bound⟩

theorem produce_of_isQuiet (h : pump.IsQuiet) (source : Source Bytes) (verbose : Bool) :
    (pump.produce source verbose).1.pulled = pump.pulled ∧
      (pump.produce source verbose).1.producer = .ended := by
  obtain ⟨producer, pulled, buffer, wanted, delivered⟩ := pump
  obtain hwanted | hended := h
  · obtain rfl : wanted = false := hwanted
    cases producer <;> exact ⟨rfl, rfl⟩
  · obtain rfl : producer = .ended := hended
    exact ⟨rfl, rfl⟩

theorem producer_of_finished {rest : Pump} (hr : pump.receive = (.finished, rest)) :
    pump.producer = .ended := by
  cases hbuffer : pump.buffer with
  | cons bytes tail =>
    simp only [receive, hbuffer] at hr
    cases hr
  | nil =>
    simp only [receive, hbuffer] at hr
    by_contra hended
    rw [if_neg hended] at hr
    cases hr

end Pump

namespace Delivery

variable {feed : Feed} {d : Delivery}

structure Restrained (d : Delivery) : Prop where
  inBounds : d.playback.pump.InBounds d.frames
  ended : d.consumer = .ended → d.playback.pump.producer = .ended

theorem restrained_poll (h : d.Restrained) : (d.poll feed).Restrained := by
  have hbounds := h.inBounds
  obtain ⟨playback, consumer, frames⟩ := d
  cases consumer with
  | idle =>
    simp only [poll]
    split <;> exact ⟨hbounds, fun he => by cases he⟩
  | pausing time =>
    simp only [poll]
    split
    · exact ⟨hbounds, fun he => by cases he⟩
    · exact h
  | asking =>
    cases hr : playback.pump.receive with
    | mk reception rest =>
      simp only [poll, hr]
      cases reception with
      | frame bytes => exact ⟨Pump.inBounds_receive hbounds hr, fun he => by cases he⟩
      | finished => exact ⟨hbounds, fun _ => Pump.producer_of_finished hr⟩
      | empty => exact h
  | ended | gone => exact h

theorem restrained_step (h : d.Restrained) (event : Event) : (d.step feed event).Restrained := by
  cases event with
  | produce =>
    simp only [step]
    split
    · exact h
    · refine ⟨Pump.inBounds_produce h.inBounds feed.source feed.verbose, fun hended => ?_⟩
      exact (Pump.produce_of_isQuiet (.inr (h.ended hended)) feed.source feed.verbose).2
  | poll => exact restrained_poll h
  | elapse millis => exact ⟨h.inBounds, h.ended⟩
  | drop =>
    simp only [step]
    split
    · exact h
    · exact ⟨Pump.inBounds_drop h.inBounds, fun he => by cases he⟩

theorem restrained_run (feed : Feed) (now : Nat) (events : List Event) :
    (run feed now events).Restrained := by
  have hstart : (start now).Restrained := ⟨Pump.inBounds_start, fun he => nomatch he⟩
  exact List.foldlRecOn events (step feed) hstart fun _ h event _ => restrained_step h event

structure Quiet (pulled : Nat) (d : Delivery) : Prop where
  isQuiet : d.playback.pump.IsQuiet
  pulled_eq : d.playback.pump.pulled = pulled

theorem quiet_drop (feed : Feed) (h : d.Restrained) :
    (d.step feed .drop).Quiet d.playback.pump.pulled := by
  simp only [step]
  split
  · next hended => exact ⟨.inr (h.ended hended), rfl⟩
  · exact ⟨.inl rfl, rfl⟩

theorem producer_poll (feed : Feed) (d : Delivery) :
    (d.poll feed).playback.pump.producer = d.playback.pump.producer ∧
      (d.poll feed).playback.pump.pulled = d.playback.pump.pulled ∧
      (d.poll feed).playback.pump.wanted = d.playback.pump.wanted := by
  obtain ⟨⟨⟨producer, pulled, buffer, wanted, delivered⟩, now, due, log⟩, consumer, frames⟩ := d
  cases consumer with
  | idle =>
    simp only [poll]
    split <;> exact ⟨rfl, rfl, rfl⟩
  | pausing time =>
    simp only [poll]
    split <;> exact ⟨rfl, rfl, rfl⟩
  | asking =>
    cases buffer with
    | nil =>
      by_cases hended : producer = .ended <;> simp [poll, Pump.receive, hended]
    | cons bytes rest => exact ⟨rfl, rfl, rfl⟩
  | ended | gone => exact ⟨rfl, rfl, rfl⟩

variable {pulled : Nat}

theorem quiet_step (feed : Feed) (h : d.Quiet pulled) (event : Event) :
    (d.step feed event).Quiet pulled ∧ (event = .produce ∨ d.playback.pump.producer = .ended →
      (d.step feed event).playback.pump.producer = .ended) := by
  have hended : d.playback.pump.wanted = false → d.playback.waitsBeyond d.playback.now = false := by
    intro hwanted
    simp only [Playback.waitsBeyond]
    split <;> simp [hwanted]
  cases event with
  | produce =>
    have hproduce := Pump.produce_of_isQuiet h.isQuiet feed.source feed.verbose
    have hfree : d.playback.waitsBeyond d.playback.now = false := by
      obtain hwanted | hproducer := h.isQuiet
      · exact hended hwanted
      · simp only [Playback.waitsBeyond, hproducer]
    simp only [step, hfree, Bool.false_eq_true, if_false]
    exact ⟨⟨.inr hproduce.2, hproduce.1.trans h.pulled_eq⟩, fun _ => hproduce.2⟩
  | poll =>
    obtain ⟨hproducer, hpulled, hwanted⟩ := producer_poll feed d
    refine ⟨⟨?_, hpulled.trans h.pulled_eq⟩, fun hover => ?_⟩
    · exact h.isQuiet.imp hwanted.trans hproducer.trans
    · exact hproducer.trans (hover.resolve_left (by simp))
  | elapse millis => exact ⟨⟨h.isQuiet, h.pulled_eq⟩, fun hover => hover.resolve_left (by simp)⟩
  | drop =>
    simp only [step]
    split
    · exact ⟨h, fun hover => hover.resolve_left (by simp)⟩
    · exact ⟨⟨.inl rfl, h.pulled_eq⟩, fun hover => hover.resolve_left (by simp)⟩

theorem quiet_foldl (feed : Feed) (h : d.Quiet pulled) (events : List Event) :
    (events.foldl (step feed) d).Quiet pulled ∧
    (.produce ∈ events ∨ d.playback.pump.producer = .ended →
      (events.foldl (step feed) d).playback.pump.producer = .ended) := by
  induction events generalizing d with
  | nil => exact ⟨h, fun hover => hover.resolve_left List.not_mem_nil⟩
  | cons event events ih =>
    obtain ⟨hquiet, hstep⟩ := quiet_step feed h event
    obtain ⟨hrest, hends⟩ := ih hquiet
    refine ⟨hrest, fun hover => hends ?_⟩
    obtain hin | hended := hover
    · obtain rfl | hin := List.mem_cons.mp hin
      · exact .inr (hstep (.inl rfl))
      · exact .inl hin
    · exact .inr (hstep (.inr hended))

/-- What a producer asks of its source. Its questions are at most as many as the frames that the
reader has taken, the places in the buffer, and one. While somebody wants the body, each of them but
the last has brought an item that is with the reader, in the buffer or in hand, in this order; and
the last has too, unless it is still under way or has shown that there is nothing more to come. When
the body has been given up no question follows, and the next step of the producer is its last. -/
structure HoldsBack {α : Type} (source : Source α) (encode : α → Bytes) (feed : Feed) (now : Nat)
    (events : List Event) : Prop where
  bound : (run feed now events).playback.pump.pulled ≤ (run feed now events).frames.length +
    bufferRoom + 1
  kept : (run feed now events).consumer ≠ .gone → ∃ items, source.Begins items ∧
    (run feed now events).frames ++ (run feed now events).playback.pump.buffer ++
      (run feed now events).playback.pump.producer.inHand = items.map encode ∧
    (run feed now events).playback.pump.pulled =
      items.length + (run feed now events).playback.pump.producer.unanswered ∧
    ((run feed now events).playback.pump.producer = .ended → source.Yields items)
  stops : ∀ before after, events = before ++ .drop :: after →
    (run feed now events).playback.pump.pulled = (run feed now before).playback.pump.pulled ∧
      (.produce ∈ after → (run feed now events).playback.pump.producer = .ended)

theorem begins_inHand {source : Source Bytes} (h : d.Sound source) (hgone : d.consumer ≠ .gone) :
    source.Begins (d.frames ++ d.playback.pump.buffer ++ d.playback.pump.producer.inHand) := by
  have hfollows := h.carries.follows (h.wanted.trans (decide_eq_true hgone))
  have hbegins := h.carries.begins
  cases hproducer : d.playback.pump.producer with
  | sending i bytes =>
    rw [hproducer] at hfollows
    obtain ⟨rfl, hitem⟩ := hfollows
    exact Source.begins_concat.mpr ⟨hbegins, hitem⟩
  | ready | asking | ended =>
    rw [Producer.inHand, List.append_nil]
    exact hbegins

/-- However fast the reader reads, and whenever it gives up. -/
theorem holdsBack_run {α : Type} (chunks : ChunkSource α) (encode : α → Bytes)
    (initialDelay chunkDelay : Duration) (verbose : Bool) (now : Nat) (events : List Event) :
    HoldsBack chunks.pulls encode ⟨chunks.pulls.encoded encode, initialDelay, chunkDelay,
      verbose⟩ now events := by
  generalize hfeed : (⟨chunks.pulls.encoded encode, initialDelay, chunkDelay, verbose⟩ : Feed) = feed
  have hsource : feed.source = chunks.pulls.encoded encode := hfeed ▸ rfl
  have hsound := sound_run feed now events
  have hbounds := (restrained_run feed now events).inBounds
  refine ⟨hbounds.bound, fun hgone => ?_, fun before after hevents => ?_⟩
  · have hwanted := hsound.wanted.trans (decide_eq_true hgone)
    have hbegins := begins_inHand hsound hgone
    rw [hsource] at hbegins
    obtain ⟨items, hitems, hframes⟩ := Source.begins_encoded.mp hbegins
    refine ⟨items, hitems, hframes, ?_, fun hended => ⟨hitems, ?_⟩⟩
    · have hasked := hbounds.asked hwanted
      rwa [hframes, List.length_map] at hasked
    · have hstops := hsound.carries.follows hwanted
      rw [hended, Producer.inHand, List.append_nil] at hframes
      rwa [hended, hframes, List.length_map, hsource, Producer.Follows, Source.stopsAt_encoded] at hstops
  · subst hevents
    have hquiet := quiet_drop feed (restrained_run feed now before)
    obtain ⟨hlast, hends⟩ := quiet_foldl feed hquiet after
    rw [run, List.foldl_append]
    exact ⟨hlast.pulled_eq, fun hin => hends (.inl hin)⟩

end Delivery

end StubServer.Response
