import StubServer.Proofs.Response.Carriage

namespace StubServer.Response

/-- How far the reader of a streamed body has come: it does not ask at present, it pauses before a
frame until some time, it asks for a frame, it has seen the end, or it has given the body up. -/
inductive Consumer where
  | idle
  | pausing (time : Nat)
  | asking
  | ended
  | gone
  deriving DecidableEq

/-- A streamed body on its way: the producer's side in time, the reader, and the frames taken so
far. Producer and reader go on in any order, time passes in between, and the reader may give the
body up. -/
structure Delivery where
  playback : Playback
  consumer : Consumer
  frames : List Bytes

namespace Delivery

/-- What may happen next: a step of the producer, a poll by the reader, the passing of time, or the
end of the reader's interest. -/
inductive Event where
  | produce
  | poll
  | elapse (millis : Nat)
  | drop
  deriving DecidableEq

def start (now : Nat) : Delivery := ⟨.start now, .idle, []⟩

def pauseBefore (feed : Feed) (d : Delivery) : Duration :=
  if d.frames.isEmpty then feed.initialDelay else feed.chunkDelay

/-- A poll by the reader: it takes a frame if one is there, and no step that must wait. -/
def poll (feed : Feed) (d : Delivery) : Delivery :=
  match d.consumer with
  | .idle =>
    if d.pauseBefore feed = .zero then { d with consumer := .asking }
    else { d with consumer := .pausing (d.playback.now + (d.pauseBefore feed).millis) }
  | .pausing time => if time ≤ d.playback.now then { d with consumer := .asking } else d
  | .asking =>
    match d.playback.pump.receive with
    | (.frame bytes, pump) => ⟨{ d.playback with pump }, .idle, d.frames ++ [bytes]⟩
    | (.finished, _) => { d with consumer := .ended }
    | (.empty, _) => d
  | .ended | .gone => d

/-- What is left when the event has happened. A producer whose item has not arrived stays where it is. -/
def step (feed : Feed) (d : Delivery) : Event → Delivery
  | .produce =>
    if d.playback.waitsBeyond d.playback.now then d
    else { d with playback := d.playback.produce feed }
  | .poll => d.poll feed
  | .elapse millis => { d with playback := { d.playback with now := d.playback.now + millis } }
  | .drop =>
    if d.consumer = .ended then d
    else { d with playback := d.playback.drop, consumer := .gone }

def run (feed : Feed) (now : Nat) (events : List Event) : Delivery :=
  events.foldl (step feed) (start now)

/-- What has been taken and what is on its way is the beginning of the source; the body is wanted
until the reader gives it up; and the reader has seen the end only when nothing was missing. -/
structure Sound (source : Source Bytes) (d : Delivery) : Prop where
  carries : d.playback.pump.Carries source d.frames
  wanted : d.playback.pump.wanted = decide (d.consumer ≠ .gone)
  complete : d.consumer = .ended → source.Yields d.frames

variable {feed : Feed} {d : Delivery}

theorem produce_wanted (source : Source Bytes) (verbose : Bool) (pump : Pump) :
    (pump.produce source verbose).1.wanted = pump.wanted := by
  obtain ⟨producer, pulled, buffer, wanted, delivered⟩ := pump
  cases producer with
  | ready => cases wanted <;> rfl
  | asking i =>
    cases wanted with
    | false => rfl
    | true =>
      simp only [Pump.produce, Bool.not_true, Bool.false_eq_true, if_false]
      split <;> rfl
  | sending =>
    cases wanted with
    | false => rfl
    | true =>
      simp only [Pump.produce, Bool.not_true, Bool.false_eq_true, if_false]
      split <;> rfl
  | ended => rfl

theorem receive_wanted {pump rest : Pump} {reception : Pump.Reception}
    (h : pump.receive = (reception, rest)) :
    rest.wanted = pump.wanted := by
  obtain ⟨producer, pulled, buffer, wanted, delivered⟩ := pump
  cases buffer <;> cases h <;> rfl

theorem sound_start (source : Source Bytes) (now : Nat) : (start now).Sound source :=
  ⟨Pump.carries_start source, rfl, fun h => nomatch h⟩

theorem sound_poll (h : d.Sound feed.source) : (d.poll feed).Sound feed.source := by
  have hcarries := h.carries
  have hwanted := h.wanted
  obtain ⟨playback, consumer, frames⟩ := d
  cases consumer with
  | idle =>
    simp only [poll]
    split <;> exact ⟨hcarries, hwanted, fun he => nomatch he⟩
  | pausing time =>
    simp only [poll]
    split
    · exact ⟨hcarries, hwanted, fun he => nomatch he⟩
    · exact h
  | asking =>
    cases hr : playback.pump.receive with
    | mk reception rest =>
      simp only [poll, hr]
      cases reception with
      | frame bytes =>
        exact ⟨Pump.carries_receive hcarries hr, (receive_wanted hr).trans hwanted, fun he => nomatch he⟩
      | finished => exact ⟨hcarries, hwanted, fun _ => Pump.yields_of_finished hcarries hwanted hr⟩
      | empty => exact h
  | ended | gone => exact h

theorem sound_step (h : d.Sound feed.source) (event : Event) :
    (d.step feed event).Sound feed.source := by
  cases event with
  | produce =>
    simp only [step]
    split
    · exact h
    · refine ⟨Pump.carries_produce h.carries feed.verbose, ?_, h.complete⟩
      exact (produce_wanted feed.source feed.verbose d.playback.pump).trans h.wanted
  | poll => exact sound_poll h
  | elapse millis => exact ⟨h.carries, h.wanted, h.complete⟩
  | drop =>
    simp only [step]
    split
    · exact h
    · exact ⟨Pump.carries_drop h.carries, rfl, fun he => nomatch he⟩

theorem sound_run (feed : Feed) (now : Nat) (events : List Event) :
    (run feed now events).Sound feed.source :=
  List.foldlRecOn events (step feed) (sound_start feed.source now) fun _ h event _ => sound_step h event

def Reaches (feed : Feed) (d d' : Delivery) : Prop :=
  ∃ events : List Event, .drop ∉ events ∧ events.foldl (step feed) d = d'

variable {d' d'' : Delivery}

theorem Reaches.refl (feed : Feed) (d : Delivery) : Reaches feed d d := ⟨[], List.not_mem_nil, rfl⟩

theorem Reaches.trans (h : Reaches feed d d') (h' : Reaches feed d' d'') : Reaches feed d d'' := by
  obtain ⟨events, hevents, rfl⟩ := h
  obtain ⟨more, hmore, rfl⟩ := h'
  refine ⟨events ++ more, fun hin => ?_, List.foldl_append⟩
  exact (List.mem_append.mp hin).elim hevents hmore

theorem reaches_step (feed : Feed) (d : Delivery) (event : Event) (h : event ≠ .drop) :
    Reaches feed d (d.step feed event) :=
  ⟨[event], fun hin => h (List.mem_singleton.mp hin).symm, rfl⟩

theorem Reaches.sound (h : Reaches feed d d') (hs : d.Sound feed.source) : d'.Sound feed.source := by
  obtain ⟨events, -, rfl⟩ := h
  induction events generalizing d with
  | nil => exact hs
  | cons event events ih => exact ih (sound_step hs event)

theorem reaches_asking (feed : Feed) (hgone : d.consumer ≠ .gone) (hended : d.consumer ≠ .ended) :
    ∃ playback, Reaches feed d ⟨playback, .asking, d.frames⟩ ∧ playback.pump = d.playback.pump := by
  obtain ⟨playback, consumer, frames⟩ := d
  have hpausing : ∀ time, Reaches feed ⟨playback, .pausing time, frames⟩
      ⟨{ playback with now := playback.now + time }, .asking, frames⟩ := by
    intro time
    have helapse := reaches_step feed ⟨playback, .pausing time, frames⟩ (.elapse time) (by simp)
    have hpoll := reaches_step feed ⟨{ playback with now := playback.now + time }, .pausing time, frames⟩
      .poll (by simp)
    have hlate : time ≤ playback.now + time := Nat.le_add_left time playback.now
    simp only [step, poll, if_pos hlate] at hpoll
    exact helapse.trans hpoll
  cases consumer with
  | asking => exact ⟨playback, .refl feed _, rfl⟩
  | pausing time => exact ⟨_, hpausing time, rfl⟩
  | idle =>
    have hpoll := reaches_step feed ⟨playback, .idle, frames⟩ .poll (by simp)
    by_cases hpause : pauseBefore feed ⟨playback, .idle, frames⟩ = .zero
    · simp only [step, poll, if_pos hpause] at hpoll
      exact ⟨playback, hpoll, rfl⟩
    · simp only [step, poll, if_neg hpause] at hpoll
      exact ⟨_, hpoll.trans (hpausing _), rfl⟩
  | ended => exact absurd rfl hended
  | gone => exact absurd rfl hgone

def toGo : Producer → Nat
  | .ready _ => 3
  | .asking _ => 2
  | .sending .. => 1
  | .ended => 0

theorem produce_fills {pump : Pump} (source : Source Bytes) (verbose : Bool) (hwanted : pump.wanted)
    (hbuffer : pump.buffer = []) (hended : pump.producer ≠ .ended) :
    (pump.produce source verbose).1.buffer ≠ [] ∨
      toGo (pump.produce source verbose).1.producer < toGo pump.producer := by
  obtain ⟨producer, pulled, buffer, wanted, delivered⟩ := pump
  obtain rfl : wanted = true := hwanted
  obtain rfl : buffer = [] := hbuffer
  cases producer with
  | ready i => exact .inr (by simp [Pump.produce, toGo])
  | asking i =>
    right
    simp only [Pump.produce, Bool.not_true, Bool.false_eq_true, if_false]
    split <;> simp [toGo]
  | sending i bytes => exact .inl (by simp [Pump.produce, bufferRoom])
  | ended => exact absurd rfl hended

structure Asks (frames : List Bytes) (d : Delivery) : Prop where
  asking : d.consumer = .asking
  frames_eq : d.frames = frames
  wanted : d.playback.pump.wanted

variable {frames : List Bytes}

theorem reaches_filled (feed : Feed) (h : d.Asks frames) : ∃ d', Reaches feed d d' ∧ d'.Asks frames ∧
    (d'.playback.pump.buffer ≠ [] ∨ d'.playback.pump.producer = .ended) := by
  induction hgo : toGo d.playback.pump.producer using Nat.strongRecOn generalizing d with
  | ind n ih =>
    by_cases hbuffer : d.playback.pump.buffer = []
    · by_cases hended : d.playback.pump.producer = .ended
      · exact ⟨d, .refl feed d, h, .inr hended⟩
      · have helapse := reaches_step feed d (.elapse d.playback.due) (by simp)
        have hproduce := reaches_step feed (d.step feed (.elapse d.playback.due)) .produce (by simp)
        -- When so much time has passed, the item has arrived.
        have harrived : Playback.waitsBeyond { d.playback with now := d.playback.now + d.playback.due }
            (d.playback.now + d.playback.due) = false := by
          have hlate : ¬d.playback.now + d.playback.due < d.playback.due := by omega
          simp only [Playback.waitsBeyond]
          split <;> simp [hlate]
        simp only [step, harrived, Bool.false_eq_true, if_false] at hproduce
        have hasks : Asks frames ⟨Playback.produce feed
            { d.playback with now := d.playback.now + d.playback.due }, d.consumer, d.frames⟩ :=
          ⟨h.asking, h.frames_eq,
            (produce_wanted feed.source feed.verbose d.playback.pump).trans h.wanted⟩
        obtain hfilled | hless := produce_fills feed.source feed.verbose h.wanted hbuffer hended
        · exact ⟨_, helapse.trans hproduce, hasks, .inl hfilled⟩
        · obtain ⟨d', hreach, hasks', hfilled⟩ := ih _ (hgo ▸ hless) hasks rfl
          exact ⟨d', (helapse.trans hproduce).trans hreach, hasks', hfilled⟩
    · exact ⟨d, .refl feed d, h, .inl hbuffer⟩

theorem reaches_next (feed : Feed) (h : d.Asks frames) :
    ∃ d', Reaches feed d d' ∧
      (d'.consumer = .ended ∨ d'.consumer = .idle ∧ d'.frames.length = frames.length + 1) := by
  obtain ⟨d', hreach, hasks, hfilled⟩ := reaches_filled feed h
  refine ⟨d'.step feed .poll, hreach.trans (reaches_step feed d' .poll (by simp)), ?_⟩
  have hframes := hasks.frames_eq
  simp only [step, poll, hasks.asking, Pump.receive]
  cases hbuffer : d'.playback.pump.buffer with
  | cons bytes rest => exact .inr ⟨rfl, by simp [hframes]⟩
  | nil =>
    have hended : d'.playback.pump.producer = .ended := hfilled.resolve_left fun hne => hne hbuffer
    simp only [hended, if_true]
    exact .inl trivial

theorem reaches_frames (n : Nat) (h : d.Sound feed.source) (hgone : d.consumer ≠ .gone) :
    ∃ d', Reaches feed d d' ∧ (d'.consumer = .ended ∨ n ≤ d'.frames.length) := by
  induction hleft : n - d.frames.length generalizing d with
  | zero => exact ⟨d, .refl feed d, .inr (by omega)⟩
  | succ left ih =>
    by_cases hended : d.consumer = .ended
    · exact ⟨d, .refl feed d, .inl hended⟩
    · have hwanted := h.wanted.trans (decide_eq_true hgone)
      obtain ⟨playback, hask, hpump⟩ := reaches_asking feed hgone hended
      have hasks : Asks d.frames ⟨playback, .asking, d.frames⟩ := ⟨rfl, rfl, hpump ▸ hwanted⟩
      obtain ⟨d', hnext, hd'⟩ := reaches_next feed hasks
      have hreach := hask.trans hnext
      obtain hended' | ⟨hidle, hlength⟩ := hd'
      · exact ⟨d', hreach, .inl hended'⟩
      · obtain ⟨last, hlast, hframes⟩ := ih (hreach.sound h) (by simp [hidle]) (by omega)
        exact ⟨last, hreach.trans hlast, hframes⟩

/-- What a reader gets of a body that yields these frames: a beginning of them, in order, all of
them when the end has been seen, and the end is seen by whoever goes on reading. -/
structure Conveys (feed : Feed) (frames : List Bytes) (d : Delivery) : Prop where
  in_order : d.frames <+: frames
  complete : d.consumer = .ended → d.frames = frames
  ends : d.consumer ≠ .gone →
    ∃ events : List Event, .drop ∉ events ∧ (events.foldl (step feed) d).consumer = .ended

theorem conveys_run (hyields : feed.source.Yields frames) (now : Nat) (events : List Event) :
    Conveys feed frames (run feed now events) := by
  have hsound := sound_run feed now events
  generalize run feed now events = d at hsound ⊢
  have hbegins : ∀ d : Delivery, d.Sound feed.source → feed.source.Begins d.frames := fun d hs =>
    Source.begins_of_prefix hs.carries.begins (List.prefix_append _ _)
  have hinitial := Source.prefix_of_begins (hbegins d hsound) hyields.begins
    (Source.length_le_of_yields hyields (hbegins d hsound))
  refine ⟨hinitial, fun hended => ?_, fun hgone => ?_⟩
  · have hle := Source.length_le_of_yields (hsound.complete hended) hyields.begins
    exact hinitial.eq_of_length_le hle
  · obtain ⟨d', hreach, hd'⟩ := reaches_frames (frames.length + 1) hsound hgone
    have hsound' := hreach.sound hsound
    obtain ⟨more, hmore, rfl⟩ := hreach
    refine ⟨more, hmore, hd'.resolve_right fun hlength => ?_⟩
    have hle := Source.length_le_of_yields hyields (hbegins _ hsound')
    omega

/-- What becomes of the items of a source: the frames taken are their encodings, in order and
without a gap, and all of them when the end has been seen; and a reader who goes on reading gets
every one, and sees the end if there is one. -/
structure Delivers {α : Type} (source : Source α) (encode : α → Bytes) (feed : Feed)
    (d : Delivery) : Prop where
  in_order : ∃ items, source.Begins items ∧ d.frames = items.map encode
  complete : d.consumer = .ended → ∃ items, source.Yields items ∧ d.frames = items.map encode
  arrives : d.consumer ≠ .gone → ∀ items, source.Begins items →
    ∃ events : List Event, .drop ∉ events ∧ items.map encode <+: (events.foldl (step feed) d).frames
  ends : d.consumer ≠ .gone → ∀ items, source.Yields items →
    ∃ events : List Event, .drop ∉ events ∧ (events.foldl (step feed) d).consumer = .ended

/-- Whatever the order in which producer and reader go on, the reader gets what the source yields. -/
theorem delivers_run {α : Type} (chunks : ChunkSource α) (encode : α → Bytes)
    (initialDelay chunkDelay : Duration) (verbose : Bool) (now : Nat) (events : List Event) :
    Delivers chunks.pulls encode ⟨chunks.pulls.encoded encode, initialDelay, chunkDelay, verbose⟩
      (run ⟨chunks.pulls.encoded encode, initialDelay, chunkDelay, verbose⟩ now events) := by
  have hsound := sound_run ⟨chunks.pulls.encoded encode, initialDelay, chunkDelay, verbose⟩ now events
  generalize run ⟨chunks.pulls.encoded encode, initialDelay, chunkDelay, verbose⟩ now events = d
    at hsound ⊢
  have hbegins : ∀ d : Delivery, d.Sound (chunks.pulls.encoded encode) →
      (chunks.pulls.encoded encode).Begins d.frames := fun d hs =>
    Source.begins_of_prefix hs.carries.begins (List.prefix_append _ _)
  refine ⟨Source.begins_encoded.mp (hbegins d hsound), fun hended => ?_, fun hgone items hitems => ?_,
    fun hgone items hitems => ?_⟩
  · exact Source.yields_encoded.mp (hsound.complete hended)
  · have hframes : (chunks.pulls.encoded encode).Begins (items.map encode) :=
      Source.begins_encoded.mpr ⟨items, hitems, rfl⟩
    obtain ⟨d', hreach, hd'⟩ := reaches_frames items.length hsound hgone
    have hsound' := hreach.sound hsound
    obtain ⟨events, hevents, rfl⟩ := hreach
    refine ⟨events, hevents, Source.prefix_of_begins hframes (hbegins _ hsound') ?_⟩
    obtain hended | hlength := hd'
    · exact Source.length_le_of_yields (hsound'.complete hended) hframes
    · rwa [List.length_map]
  · have hframes : (chunks.pulls.encoded encode).Yields (items.map encode) :=
      Source.yields_encoded.mpr ⟨items, hitems, rfl⟩
    obtain ⟨d', hreach, hd'⟩ := reaches_frames (items.length + 1) hsound hgone
    have hsound' := hreach.sound hsound
    obtain ⟨events, hevents, rfl⟩ := hreach
    refine ⟨events, hevents, hd'.resolve_right fun hlength => ?_⟩
    have hle := Source.length_le_of_yields hframes (hbegins _ hsound')
    rw [List.length_map] at hle
    omega

end Delivery

end StubServer.Response
