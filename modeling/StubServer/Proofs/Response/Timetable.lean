import StubServer.Proofs.Response.Delivery

namespace StubServer.Response

namespace Feed

mutual

/-- When an item is there: the producer asks for it when it has the item before and the buffer has
room for that one. Times are milliseconds after the start. -/
def available (feed : Feed) : Nat → Nat
  | 0 => (feed.source 0).pause
  | i + 1 => max (feed.available i) (if bufferRoom ≤ i then feed.arrival (i - bufferRoom) else 0)
      + (feed.source (i + 1)).pause
termination_by i => 2 * i
decreasing_by all_goals omega

/-- When a frame reaches its reader, or the end is seen if there is no such frame: the reader pauses
first, and then waits for the item. -/
def arrival (feed : Feed) : Nat → Nat
  | 0 => max (feed.available 0) feed.initialDelay.millis
  | i + 1 => max (feed.available (i + 1)) (feed.arrival i + feed.chunkDelay.millis)
termination_by i => 2 * i + 1
decreasing_by all_goals omega

end

def freed (feed : Feed) (i : Nat) : Nat := if bufferRoom ≤ i then feed.arrival (i - bufferRoom) else 0

def asked (feed : Feed) : Nat → Nat
  | 0 => 0
  | i + 1 => max (feed.available i) (feed.freed i)

def turned (feed : Feed) : Nat → Nat
  | 0 => 0
  | i + 1 => feed.arrival i

def pauseBefore (feed : Feed) (i : Nat) : Duration :=
  if i = 0 then feed.initialDelay else feed.chunkDelay

variable (feed : Feed)

theorem available_eq (i : Nat) : feed.available i = feed.asked i + (feed.source i).pause := by
  cases i with
  | zero => rw [available, asked, Nat.zero_add]
  | succ i => rw [available, asked, freed]

theorem arrival_eq (i : Nat) :
    feed.arrival i = max (feed.available i) (feed.turned i + (feed.pauseBefore i).millis) := by
  cases i with
  | zero => rw [arrival, turned, Nat.zero_add, pauseBefore, if_pos rfl]
  | succ i => rw [arrival, turned, pauseBefore, if_neg i.succ_ne_zero]

end Feed

namespace Playback

variable {feed : Feed} {p p' : Playback} {time : Nat}

/-- The steps of a producer that need not wait for room, while somebody wants the body. An item that
it waits for comes when it is due, or there is none. -/
inductive Works (feed : Feed) : Playback → Playback → Prop
  | asks {i pulled : Nat} {buffer : List Bytes} {delivered now due : Nat} {log : List (Nat × LogEvent)} :
    Works feed ⟨⟨.ready i, pulled, buffer, true, delivered⟩, now, due, log⟩
      ⟨⟨.asking i, pulled + 1, buffer, true, delivered⟩, now, now + (feed.source i).pause, log⟩
  | gets {i pulled : Nat} {buffer : List Bytes} {delivered now due : Nat}
      {log log' : List (Nat × LogEvent)}
    (bytes : Bytes) : Works feed ⟨⟨.asking i, pulled, buffer, true, delivered⟩, now, due, log⟩
      ⟨⟨.sending i bytes, pulled, buffer, true, delivered⟩, max now due, due, log'⟩
  | ends {i pulled : Nat} {buffer : List Bytes} {delivered now due : Nat}
      {log log' : List (Nat × LogEvent)}
    (hstops : feed.source.StopsAt i) :
    Works feed ⟨⟨.asking i, pulled, buffer, true, delivered⟩, now, due, log⟩
      ⟨⟨.ended, pulled, buffer, true, delivered⟩, max now due, due, log'⟩
  | sends {i pulled : Nat} {bytes : Bytes} {buffer : List Bytes} {delivered now due : Nat}
    {log : List (Nat × LogEvent)} (hroom : buffer.length < bufferRoom) :
    Works feed ⟨⟨.sending i bytes, pulled, buffer, true, delivered⟩, now, due, log⟩
      ⟨⟨.ready (i + 1), pulled, buffer ++ [bytes], true, delivered⟩, now, due, log⟩

theorem works_produce (feed : Feed) (hwanted : p.pump.wanted) (hblocked : p.isBlocked = false) :
    Works feed p (p.produce feed) := by
  obtain ⟨⟨producer, pulled, buffer, wanted, delivered⟩, now, due, log⟩ := p
  obtain rfl : wanted = true := hwanted
  cases producer with
  | ready i =>
    simp only [produce, Pump.produce, if_true, List.map_nil, List.append_nil]
    exact .asks
  | asking i =>
    simp only [produce, Pump.produce, Bool.not_true, Bool.false_eq_true, if_false, if_true]
    cases hitem : (feed.source i).item with
    | none =>
      apply Works.ends
      intro a ha
      cases hitem.symm.trans ha
    | some item =>
      cases item with
      | error reason =>
        apply Works.ends
        intro a ha
        cases hitem.symm.trans ha
      | ok bytes => exact .gets bytes
  | sending i bytes =>
    have hroom : buffer.length < bufferRoom := by simpa [isBlocked] using hblocked
    simp only [produce, Pump.produce, Bool.not_true, Bool.false_eq_true, if_false, if_pos hroom,
      List.map_nil, List.append_nil]
    exact .sends hroom
  | ended => cases hblocked

theorem Works.now_le (h : Works feed p p') (hnow : p.now ≤ time) (hwaits : p.waitsBeyond time = false) :
    p'.now ≤ time := by
  cases h with
  | asks | sends => exact hnow
  | gets | ends =>
    apply Nat.max_le.mpr
    exact ⟨hnow, by simpa [waitsBeyond] using hwaits⟩

theorem Works.le_now (h : Works feed p p') : p.now ≤ p'.now := by
  cases h with
  | asks | sends => exact Nat.le_refl _
  | gets | ends => exact Nat.le_max_left _ _

def stepsLeft (p : Playback) : Nat := 3 * (bufferRoom - p.pump.buffer.length) +
    Delivery.toGo p.pump.producer

theorem Works.stepsLeft_lt (h : Works feed p p') : p'.stepsLeft < p.stepsLeft := by
  cases h with
  | asks | gets | ends =>
    apply Nat.add_lt_add_left
    simp [Delivery.toGo]
  | sends hroom =>
    simp only [stepsLeft, Delivery.toGo, List.length_append, List.length_singleton]
    omega

theorem stepsLeft_lt_enough (p : Playback) : p.stepsLeft < enough := by
  have hgo : Delivery.toGo p.pump.producer ≤ 3 := by
    cases p.pump.producer <;> simp [Delivery.toGo]
  rw [stepsLeft, enough]
  omega

end Playback

/-- How a producer stands that has sent so many items, at a time when the buffer has room or not. -/
def Producer.OnTime (feed : Feed) (start sent : Nat) (room : Prop) (now due : Nat) : Producer → Prop
  | .ready i => i = sent ∧ now = start + feed.asked sent
  | .asking i => i = sent ∧ due = start + feed.available sent ∧ now ≤ due
  | .sending i _ => i = sent ∧ start + feed.available sent ≤ now ∧
      (room → now = start + feed.asked (sent + 1))
  | .ended => feed.source.StopsAt sent ∧ start + feed.available sent ≤ now

namespace Playback

/-- Everything has happened when it should, and so many frames have been taken. -/
structure OnTime (feed : Feed) (start taken : Nat) (p : Playback) : Prop where
  wanted : p.pump.wanted
  room : p.pump.buffer.length ≤ bufferRoom
  arrived : ∀ i < taken, start + feed.arrival i ≤ p.now
  came : ∀ i < taken + p.pump.buffer.length, start + feed.available i ≤ p.now
  producer : p.pump.producer.OnTime feed start (taken + p.pump.buffer.length)
    (p.pump.buffer.length < bufferRoom) p.now p.due

variable {feed : Feed} {start taken time : Nat} {p p' : Playback}

theorem onTime_start (feed : Feed) (start : Nat) : (Playback.start start).OnTime feed start 0 := by
  refine ⟨rfl, Nat.zero_le _, ?_, ?_, rfl, rfl⟩ <;> exact fun i hi => absurd hi i.not_lt_zero

theorem freed_le {sent : Nat} (hsent : sent < taken + bufferRoom) (hstart : start ≤ time)
    (harrived : ∀ i < taken, start + feed.arrival i ≤ time) : start + feed.freed sent ≤ time := by
  rw [Feed.freed]
  by_cases hfar : bufferRoom ≤ sent
  · rw [if_pos hfar]
    exact harrived _ (by omega)
  · rw [if_neg hfar]
    exact hstart

theorem asked_succ_eq {sent : Nat} (hnow : start + feed.available sent = time)
    (hfreed : start + feed.freed sent ≤ time) : time = start + feed.asked (sent + 1) := by
  rw [Feed.asked]
  omega

theorem onTime_works (h : p.OnTime feed start taken) (hw : Works feed p p') :
    p'.OnTime feed start taken := by
  obtain ⟨-, hroom, harrived, hcame, hproducer⟩ := h
  cases hw with
  | @asks i _ buffer _ now =>
    dsimp only at hroom harrived hcame hproducer
    obtain ⟨rfl, hnow⟩ := hproducer
    refine ⟨rfl, hroom, harrived, hcame, rfl, ?_, Nat.le_add_right _ _⟩
    dsimp only
    rw [Feed.available_eq, ← Nat.add_assoc, ← hnow]
  | @gets i _ buffer _ now due _ _ bytes =>
    dsimp only at hroom harrived hcame hproducer
    obtain ⟨rfl, hdue, hnow⟩ := hproducer
    rw [Nat.max_eq_right hnow]
    have harrived' : ∀ i < taken, start + feed.arrival i ≤ due :=
      fun i hi => Nat.le_trans (harrived i hi) hnow
    refine ⟨rfl, hroom, harrived', fun i hi => Nat.le_trans (hcame i hi) hnow, rfl,
      Nat.le_of_eq hdue.symm, fun hfree => ?_⟩
    apply asked_succ_eq hdue.symm
    have hstart : start ≤ due := hdue ▸ Nat.le_add_right start _
    exact freed_le (Nat.add_lt_add_left hfree taken) hstart harrived'
  | @ends i _ buffer _ now due _ _ hstops =>
    dsimp only at hroom harrived hcame hproducer
    obtain ⟨rfl, hdue, hnow⟩ := hproducer
    rw [Nat.max_eq_right hnow]
    exact ⟨rfl, hroom, fun i hi => Nat.le_trans (harrived i hi) hnow, fun i hi =>
      Nat.le_trans (hcame i hi) hnow, hstops, Nat.le_of_eq hdue.symm⟩
  | @sends i _ bytes buffer _ now _ _ hfree =>
    dsimp only at hroom harrived hcame hproducer
    obtain ⟨rfl, hcome, hnow⟩ := hproducer
    have hlength : taken + (buffer ++ [bytes]).length = taken + buffer.length + 1 := by
      simp [Nat.add_assoc]
    refine ⟨rfl, ?_, harrived, ?_, ?_⟩
    · rw [List.length_append]
      exact hfree
    · dsimp only
      rw [hlength]
      intro i hi
      obtain hlt | rfl := Nat.lt_or_eq_of_le (Nat.le_of_lt_succ hi)
      · exact hcame i hlt
      · exact hcome
    · dsimp only
      rw [hlength]
      exact ⟨rfl, hnow hfree⟩

/-- The producer works until it must wait, for room or beyond the time, or has ended. -/
theorem onTime_produceUntil {fuel : Nat} (h : p.OnTime feed start taken) (hnow : p.now ≤ time)
    (hfuel : p.stepsLeft < fuel) : (produceUntil feed time fuel p).OnTime feed start taken ∧
      p.now ≤ (produceUntil feed time fuel p).now ∧ (produceUntil feed time fuel p).now ≤ time ∧
      ((produceUntil feed time fuel p).isBlocked ∨
        (produceUntil feed time fuel p).waitsBeyond time) := by
  induction fuel generalizing p with
  | zero => exact absurd hfuel (Nat.not_lt_zero _)
  | succ fuel ih =>
    rw [produceUntil]
    by_cases hwait : p.isBlocked || p.waitsBeyond time
    · rw [if_pos hwait]
      exact ⟨h, Nat.le_refl _, hnow, by simpa using hwait⟩
    · rw [if_neg hwait]
      rw [Bool.or_eq_true, not_or, Bool.not_eq_true, Bool.not_eq_true] at hwait
      have hworks := works_produce feed h.wanted hwait.1
      have hleft := hworks.stepsLeft_lt
      obtain ⟨hon, hle, htime, hend⟩ :=
        ih (onTime_works h hworks) (hworks.now_le hnow hwait.2) (by omega)
      exact ⟨hon, Nat.le_trans hworks.le_now hle, htime, hend⟩

theorem waits_cases (h : p.isBlocked ∨ p.waitsBeyond time) :
    (∃ i, p.pump.producer = .asking i ∧ p.waitsBeyond time ∧ time < p.due) ∨
    (∃ i bytes, p.pump.producer = .sending i bytes ∧ bufferRoom ≤ p.pump.buffer.length) ∨
    p.pump.producer = .ended := by
  cases hp : p.pump.producer with
  | ready i => simp [isBlocked, waitsBeyond, hp] at h
  | ended => exact .inr (.inr rfl)
  | asking i =>
    have hwaits : p.waitsBeyond time := h.resolve_left (by simp [isBlocked, hp])
    have hlate := hwaits
    simp only [waitsBeyond, hp, Bool.and_eq_true, decide_eq_true_eq] at hlate
    exact .inl ⟨i, rfl, hwaits, hlate.2⟩
  | sending i bytes =>
    have hblocked : p.isBlocked := h.resolve_right (by simp [waitsBeyond, hp])
    simp only [isBlocked, hp, Bool.and_eq_true, decide_eq_true_eq] at hblocked
    exact .inr (.inl ⟨i, bytes, rfl, hblocked.2⟩)

theorem onTime_elapse (h : p.OnTime feed start taken) (hwait : p.isBlocked ∨ p.waitsBeyond time)
    (hnow : p.now ≤ time) : { p with now := time }.OnTime feed start taken := by
  refine ⟨h.wanted, h.room, fun i hi => Nat.le_trans (h.arrived i hi) hnow,
    fun i hi => Nat.le_trans (h.came i hi) hnow, ?_⟩
  have hproducer := h.producer
  dsimp only
  obtain ⟨i, hp, -, hlate⟩ | ⟨i, bytes, hp, hfull⟩ | hp := waits_cases hwait
  · rw [hp] at hproducer ⊢
    exact ⟨hproducer.1, hproducer.2.1, Nat.le_of_lt hlate⟩
  · rw [hp] at hproducer ⊢
    exact ⟨hproducer.1, Nat.le_trans hproducer.2.1 hnow, fun hroom =>
      absurd hroom (Nat.not_lt_of_le hfull)⟩
  · rw [hp] at hproducer ⊢
    exact ⟨hproducer.1, Nat.le_trans hproducer.2 hnow⟩

theorem onTime_sleepUntil (h : p.OnTime feed start taken) (hnow : p.now ≤ time) :
    (p.sleepUntil feed time).OnTime feed start taken ∧ (p.sleepUntil feed time).now = time ∧
      ((p.sleepUntil feed time).isBlocked ∨ (p.sleepUntil feed time).waitsBeyond time) := by
  obtain ⟨hon, -, htime, hwait⟩ := onTime_produceUntil h hnow p.stepsLeft_lt_enough
  rw [sleepUntil, Nat.max_eq_right htime]
  exact ⟨onTime_elapse hon hwait htime, rfl, hwait⟩

theorem onTime_pauseBefore (h : p.OnTime feed start taken) (hnow : p.now = start + feed.turned taken) :
    (p.pauseBefore feed taken).OnTime feed start taken ∧
      (p.pauseBefore feed taken).now = start +
        (feed.turned taken + (feed.pauseBefore taken).millis) := by
  rw [pauseBefore, ← Feed.pauseBefore]
  by_cases hpause : feed.pauseBefore taken = .zero
  · rw [if_pos hpause, hpause]
    exact ⟨h, hnow⟩
  · rw [if_neg hpause, hnow, Nat.add_assoc]
    obtain ⟨hon, htime, -⟩ :=
      onTime_sleepUntil h (hnow ▸ Nat.add_le_add_left (Nat.le_add_right _ _) start)
    exact ⟨hon, htime⟩

/-- A frame is taken out of the buffer at the time of its arrival. If the buffer was full, the next
item may be sent at this moment. -/
theorem onTime_receive {bytes : Bytes} {rest : Pump} (h : p.OnTime feed start taken)
    (hr : p.pump.receive = (.frame bytes, rest)) (hnow : p.now = start + feed.arrival taken) :
    { p with pump := rest }.OnTime feed start (taken + 1) := by
  obtain ⟨⟨producer, pulled, buffer, wanted, delivered⟩, now, due, log⟩ := p
  obtain ⟨hwanted, hroom, harrived, hcame, hproducer⟩ := h
  dsimp only at hwanted hroom harrived hcame hproducer hr hnow
  cases buffer with
  | nil =>
    simp only [Pump.receive] at hr
    split at hr <;> cases hr
  | cons head tail =>
    cases hr
    have hsent : taken + (bytes :: tail).length = taken + 1 + tail.length := by
      rw [List.length_cons]
      omega
    rw [hsent] at hcame hproducer
    refine ⟨hwanted, Nat.le_of_succ_le hroom, ?_, hcame, ?_⟩
    · intro i hi
      obtain hlt | rfl := Nat.lt_or_eq_of_le (Nat.le_of_lt_succ hi)
      · exact harrived i hlt
      · exact Nat.le_of_eq hnow.symm
    · cases producer with
      | ready i | asking i => exact hproducer
      | ended => exact hproducer
      | sending i item =>
        obtain ⟨hi, hcome, hfree⟩ := hproducer
        refine ⟨hi, hcome, fun _ => ?_⟩
        by_cases hfull : tail.length + 1 < bufferRoom
        · exact hfree hfull
        · have hfreed : feed.freed (taken + 1 + tail.length) = feed.arrival taken := by
            rw [List.length_cons] at hroom
            have hfirst : taken + 1 + tail.length - bufferRoom = taken := by omega
            rw [Feed.freed, if_pos (by omega), hfirst]
          dsimp only at hcome ⊢
          rw [Feed.asked, hfreed, hnow]
          omega

def IsThere (p : Playback) : Prop := p.pump.buffer ≠ [] ∨ p.pump.producer = .ended

theorem available_le (h : p.OnTime feed start taken) (hthere : p.IsThere) :
    start + feed.available taken ≤ p.now := by
  by_cases hbuffer : p.pump.buffer = []
  · have hended := hthere.resolve_left fun hne => hne hbuffer
    have hproducer := h.producer
    rw [hended, hbuffer] at hproducer
    exact hproducer.2
  · exact h.came taken (Nat.lt_add_of_pos_right (List.length_pos_iff.mpr hbuffer))

theorem buffer_of_not_isThere (h : ¬p.IsThere) : p.pump.buffer = [] ∧ p.pump.producer ≠ .ended := by
  rwa [IsThere, not_or, not_not] at h

theorem waits_of_not_isThere (h : p.OnTime feed start taken) (hthere : ¬p.IsThere)
    (hwait : p.isBlocked ∨ p.waitsBeyond time) :
    p.waitsBeyond time ∧ p.due = start + feed.available taken ∧ time < p.due := by
  obtain ⟨hbuffer, hended⟩ := buffer_of_not_isThere hthere
  have hproducer := h.producer
  obtain ⟨i, hp, hwaits, hlate⟩ | ⟨i, bytes, -, hfull⟩ | hp := waits_cases hwait
  · rw [hp, hbuffer] at hproducer
    exact ⟨hwaits, hproducer.2.1, hlate⟩
  · rw [hbuffer] at hfull
    exact absurd hfull (by decide)
  · exact absurd hp hended

theorem isThere_of_available_le (h : p.OnTime feed start taken)
    (hwait : p.isBlocked ∨ p.waitsBeyond time)
    (hcome : start + feed.available taken ≤ time) : p.IsThere := by
  by_contra hthere
  obtain ⟨-, hdue, hlate⟩ := waits_of_not_isThere h hthere hwait
  omega

def Received (feed : Feed) (start taken : Nat) : Option Bytes × Playback → Prop
  | (some _, p) => p.OnTime feed start (taken + 1) ∧ p.now = start + feed.arrival taken
  | (none, p) => feed.source.StopsAt taken ∧ p.now = start + feed.arrival taken

theorem received_of_isThere (rounds : Nat) (h : p.OnTime feed start taken) (hthere : p.IsThere)
    (hnow : p.now = start + feed.arrival taken) :
    Received feed start taken (receive feed (rounds + 1) p) := by
  rw [receive]
  cases hbuffer : p.pump.buffer with
  | cons bytes rest =>
    have hr : p.pump.receive = (.frame bytes,
      { p.pump with buffer := rest, delivered := p.pump.delivered + 1 }) := by
      simp only [Pump.receive, hbuffer]
    rw [hr]
    exact ⟨onTime_receive h hr hnow, hnow⟩
  | nil =>
    have hended : p.pump.producer = .ended := hthere.resolve_left fun hne => hne hbuffer
    have hproducer := h.producer
    rw [hended, hbuffer] at hproducer
    simp only [Pump.receive, hbuffer, hended, if_true]
    exact ⟨hproducer.1, hnow⟩

def awaited (feed : Feed) (p : Playback) : Playback :=
  let p := produceUntil feed p.now enough p
  if p.pump.buffer.isEmpty && p.waitsBeyond p.now then sleepUntil feed p.due p else p

theorem receive_of_not_isThere (rounds : Nat) (h : ¬p.IsThere) :
    receive feed (rounds + 1) p = receive feed rounds (p.awaited feed) := by
  obtain ⟨hbuffer, hended⟩ := buffer_of_not_isThere h
  simp only [receive, Pump.receive, hbuffer, if_neg hended, awaited]

theorem onTime_awaited (h : p.OnTime feed start taken)
    (hnow : p.now = start + (feed.turned taken + (feed.pauseBefore taken).millis)) :
    (p.awaited feed).OnTime feed start taken ∧ (p.awaited feed).IsThere ∧
      (p.awaited feed).now = start + feed.arrival taken := by
  obtain ⟨hon, hle, hge, hwait⟩ := onTime_produceUntil h (Nat.le_refl p.now) p.stepsLeft_lt_enough
  rw [awaited]
  generalize produceUntil feed p.now enough p = worked at hon hle hge hwait ⊢
  have htime : worked.now = p.now := Nat.le_antisymm hge hle
  rw [← htime] at hnow hwait
  rw [Feed.arrival_eq]
  by_cases hcome : start + feed.available taken ≤ worked.now
  · have hthere := isThere_of_available_le hon hwait hcome
    have hstays : (worked.pump.buffer.isEmpty && worked.waitsBeyond worked.now) = false := by
      obtain hbuffer | hended := hthere
      · simp [hbuffer]
      · simp [waitsBeyond, hended]
    rw [hstays, if_neg Bool.false_ne_true]
    refine ⟨hon, hthere, ?_⟩
    omega
  · have hlate := Nat.lt_of_not_le hcome
    have hthere : ¬worked.IsThere := fun hthere => hcome (available_le hon hthere)
    obtain ⟨hwaits, hdue, -⟩ := waits_of_not_isThere hon hthere hwait
    rw [(buffer_of_not_isThere hthere).1, hwaits, List.isEmpty_nil, Bool.and_self, if_pos rfl, hdue]
    obtain ⟨hslept, htime, hwait⟩ := onTime_sleepUntil hon (Nat.le_of_lt hlate)
    refine ⟨hslept, isThere_of_available_le hslept hwait (Nat.le_refl _), ?_⟩
    omega

/-- The reader comes back with a frame or with the end of the body, at the time of its arrival. -/
theorem received (h : p.OnTime feed start taken)
    (hnow : p.now = start + (feed.turned taken + (feed.pauseBefore taken).millis)) :
    Received feed start taken (receive feed 3 p) := by
  by_cases hthere : p.IsThere
  · apply received_of_isThere 2 h hthere
    have hcome := available_le h hthere
    rw [Feed.arrival_eq]
    omega
  · rw [receive_of_not_isThere 2 hthere]
    obtain ⟨hon, hthere, hnow⟩ := onTime_awaited h hnow
    exact received_of_isThere 1 hon hthere hnow

/-- What a reader has seen who asked for so many frames from this one on: every frame at its time,
and the end at the time of the frame that would follow. -/
def Seen (feed : Feed) (start index most : Nat) : List (Nat × Bytes) × Option Nat × Playback → Prop
  | (frames, endAt, _) =>
    frames.map (·.1) = (List.range' index frames.length).map (start + feed.arrival ·) ∧
    (frames.length = most ∧ endAt = none ∨ frames.length < most ∧
      endAt = some (start + feed.arrival (index + frames.length)) ∧
        feed.source.StopsAt (index + frames.length))

theorem seen_read {index : Nat} (most : Nat) (h : p.OnTime feed start index)
    (hnow : p.now = start + feed.turned index) :
    Seen feed start index most (read feed most index p) := by
  induction most generalizing p index with
  | zero => exact ⟨rfl, .inl ⟨rfl, rfl⟩⟩
  | succ most ih =>
    obtain ⟨hpaused, htime⟩ := onTime_pauseBefore h hnow
    have hreceived := received hpaused htime
    rw [read]
    generalize receive feed 3 (p.pauseBefore feed index) = result at hreceived
    obtain ⟨bytes?, rest⟩ := result
    cases bytes? with
    | none =>
      obtain ⟨hstops, hend⟩ := hreceived
      exact ⟨rfl, .inr ⟨Nat.succ_pos most, congrArg some hend, hstops⟩⟩
    | some bytes =>
      obtain ⟨hon, harrival⟩ := hreceived
      have hrest := ih hon harrival
      dsimp only
      generalize read feed most (index + 1) rest = reading at hrest
      obtain ⟨frames, endAt, last⟩ := reading
      obtain ⟨htimes, hend⟩ := hrest
      have hlength : index + (frames.length + 1) = index + 1 + frames.length := by omega
      refine ⟨?_, ?_⟩
      · simp only [List.map_cons, List.length_cons, List.range'_succ, htimes, harrival]
      · rw [List.length_cons, hlength, Nat.add_lt_add_iff_right, Nat.add_right_cancel_iff]
        exact hend

end Playback

theorem eq_mapIdx {α : Type} {frames : List (Nat × Bytes)} {items : List α} {encode : α → Bytes}
    {time : Nat → Nat} (htimes : frames.map (·.1) = (List.range' 0 frames.length).map time)
    (hbytes : frames.map (·.2) = items.map encode) :
    frames = items.mapIdx fun i item => (time i, encode item) := by
  have hlength : frames.length = items.length := by
    simpa using congrArg List.length hbytes
  apply List.ext_getElem
  · rw [List.length_mapIdx, hlength]
  · intro i hi hi'
    rw [List.length_mapIdx] at hi'
    have htime := congrArg (·[i]?) htimes
    have hbyte := congrArg (·[i]?) hbytes
    simp [hi, hi'] at htime hbyte
    rw [List.getElem_mapIdx]
    exact Prod.ext htime hbyte

/-- How a streamed response reaches a reader who reads on from the moment when its head is ready.
The head is never delayed. Every frame arrives at its time, and the end is seen when a frame in its
place would arrive. -/
structure Punctual {α : Type} (source : Source α) (encode : α → Bytes) (feed : Feed)
    (rendering : Rendering) :
    Prop where
  prompt : rendering.delay = 0
  head : ∀ response, rendering.outcome = .returned response → ∀ now most,
    (response.readOut now 0 most).transcript.headAt = now
  frames : ∀ response, rendering.outcome = .returned response → ∀ now items, source.Begins items →
    (response.readOut now 0 items.length).transcript.frames =
      items.mapIdx fun i item => (now + feed.arrival i, encode item)
  ending : ∀ response, rendering.outcome = .returned response → ∀ now most items, source.Yields items →
    items.length < most → (response.readOut now 0 most).transcript.frames =
      (items.mapIdx fun i item => (now + feed.arrival i, encode item)) ∧
    (response.readOut now 0 most).transcript.endAt = some (now + feed.arrival items.length)

variable {α : Type} {source : Source α} {encode : α → Bytes} {response : Response} {feed : Feed}

theorem seen_readOut (h : response.body = .streamed feed) (now most : Nat) :
    ∃ frames endAt last, (response.readOut now 0 most).transcript =
        ⟨response.status, response.headers, now, frames, endAt⟩ ∧
      Playback.Seen feed now 0 most (frames, endAt, last) := by
  have hseen := Playback.seen_read most (Playback.onTime_start feed now) rfl
  simp only [readOut, h]
  exact ⟨_, _, _, rfl, hseen⟩

theorem frames_eq {frames : List (Nat × Bytes)} {items : List α} {now : Nat}
    (hsource : feed.source = source.encoded encode) (hitems : source.Begins items)
    (hframes : feed.source.Begins (frames.map (·.2)))
    (htimes : frames.map (·.1) = (List.range' 0 frames.length).map (now + feed.arrival ·))
    (hlength : frames.length = items.length) :
    frames = items.mapIdx fun i item => (now + feed.arrival i, encode item) := by
  apply eq_mapIdx htimes
  have hall : feed.source.Begins (items.map encode) :=
    hsource ▸ Source.begins_encoded.mpr ⟨items, hitems, rfl⟩
  have hprefix := Source.prefix_of_begins hframes hall (by simp [hlength])
  exact hprefix.eq_of_length (by simp [hlength])

theorem punctual_of_streamed {rendering : Rendering} (hsource : feed.source = source.encoded encode)
    (hprompt : rendering.delay = 0)
    (hbody : ∀ response, rendering.outcome = .returned response → response.body = .streamed feed) :
    Punctual source encode feed rendering := by
  refine ⟨hprompt, fun response hresponse now most => ?_, fun response hresponse now items hitems => ?_,
    fun response hresponse now most items hitems hmost => ?_⟩
  · obtain ⟨frames, endAt, last, htranscript, -⟩ := seen_readOut (hbody response hresponse) now most
    rw [htranscript]
  · have hframes := begins_readOut (hbody response hresponse) now 0 items.length
    obtain ⟨frames, endAt, last, htranscript, htimes, hend⟩ :=
      seen_readOut (hbody response hresponse) now items.length
    rw [htranscript] at hframes ⊢
    apply frames_eq hsource hitems hframes htimes
    obtain ⟨hlength, -⟩ | ⟨hless, -, hstops⟩ := hend
    · exact hlength
    · -- The source does not stop before the last of the items.
      rw [Nat.zero_add] at hstops
      have hitem := hitems frames.length _ (List.getElem?_eq_getElem hless)
      rw [hsource, Source.stopsAt_encoded] at hstops
      exact absurd hitem (hstops _)
  · have hframes := begins_readOut (hbody response hresponse) now 0 most
    obtain ⟨frames, endAt, last, htranscript, htimes, hend⟩ :=
      seen_readOut (hbody response hresponse) now most
    rw [htranscript] at hframes ⊢
    have hall : feed.source.Yields (items.map encode) :=
      hsource ▸ Source.yields_encoded.mpr ⟨items, hitems, rfl⟩
    have hle : frames.length ≤ items.length := by
      simpa using Source.length_le_of_yields hall hframes
    obtain ⟨hlength, -⟩ | ⟨-, hend, hstops⟩ := hend
    · omega
    · have hyields : feed.source.Yields (frames.map (·.2)) := by
        refine ⟨hframes, ?_⟩
        rw [List.length_map]
        rwa [Nat.zero_add] at hstops
      have hge : items.length ≤ frames.length := by
        simpa using Source.length_le_of_yields hyields hall.begins
      have hlength := Nat.le_antisymm hle hge
      rw [Nat.zero_add, hlength] at hend
      exact ⟨frames_eq hsource hitems.begins hframes htimes hlength, hend⟩

theorem body_renderStreamed {verbose : Bool} {what : String}
    {complete : Http.Headers → Http.Headers} {head : Head}
    {source : Source Bytes} {chunkDelay : Duration}
    (h : (Definition.renderStreamed verbose what complete head source chunkDelay).outcome =
      .returned response) :
    response.body = .streamed ⟨source, head.delay, chunkDelay, verbose⟩ := by
  rw [Definition.renderStreamed] at h
  split at h
  · cases h
    rfl
  · cases h
  · cases h

theorem delay_renderStreamed (verbose : Bool) (what : String)
    (complete : Http.Headers → Http.Headers) (head : Head)
    (source : Source Bytes) (chunkDelay : Duration) :
    (Definition.renderStreamed verbose what complete head source chunkDelay).delay = 0 := by
  rw [Definition.renderStreamed]
  split <;> rfl

/-- Bodies in chunks and bodies of events arrive on time, however many items there are, whatever the
pauses of their source, of any length. -/
theorem streams_punctually (verbose : Bool) (head : Head) (chunkDelay : Duration) :
    (∀ chunks : ChunkSource String, Punctual chunks.pulls Text.Utf8.encode
      ⟨chunks.pulls.encoded Text.Utf8.encode, head.delay, chunkDelay, verbose⟩
      ((Definition.chunked head chunks chunkDelay).render verbose)) ∧
    ∀ events : ChunkSource Event, Punctual events.pulls (fun event => Text.Utf8.encode event.encode)
      ⟨events.pulls.encoded fun event => Text.Utf8.encode event.encode, head.delay, chunkDelay, verbose⟩
      ((Definition.events head events chunkDelay).render verbose) := by
  constructor
  · intro chunks
    apply punctual_of_streamed rfl
    · exact delay_renderStreamed ..
    · exact fun response h => body_renderStreamed h
  · intro events
    apply punctual_of_streamed rfl
    · exact delay_renderStreamed ..
    · exact fun response h => body_renderStreamed h

/-- Two chunks after a delay of 100 ms, with 50 ms between them. The end is seen after another 50. -/
example (x y : Bytes) :
    let feed : Feed := ⟨.ofList [x, y], .ofMillis 100, .ofMillis 50, false⟩
    feed.arrival 0 = 100 ∧ feed.arrival 1 = 150 ∧ feed.arrival 2 = 200 := by
  simp [Feed.arrival, Feed.available, Source.ofList, Duration.ofMillis, Duration.millis, bufferRoom]

end StubServer.Response
