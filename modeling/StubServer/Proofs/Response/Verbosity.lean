import Mathlib.Data.Option.Defs
import StubServer.Proofs.Response.Delivery

namespace StubServer

namespace Response

/-- The feeds differ in nothing but verbosity. -/
structure Feed.Twins (feed feed' : Feed) : Prop where
  source : feed.source = feed'.source
  initialDelay : feed.initialDelay = feed'.initialDelay
  chunkDelay : feed.chunkDelay = feed'.chunkDelay

variable {feed feed' : Feed}

theorem Pump.produce_verbose (source : Source Bytes) (verbose verbose' : Bool) (pump : Pump) :
    (pump.produce source verbose).1 = (pump.produce source verbose').1 := by
  cases hproducer : pump.producer with
  | ready | sending | ended => simp only [produce, hproducer]
  | asking i =>
    simp only [produce, hproducer]
    split
    · rfl
    · split <;> rfl

namespace Playback

structure Twins (p p' : Playback) : Prop where
  pump : p.pump = p'.pump
  now : p.now = p'.now
  due : p.due = p'.due

variable {p p' : Playback}

theorem Twins.isBlocked_eq (hp : p.Twins p') : p.isBlocked = p'.isBlocked := by
  rw [isBlocked, isBlocked, hp.pump]

theorem Twins.waitsBeyond_eq (hp : p.Twins p') (time : Nat) :
    p.waitsBeyond time = p'.waitsBeyond time := by
  rw [waitsBeyond, waitsBeyond, hp.pump, hp.due]

theorem twins_produce (hfeed : feed.Twins feed') (hp : p.Twins p') :
    (p.produce feed).Twins (p'.produce feed') := by
  have hpump := Pump.produce_verbose feed'.source feed.verbose feed'.verbose p'.pump
  refine ⟨?_, ?_, ?_⟩
  · simpa only [produce, hp.pump, hfeed.source] using hpump
  · simp only [produce, hp.pump, hp.now, hp.due]
  · simp only [produce, hp.pump, hp.now, hp.due, hfeed.source]

theorem twins_produceUntil (hfeed : feed.Twins feed') (time fuel : Nat) (hp : p.Twins p') :
    (produceUntil feed time fuel p).Twins (produceUntil feed' time fuel p') := by
  induction fuel generalizing p p' with
  | zero => exact hp
  | succ fuel ih =>
    rw [produceUntil, produceUntil, hp.isBlocked_eq, hp.waitsBeyond_eq]
    split
    · exact hp
    · exact ih (twins_produce hfeed hp)

theorem twins_sleepUntil (hfeed : feed.Twins feed') (time : Nat) (hp : p.Twins p') :
    (sleepUntil feed time p).Twins (sleepUntil feed' time p') := by
  have hwork := twins_produceUntil hfeed time enough hp
  refine ⟨hwork.pump, ?_, hwork.due⟩
  simp only [sleepUntil, hwork.now]

theorem twins_receive (hfeed : feed.Twins feed') (rounds : Nat) (hp : p.Twins p') :
    (receive feed rounds p).1 = (receive feed' rounds p').1 ∧
      (receive feed rounds p).2.Twins (receive feed' rounds p').2 := by
  induction rounds generalizing p p' with
  | zero => exact ⟨rfl, hp⟩
  | succ rounds ih =>
    rw [receive, receive, hp.pump]
    cases p'.pump.receive with
    | mk reception pump =>
      cases reception with
      | frame bytes => exact ⟨rfl, rfl, hp.now, hp.due⟩
      | finished => exact ⟨rfl, hp⟩
      | empty =>
        have hwork := twins_produceUntil hfeed p'.now enough hp
        rw [hp.now]
        generalize produceUntil feed p'.now enough p = worked at hwork ⊢
        generalize produceUntil feed' p'.now enough p' = worked' at hwork ⊢
        simp only [hwork.waitsBeyond_eq, hwork.pump, hwork.now, hwork.due]
        split
        · exact ih (twins_sleepUntil hfeed _ hwork)
        · exact ih hwork

theorem twins_pauseBefore (hfeed : feed.Twins feed') (index : Nat) (hp : p.Twins p') :
    (pauseBefore feed index p).Twins (pauseBefore feed' index p') := by
  rw [pauseBefore, pauseBefore, hfeed.initialDelay, hfeed.chunkDelay, hp.now]
  by_cases hpause : (if index = 0 then feed'.initialDelay else feed'.chunkDelay) = .zero
  · rwa [if_pos hpause, if_pos hpause]
  · rw [if_neg hpause, if_neg hpause]
    exact twins_sleepUntil hfeed _ hp

theorem twins_read (hfeed : feed.Twins feed') (most index : Nat) (hp : p.Twins p') :
    (read feed most index p).1 = (read feed' most index p').1 ∧
      (read feed most index p).2.1 = (read feed' most index p').2.1 ∧
        (read feed most index p).2.2.Twins (read feed' most index p').2.2 := by
  induction most generalizing p p' index with
  | zero => exact ⟨rfl, rfl, hp⟩
  | succ most ih =>
    obtain ⟨hbytes, hrest⟩ := twins_receive hfeed 3 (twins_pauseBefore hfeed index hp)
    rw [read, read]
    generalize receive feed 3 (pauseBefore feed index p) = received at hbytes hrest ⊢
    generalize receive feed' 3 (pauseBefore feed' index p') = received' at hbytes hrest ⊢
    obtain ⟨bytes?, rest⟩ := received
    obtain ⟨bytes?', rest'⟩ := received'
    obtain rfl : bytes? = bytes?' := hbytes
    cases bytes? with
    | none => exact ⟨rfl, congrArg some hrest.now, hrest⟩
    | some bytes =>
      obtain ⟨hframes, hfinish, hlast⟩ := ih (index + 1) hrest
      have hnow : rest.now = rest'.now := hrest.now
      refine ⟨?_, hfinish, hlast⟩
      simp only [hnow, hframes]

end Playback

namespace Delivery

structure Twins (d d' : Delivery) : Prop where
  playback : d.playback.Twins d'.playback
  consumer : d.consumer = d'.consumer
  frames : d.frames = d'.frames

variable {d d' : Delivery}

theorem twins_poll (hfeed : feed.Twins feed') (h : d.Twins d') :
    (d.poll feed).Twins (d'.poll feed') := by
  obtain ⟨playback, consumer, frames⟩ := d
  obtain ⟨playback', consumer', frames'⟩ := d'
  obtain ⟨hplayback, hconsumer, hframes⟩ := h
  obtain rfl : consumer = consumer' := hconsumer
  obtain rfl : frames = frames' := hframes
  have hnow : playback.now = playback'.now := hplayback.now
  cases consumer with
  | idle =>
    have hpause : pauseBefore feed ⟨playback, .idle, frames⟩ =
      pauseBefore feed' ⟨playback', .idle, frames⟩ := by
      rw [pauseBefore, pauseBefore, hfeed.initialDelay, hfeed.chunkDelay]
    simp only [poll, hpause, hnow]
    split <;> exact ⟨hplayback, rfl, rfl⟩
  | pausing time =>
    simp only [poll, hnow]
    split <;> exact ⟨hplayback, rfl, rfl⟩
  | asking =>
    have hpump : playback.pump = playback'.pump := hplayback.pump
    simp only [poll, hpump]
    cases playback'.pump.receive with
    | mk reception rest =>
      cases reception with
      | frame bytes => exact ⟨⟨rfl, hplayback.now, hplayback.due⟩, rfl, rfl⟩
      | finished | empty => exact ⟨hplayback, rfl, rfl⟩
  | ended | gone => exact ⟨hplayback, rfl, rfl⟩

theorem twins_step (hfeed : feed.Twins feed') (h : d.Twins d') (event : Event) :
    (d.step feed event).Twins (d'.step feed' event) := by
  cases event with
  | produce =>
    simp only [step, h.playback.waitsBeyond_eq, h.playback.now]
    split
    · exact h
    · exact ⟨Playback.twins_produce hfeed h.playback, h.consumer, h.frames⟩
  | poll => exact twins_poll hfeed h
  | elapse millis =>
    exact ⟨⟨h.playback.pump, congrArg (· + millis) h.playback.now, h.playback.due⟩, h.consumer,
      h.frames⟩
  | drop =>
    simp only [step, h.consumer]
    split
    · exact h
    · exact ⟨⟨congrArg Pump.drop h.playback.pump, h.playback.now, h.playback.due⟩, rfl, h.frames⟩

theorem twins_run (hfeed : feed.Twins feed') (now : Nat) (events : List Event) :
    (run feed now events).Twins (run feed' now events) := by
  induction events using List.reverseRecOn with
  | nil => exact ⟨⟨rfl, rfl, rfl⟩, rfl, rfl⟩
  | append_singleton events event ih =>
    rw [run, run, List.foldl_append, List.foldl_append]
    exact twins_step hfeed ih event

end Delivery

inductive Body.Twins : Body → Body → Prop
  | full (bytes : Bytes) : Twins (.full bytes) (.full bytes)
  | streamed {feed feed' : Feed} (h : feed.Twins feed') : Twins (.streamed feed) (.streamed feed')

structure Twins (response response' : Response) : Prop where
  status : response.status = response'.status
  headers : response.headers = response'.headers
  body : response.body.Twins response'.body

theorem Twins.readOut_eq {response response' : Response} (h : response.Twins response')
    (now settle most : Nat) :
    (response.readOut now settle most).transcript = (response'.readOut now settle most).transcript ∧
      (response.readOut now settle most).pulled = (response'.readOut now settle most).pulled := by
  obtain ⟨status, headers, body⟩ := response
  obtain ⟨status', headers', body'⟩ := response'
  obtain ⟨hstatus, hheaders, hbody⟩ := h
  obtain rfl : status = status' := hstatus
  obtain rfl : headers = headers' := hheaders
  cases hbody with
  | full bytes => exact ⟨rfl, rfl⟩
  | streamed hfeed =>
    rename_i feed feed'
    have hstart : (Playback.start now).Twins (Playback.start now) := ⟨rfl, rfl, rfl⟩
    have hsettled : Playback.Twins
        (if settle = 0 then .start now else (Playback.start now).sleepUntil feed (now + settle))
        (if settle = 0 then .start now else (Playback.start now).sleepUntil feed' (now + settle)) := by
      split
      · exact hstart
      · exact Playback.twins_sleepUntil hfeed _ hstart
    obtain ⟨hframes, hend, hlast⟩ := Playback.twins_read hfeed most 0 hsettled
    simp only [readOut]
    generalize Playback.read feed most 0 _ = reading at hframes hend hlast ⊢
    generalize Playback.read feed' most 0 _ = reading' at hframes hend hlast ⊢
    obtain ⟨frames, endAt, last⟩ := reading
    obtain ⟨frames', endAt', last'⟩ := reading'
    have hdrop : last.drop.Twins last'.drop := ⟨congrArg Pump.drop hlast.pump, hlast.now, hlast.due⟩
    obtain rfl : frames = frames' := hframes
    obtain rfl : endAt = endAt' := hend
    have hgone := Playback.twins_sleepUntil hfeed (last.now + linger) hdrop
    have hnow : last.now = last'.now := hlast.now
    refine ⟨rfl, ?_⟩
    rw [hnow] at hgone
    exact congrArg Pump.pulled (hnow ▸ hgone.pump)

/-- Nobody who reads the responses can tell them apart: a reader sees the same head and the same
frames at the same times, and makes the producer pull as many items; however it goes on, and
whenever it gives up. -/
structure ReadsLike (response response' : Response) : Prop where
  twins : response.Twins response'
  transcript : ∀ now settle most : Nat,
    (response.readOut now settle most).transcript = (response'.readOut now settle most).transcript
  pulled : ∀ now settle most : Nat,
    (response.readOut now settle most).pulled = (response'.readOut now settle most).pulled
  delivered : ∀ feed feed' : Feed, response.body = .streamed feed → response'.body = .streamed feed' →
    ∀ (now : Nat) (events : List Delivery.Event),
      (Delivery.run feed now events).Twins (Delivery.run feed' now events)

theorem Twins.readsLike {response response' : Response} (h : response.Twins response') :
    response.ReadsLike response' := by
  refine ⟨h, fun now settle most => (h.readOut_eq now settle most).1,
    fun now settle most => (h.readOut_eq now settle most).2, fun feed feed' hfeed hfeed' => ?_⟩
  have hbody := h.body
  rw [hfeed, hfeed'] at hbody
  cases hbody with
  | streamed hfeed => exact Delivery.twins_run hfeed

end Response

/-- The same has come of both, up to this relation. -/
inductive Outcome.Rel {α β : Type} (r : α → β → Prop) : Outcome α → Outcome β → Prop
  | returned {a : α} {b : β} (h : r a b) : Rel r (.returned a) (.returned b)
  | failed (reason : String) : Rel r (.failed reason) (.failed reason)
  | panicked (reason : String) : Rel r (.panicked reason) (.panicked reason)

theorem Outcome.rel_of_map_eq {α β : Type} {f : α → β} {a b : Outcome α} (h : a.map f = b.map f) :
    a.Rel (fun x y => f x = f y) b := by
  cases a with
  | returned x =>
    cases b with
    | returned y => exact .returned (Outcome.returned.inj h)
    | failed | panicked => cases h
  | failed reason =>
    cases b with
    | failed reason' => exact Outcome.failed.inj h ▸ .failed reason
    | returned | panicked => cases h
  | panicked reason =>
    cases b with
    | panicked reason' => exact Outcome.panicked.inj h ▸ .panicked reason
    | returned | failed => cases h

namespace Response

structure Rendering.Twins (rendering rendering' : Rendering) : Prop where
  delay : rendering.delay = rendering'.delay
  outcome : rendering.outcome.Rel Response.Twins rendering'.outcome
  abandoned : Option.Rel Feed.Twins rendering.abandoned rendering'.abandoned

theorem Definition.twins_render (definition : Definition) (verbose verbose' : Bool) :
    (definition.render verbose).Twins (definition.render verbose') := by
  cases definition with
  | simple head body =>
    simp only [render, renderSimple]
    cases head.apply with
    | mk outcome log =>
      cases outcome with
      | returned headers => exact ⟨rfl, .returned ⟨rfl, rfl, .full _⟩, .none⟩
      | failed reason => exact ⟨rfl, .failed reason, .none⟩
      | panicked reason => exact ⟨rfl, .panicked reason, .none⟩
  | chunked head source delay | events head source delay =>
    simp only [render, renderStreamed]
    cases head.apply with
    | mk outcome log =>
      cases outcome with
      | returned headers => exact ⟨rfl, .returned ⟨rfl, rfl, .streamed ⟨rfl, rfl, rfl⟩⟩, .none⟩
      | failed reason => exact ⟨rfl, .failed reason, .some ⟨rfl, rfl, rfl⟩⟩
      | panicked reason => exact ⟨rfl, .panicked reason, .some ⟨rfl, rfl, rfl⟩⟩

theorem Twins.refl_full (status : Nat) (headers : Http.Headers) (bytes : Bytes) :
    Twins ⟨status, headers, .full bytes⟩ ⟨status, headers, .full bytes⟩ := ⟨rfl, rfl, .full bytes⟩

end Response

end StubServer
