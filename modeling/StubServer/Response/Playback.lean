import StubServer.Clock.Duration
import StubServer.Response.Pump

namespace StubServer.Response

/-- A streamed body that has not been started: where its frames come from, how long the reader waits
before the first and after every other frame, and whether frames are reported. -/
structure Feed where
  source : Source Bytes
  initialDelay : Duration
  chunkDelay : Duration
  verbose : Bool

/-- A streamed body in time: the time, and when the item that the producer waits for arrives.
Producer and reader share one clock, which advances only when both of them wait. Events are kept
with their times. -/
structure Playback where
  pump : Pump
  now : Nat
  due : Nat
  log : List (Nat × LogEvent)

namespace Playback

def start (now : Nat) : Playback := ⟨.start, now, now, []⟩

def waitsBeyond (p : Playback) (time : Nat) : Bool :=
  match p.pump.producer with
  | .asking _ => p.pump.wanted && time < p.due
  | _ => false

def isBlocked (p : Playback) : Bool :=
  match p.pump.producer with
  | .sending .. => p.pump.wanted && bufferRoom ≤ p.pump.buffer.length
  | .ended => true
  | _ => false

def produce (feed : Feed) (p : Playback) : Playback :=
  let now := match p.pump.producer with
    | .asking _ => if p.pump.wanted then max p.now p.due else p.now
    | _ => p.now
  let (pump, events) := p.pump.produce feed.source feed.verbose
  -- An item asked for now arrives after its pause.
  let due := match p.pump.producer with
    | .ready i => now + (feed.source i).pause
    | _ => p.due
  ⟨pump, now, due, p.log ++ events.map ((now, ·))⟩

/-- Steps that a producer needs at most before it has to wait for the reader. -/
def enough : Nat := 3 * (bufferRoom + 2)

/-- Lets the producer work until the given time, for at most `fuel` steps. -/
def produceUntil (feed : Feed) (time : Nat) : Nat → Playback → Playback
  | 0, p => p
  | fuel + 1, p =>
    if p.isBlocked || p.waitsBeyond time then p
    else produceUntil feed time fuel (p.produce feed)

def sleepUntil (feed : Feed) (time : Nat) (p : Playback) : Playback :=
  let p := produceUntil feed time enough p
  { p with now := max p.now time }

def receive (feed : Feed) : Nat → Playback → Option Bytes × Playback
  | 0, p => (none, p)
  | rounds + 1, p =>
    match p.pump.receive with
    | (.frame bytes, pump) => (some bytes, { p with pump := pump })
    | (.finished, _) => (none, p)
    | (.empty, _) =>
      -- Two rounds of waiting are enough: after the first the producer has ended, has sent something,
      -- or knows when its item arrives.
      let p := produceUntil feed p.now enough p
      let p := if p.pump.buffer.isEmpty && p.waitsBeyond p.now then sleepUntil feed p.due p else p
      receive feed rounds p

def pauseBefore (feed : Feed) (index : Nat) (p : Playback) : Playback :=
  let pause := if index = 0 then feed.initialDelay else feed.chunkDelay
  if pause = .zero then p else sleepUntil feed (p.now + pause.millis) p

/-- Reads frame number `index` and the following ones, at most `most` of them: each with the time of its
arrival, and the time when the end was seen, if it was. -/
def read (feed : Feed) : Nat → Nat → Playback → List (Nat × Bytes) × Option Nat × Playback
  | 0, _, p => ([], none, p)
  | most + 1, index, p =>
    match receive feed 3 (pauseBefore feed index p) with
    | (none, p) => ([], some p.now, p)
    | (some bytes, p) =>
      let (frames, finish, last) := read feed most (index + 1) p
      ((p.now, bytes) :: frames, finish, last)

def drop (p : Playback) : Playback := { p with pump := p.pump.drop }

end Playback

end StubServer.Response
