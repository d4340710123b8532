import StubServer.Text.Utf8

namespace StubServer.Request

inductive BodyError where
  | unreadable (reason : String)
  | undecodable (decoder reason : String)
  deriving DecidableEq, Repr

def withReason (text reason : String) : String :=
  if reason.isEmpty then text else text ++ ": " ++ reason

def BodyError.message : BodyError → String
  | .unreadable reason => "Failed to read request body: " ++ reason
  | .undecodable decoder reason =>
    withReason ("Failed to decode request body as " ++ decoder) reason

inductive Frame where
  | data (bytes : Bytes)
  | trailers
  | failure (reason : String)
  deriving DecidableEq, Repr

/-- A frame and the time that passes, in milliseconds, between asking for it and having it. -/
structure Arrival where
  pause : Nat
  frame : Frame
  deriving DecidableEq, Repr

inductive BodyState where
  | unread (frames : List Arrival)
  /-- Taken by a reader who has not finished. -/
  | taken
  | done
  | failed (reason : String)
  deriving DecidableEq, Repr

/-- A body: its state, its bytes once a read has succeeded, the readers who queue for it by number, the
first of whom may go on, and how many frames have been asked for so far. -/
structure Body where
  state : BodyState
  cached : Option Bytes
  queue : List Nat
  asked : Nat
  deriving DecidableEq, Repr

namespace Body

def ofBytes (bytes : Bytes) : Body := ⟨.done, some bytes, [], 0⟩

def ofFrames (frames : List Arrival) : Body := ⟨.unread frames, none, [], 0⟩

def leave (body : Body) (reader : Nat) : Body := { body with queue := body.queue.erase reader }

def pending (body : Body) : Nat :=
  match body.state with
  | .unread frames => frames.length
  | _ => 0

end Body

/-- How far a reader has come. Its steps are the points where others may act in between, and where
it may be abandoned. -/
inductive Reader where
  | start
  | queued
  | draining (rest : List Arrival) (soFar : Bytes)
  | awaiting (next : Arrival) (rest : List Arrival) (soFar : Bytes)
  | finished (result : Except BodyError Bytes)

namespace Reader

/-- What a later reader is told after a read that was abandoned. -/
def interrupted : BodyError := .unreadable "a previous read of the body was interrupted"

def enter (me : Nat) (body : Body) : Body × Reader :=
  match body.cached, body.state with
  | some bytes, _ => (body.leave me, .finished (.ok bytes))
  | none, .unread frames => ({ body with state := .taken }, .draining frames [])
  | none, .failed reason => (body.leave me, .finished (.error (.unreadable reason)))
  -- Nobody else is reading: whoever took the body has been abandoned.
  | none, .taken => (body.leave me, .finished (.error interrupted))
  | none, .done => (body.leave me, .finished (.ok []))

/-- One step of reader number `me`. A queued reader who is not first stays where it is. -/
def step (me : Nat) (body : Body) : Reader → Body × Reader
  | .start =>
    match body.cached with
    | some bytes => (body, .finished (.ok bytes))
    | none => ({ body with queue := body.queue ++ [me] }, .queued)
  | .queued => if body.queue.head? = some me then enter me body else (body, .queued)
  | .draining [] soFar =>
    ({ body with state := .done, cached := some soFar }.leave me, .finished (.ok soFar))
  | .draining (next :: rest) soFar =>
    ({ body with asked := body.asked + 1 }, .awaiting next rest soFar)
  | .awaiting next rest soFar =>
    match next.frame with
    | .data bytes => (body, .draining rest (soFar ++ bytes))
    | .trailers => (body, .draining rest soFar)
    | .failure reason =>
      ({ body with state := .failed reason }.leave me, .finished (.error (.unreadable reason)))
  | .finished result => (body, .finished result)

def pause : Reader → Nat
  | .awaiting next _ _ => next.pause
  | _ => 0

end Reader

structure Reading where
  body : Body
  reader : Reader
  elapsed : Nat

namespace Reading

def isLate (limit : Option Nat) (elapsed : Nat) : Bool :=
  match limit with
  | none => false
  | some limit => limit < elapsed

/-- Takes up to `fuel` steps, none of them later than the limit. -/
def run (me : Nat) (limit : Option Nat) : Nat → Reading → Reading
  | 0, reading => reading
  | fuel + 1, reading =>
    let elapsed := reading.elapsed + reading.reader.pause
    match reading.reader with
    | .finished _ => reading
    | reader =>
      if isLate limit elapsed then reading
      else
        let (body, reader) := reader.step me reading.body
        run me limit fuel ⟨body, reader, elapsed⟩

end Reading

namespace Body

def enough (body : Body) : Nat := 2 * body.pending + 4

def read (body : Body) : Except BodyError Bytes × Body × Nat :=
  let reading := Reading.run 0 none body.enough ⟨body, .start, 0⟩
  match reading.reader with
  | .finished result => (result, reading.body, reading.elapsed)
  | _ => (.error Reader.interrupted, reading.body.leave 0, reading.elapsed)

/-- Reads the body for so many milliseconds and then gives up; no result if that was too early. -/
def readWithin (limit : Nat) (body : Body) : Option (Except BodyError Bytes) × Body × Nat :=
  let reading := Reading.run 0 (some limit) body.enough ⟨body, .start, 0⟩
  match reading.reader with
  | .finished result => (some result, reading.body, reading.elapsed)
  | _ => (none, reading.body.leave 0, limit)

end Body

end StubServer.Request
