import StubServer.Proofs.Request.Reading

namespace StubServer.Request

def Frame.bytes : Frame → Bytes
  | .data bytes => bytes
  | _ => []

def Frame.failure? : Frame → Option String
  | .failure reason => some reason
  | _ => none

def content (frames : List Arrival) : Bytes := frames.flatMap (·.frame.bytes)

def breakage? (frames : List Arrival) : Option String := frames.findSome? (·.frame.failure?)

theorem content_concat (frames : List Arrival) (next : Arrival) :
    content (frames ++ [next]) = content frames ++ next.frame.bytes := by
  simp [content]

theorem breakage?_append (frames more : List Arrival) :
    breakage? (frames ++ more) = (breakage? frames).or (breakage? more) :=
  List.findSome?_append

theorem breakage?_concat {frames : List Arrival} {next : Arrival} (h : breakage? frames = none)
    (hnext : next.frame.failure? = none) : breakage? (frames ++ [next]) = none := by
  rw [breakage?_append, h, Option.none_or, breakage?, List.findSome?_cons, hnext]
  rfl

namespace Reader

def isDraining : Reader → Bool
  | .draining .. | .awaiting .. => true
  | _ => false

def isInLine : Reader → Bool
  | .queued => true
  | reader => reader.isDraining

inductive Moves (me : Nat) : Body → Reader → Body → Reader → Prop
  | join {body : Body} (h : body.cached = none) :
      Moves me body .start { body with queue := body.queue ++ [me] } .queued
  | wait {body : Body} (h : body.queue.head? ≠ some me) : Moves me body .queued body .queued
  | take {body : Body} {frames : List Arrival} (h : body.queue.head? = some me)
      (hcached : body.cached = none)
      (hstate : body.state = .unread frames) :
      Moves me body .queued { body with state := .taken } (.draining frames [])
  | hit {body : Body} {bytes : Bytes} (h : body.cached = some bytes) :
      Moves me body .start body (.finished (.ok bytes))
  | tell {body : Body} (h : body.queue.head? = some me)
      (hstate : body.cached = none → ∀ frames, body.state ≠ .unread frames) :
      Moves me body .queued (body.leave me) (.finished body.outcome)
  | ask (body : Body) (next : Arrival) (rest : List Arrival) (soFar : Bytes) :
      Moves me body (.draining (next :: rest) soFar) { body with asked := body.asked + 1 }
        (.awaiting next rest soFar)
  | receive (body : Body) (next : Arrival) (rest : List Arrival) (soFar : Bytes)
      (h : next.frame.failure? = none) :
      Moves me body (.awaiting next rest soFar) body (.draining rest (soFar ++ next.frame.bytes))
  | break (body : Body) (next : Arrival) {reason : String} (rest : List Arrival) (soFar : Bytes)
      (h : next.frame.failure? = some reason) :
      Moves me body (.awaiting next rest soFar) ({ body with state := .failed reason }.leave me)
        (.finished (.error (.unreadable reason)))
  | fill (body : Body) (soFar : Bytes) :
      Moves me body (.draining [] soFar) ({ body with state := .done, cached := some soFar }.leave me)
        (.finished (.ok soFar))
  | stay (body : Body) (result : Except BodyError Bytes) :
      Moves me body (.finished result) body (.finished result)

theorem moves_enter {me : Nat} {body : Body} (h : body.queue.head? = some me) :
    Moves me body .queued (enter me body).1 (enter me body).2 := by
  cases hcached : body.cached with
  | some bytes =>
    have htell : Moves me body .queued (body.leave me) (.finished body.outcome) :=
      .tell h fun hnone => absurd (hcached.symm.trans hnone) (Option.some_ne_none bytes)
    have houtcome : body.outcome = .ok bytes := by simp only [Body.outcome, hcached]
    simp only [enter, hcached]
    exact houtcome ▸ htell
  | none =>
    cases hstate : body.state with
    | unread frames =>
      simp only [enter, hcached, hstate]
      have htake : Moves me body .queued { body with state := .taken } (.draining frames []) :=
        .take h hcached hstate
      rw [hcached] at htake
      exact htake
    | taken | done | failed =>
      have hread : ∀ frames, body.state ≠ .unread frames := by
        intro frames hunread
        cases hstate.symm.trans hunread
      have htell : Moves me body .queued (body.leave me) (.finished body.outcome) :=
        .tell h fun _ => hread
      simp only [Body.outcome, hcached, hstate] at htell
      simp only [enter, hcached, hstate]
      exact htell

theorem moves_step (me : Nat) (body : Body) (reader : Reader) :
    Moves me body reader (reader.step me body).1 (reader.step me body).2 := by
  cases reader with
  | start =>
    cases hcached : body.cached with
    | some bytes =>
      simp only [step, hcached]
      exact .hit hcached
    | none =>
      have hjoin : Moves me body .start { body with queue := body.queue ++ [me] } .queued :=
        .join hcached
      simp only [step, hcached]
      rw [hcached] at hjoin
      exact hjoin
  | queued =>
    by_cases h : body.queue.head? = some me
    · rw [step, if_pos h]
      exact moves_enter h
    · rw [step, if_neg h]
      exact .wait h
  | draining rest soFar =>
    cases rest with
    | nil => exact .fill body soFar
    | cons next rest => exact .ask body next rest soFar
  | awaiting next rest soFar =>
    cases hframe : next.frame with
    | data bytes =>
      have hmove : Moves me body (.awaiting next rest soFar) body
        (.draining rest (soFar ++ next.frame.bytes)) :=
        .receive body next rest soFar (by simp only [hframe, Frame.failure?])
      simp only [hframe, Frame.bytes] at hmove
      simp only [step, hframe]
      exact hmove
    | trailers =>
      have hmove : Moves me body (.awaiting next rest soFar) body
        (.draining rest (soFar ++ next.frame.bytes)) :=
        .receive body next rest soFar (by simp only [hframe, Frame.failure?])
      simp only [hframe, Frame.bytes, List.append_nil] at hmove
      simp only [step, hframe]
      exact hmove
    | failure reason =>
      simp only [step, hframe]
      exact .break body next rest soFar (by simp only [hframe, Frame.failure?])
  | finished result => exact .stay body result

theorem left_of_moves {me : Nat} {body body' : Body} {reader reader' : Reader}
    (h : Moves me body reader body' reader') (hf : ∀ result, reader ≠ .finished result)
    (hturn : reader = .queued → body.queue.head? = some me) :
    2 * body'.pending + reader'.left < 2 * body.pending + reader.left := by
  cases h with
  | wait hwait => exact absurd (hturn rfl) hwait
  | stay result => exact absurd rfl (hf result)
  | take hhead hcached hstate =>
    simp only [Body.pending, hstate, left]
    omega
  | _ =>
    simp only [Body.pending, Body.leave, left, List.length_cons]
    omega

end Reader

/-- What a reader may do to the source: take it, ask it for a frame, get the frame, or leave it half
read. -/
inductive Moment where
  | took (reader : Nat)
  | asked (reader : Nat) (next : Arrival)
  | got (reader : Nat) (next : Arrival)
  | left (reader : Nat)
  deriving DecidableEq

namespace Moment

def reader : Moment → Nat
  | took n | asked n _ | got n _ | left n => n

def pulled? : Moment → Option Arrival
  | asked _ next => some next
  | _ => none

/-- What a step of reader `n` does to the source. -/
def ofStep (n : Nat) : Reader → Reader → List Moment
  | .queued, .draining .. => [took n]
  | .draining .., .awaiting next .. => [asked n next]
  | .awaiting next .., _ => [got n next]
  | _, _ => []

end Moment

/-- A body and its readers, by number; where there is none, it has been cancelled. -/
structure Readership where
  body : Body
  readers : List (Option Reader)
  history : List Moment

namespace Readership

/-- What may happen next: another reader, a step of a reader, or the end of one. -/
inductive Event where
  | call
  | advance (n : Nat)
  | cancel (n : Nat)

def advance (r : Readership) (n : Nat) (reader : Reader) : Readership :=
  ⟨(reader.step n r.body).1, r.readers.set n (some (reader.step n r.body).2),
    r.history ++ Moment.ofStep n reader (reader.step n r.body).2⟩

/-- A reader that is cancelled leaves the queue, and leaves the source as it is. -/
def cancel (r : Readership) (n : Nat) (reader : Reader) : Readership :=
  ⟨r.body.leave n, r.readers.set n none, r.history ++ if reader.isDraining then [.left n] else []⟩

def step (r : Readership) : Event → Readership
  | .call => { r with readers := r.readers ++ [some .start] }
  | .advance n =>
    match r.readers[n]? with
    | some (some reader) => r.advance n reader
    | _ => r
  | .cancel n =>
    match r.readers[n]? with
    | some (some (.finished _)) => r
    | some (some reader) => r.cancel n reader
    | _ => r

def run (frames : List Arrival) (events : List Event) : Readership :=
  events.foldl step ⟨.ofFrames frames, [], []⟩

def At (r : Readership) (n : Nat) (reader : Reader) : Prop := r.readers[n]? = some (some reader)

/-- Reader `n` has been told this. -/
def Told (r : Readership) (n : Nat) (result : Except BodyError Bytes) : Prop := r.At n (.finished result)

end Readership

end StubServer.Request
