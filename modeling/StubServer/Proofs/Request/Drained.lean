import StubServer.Proofs.Request.Reading

namespace StubServer.Request

variable {frames : List Arrival} {body : Body} {me : Nat} {reader : Reader}

theorem drain_append (before rest : List Arrival) (soFar : Bytes) :
    drain (before ++ rest) soFar = (drain before soFar).bind (drain rest) := by
  induction before generalizing soFar with
  | nil => rfl
  | cons next before ih =>
    rw [List.cons_append, drain, drain]
    cases next.frame with
    | data bytes => exact ih (soFar ++ bytes)
    | trailers => exact ih soFar
    | failure reason => rfl

/-- The body has been read to its end, or up to the frame that failed. -/
inductive Body.Drained (frames : List Arrival) : Body → Prop
  | whole {bytes : Bytes} (h : drain frames [] = .ok bytes) :
    Drained frames ⟨.done, some bytes, [], frames.length⟩
  | broken {before after : List Arrival} {next : Arrival} {bytes : Bytes} {reason : String}
      (hframes : frames = before ++ next :: after) (hbefore : drain before [] = .ok bytes)
      (hnext : next.frame = .failure reason) :
        Drained frames ⟨.failed reason, none, [], before.length + 1⟩

theorem Body.Drained.ne_ofFrames (h : body.Drained frames) : body ≠ .ofFrames frames := by
  rintro rfl
  cases h

theorem Body.leave_only (state : BodyState) (cached : Option Bytes) (asked : Nat) (me : Nat) :
    Body.leave ⟨state, cached, [me], asked⟩ me = ⟨state, cached, [], asked⟩ := by
  simp [leave]

namespace Reader

def Drains (me : Nat) (frames : List Arrival) (body : Body) : Reader → Prop
  | .start => body = .ofFrames frames ∨ body.Drained frames
  | .queued => ∃ calm : Body, (calm = .ofFrames frames ∨ calm.Drained frames) ∧
      body = { calm with queue := [me] }
  | .draining rest soFar => ∃ before, frames = before ++ rest ∧ drain before [] = .ok soFar ∧
    body = ⟨.taken, none, [me], before.length⟩
  | .awaiting next rest soFar => ∃ before, frames = before ++ next :: rest ∧
      drain before [] = .ok soFar ∧ body = ⟨.taken, none, [me], before.length + 1⟩
  | .finished _ => body.Drained frames

theorem drains_start (h : body = .ofFrames frames ∨ body.Drained frames) :
    (Reader.start.step me body).2.Drains me frames (Reader.start.step me body).1 := by
  have hqueue : body.queue = [] := by
    obtain rfl | hdrained := h
    · rfl
    · cases hdrained <;> rfl
  cases hcached : body.cached with
  | none =>
    simp only [step, hcached, hqueue, List.nil_append]
    exact ⟨body, h, by rw [hcached]⟩
  | some bytes =>
    simp only [step, hcached]
    apply h.resolve_left
    rintro rfl
    cases hcached

theorem drains_queued (h : Reader.queued.Drains me frames body) :
    (Reader.queued.step me body).2.Drains me frames (Reader.queued.step me body).1 := by
  obtain ⟨calm, hcalm, rfl⟩ := h
  obtain rfl | hdrained := hcalm
  · simp only [step, List.head?_cons, if_true, enter, Body.ofFrames]
    exact ⟨[], rfl, rfl, rfl⟩
  · cases hdrained with
    | whole hbytes =>
      simp only [step, List.head?_cons, if_true, enter, Body.leave_only]
      exact .whole hbytes
    | broken hframes hbefore hnext =>
      simp only [step, List.head?_cons, if_true, enter, Body.leave_only]
      exact .broken hframes hbefore hnext

theorem drains_awaiting {next : Arrival} {rest : List Arrival} {soFar : Bytes}
    (h : (Reader.awaiting next rest soFar).Drains me frames body) :
    ((Reader.awaiting next rest soFar).step me body).2.Drains me frames
      ((Reader.awaiting next rest soFar).step me body).1 := by
  obtain ⟨before, hframes, hbefore, rfl⟩ := h
  have hlonger : frames = (before ++ [next]) ++ rest := by
    rw [hframes, List.append_assoc, List.singleton_append]
  cases hnext : next.frame with
  | data bytes =>
    simp only [step, hnext]
    refine ⟨before ++ [next], hlonger, ?_, by simp⟩
    simp [drain_append, hbefore, Except.bind, drain, hnext]
  | trailers =>
    simp only [step, hnext]
    refine ⟨before ++ [next], hlonger, ?_, by simp⟩
    simp [drain_append, hbefore, Except.bind, drain, hnext]
  | failure reason =>
    simp only [step, hnext, Body.leave_only]
    exact .broken hframes hbefore hnext

theorem drains_step (h : reader.Drains me frames body) :
    (reader.step me body).2.Drains me frames (reader.step me body).1 := by
  cases reader with
  | start => exact drains_start h
  | queued => exact drains_queued h
  | awaiting next rest soFar => exact drains_awaiting h
  | finished result => exact h
  | draining rest soFar =>
    obtain ⟨before, hframes, hbefore, rfl⟩ := h
    cases rest with
    | nil =>
      rw [List.append_nil] at hframes
      subst hframes
      simp only [step, Body.leave_only]
      exact .whole hbefore
    | cons next rest => exact ⟨before, hframes, hbefore, rfl⟩

end Reader

end StubServer.Request
