import StubServer.Request.Body

namespace StubServer.Request

def drain : List Arrival → Bytes → Except BodyError Bytes
  | [], soFar => .ok soFar
  | next :: rest, soFar =>
    match next.frame with
    | .data bytes => drain rest (soFar ++ bytes)
    | .trailers => drain rest soFar
    | .failure reason => .error (.unreadable reason)

/-- What a reader is told with nobody else around. -/
def Body.outcome (body : Body) : Except BodyError Bytes :=
  match body.cached, body.state with
  | some bytes, _ => .ok bytes
  | none, .unread frames => drain frames []
  | none, .failed reason => .error (.unreadable reason)
  | none, .taken => .error Reader.interrupted
  | none, .done => .ok []

namespace Reader

/-- The reader is on the way to this outcome, and nobody else is at the body. -/
def Tends (me : Nat) (outcome : Except BodyError Bytes) (body : Body) : Reader → Prop
  | .start => body.queue = [] ∧ body.outcome = outcome
  | .queued => body.queue = [me] ∧ body.outcome = outcome
  | .draining rest soFar =>
    body.queue = [me] ∧ body.cached = none ∧ body.state = .taken ∧ drain rest soFar = outcome
  | .awaiting next rest soFar =>
    body.queue = [me] ∧ body.cached = none ∧ body.state = .taken ∧ drain (next :: rest) soFar = outcome
  | .finished result => body.queue = [] ∧ body.outcome = outcome ∧ result = outcome

def left : Reader → Nat
  | .start => 3
  | .queued => 2
  | .draining rest _ => 2 * rest.length + 1
  | .awaiting _ rest _ => 2 * rest.length + 2
  | .finished _ => 0

variable {me : Nat} {outcome : Except BodyError Bytes} {body : Body} {reader : Reader}

theorem leave_queue (h : body.queue = [me]) : (body.leave me).queue = [] := by
  simp [Body.leave, h]

theorem leave_outcome (body : Body) (me : Nat) : (body.leave me).outcome = body.outcome := rfl

theorem leave_pending (body : Body) (me : Nat) : (body.leave me).pending = body.pending := rfl

theorem tends_enter (hq : body.queue = [me]) (ho : body.outcome = outcome) :
    Tends me outcome (enter me body).1 (enter me body).2 := by
  have hleave := leave_queue hq
  obtain ⟨state, cached, queue, asked⟩ := body
  cases cached with
  | some bytes => exact ⟨hleave, ho, ho⟩
  | none =>
    cases state with
    | unread frames => exact ⟨hq, rfl, rfl, ho⟩
    | taken | done | failed => exact ⟨hleave, ho, ho⟩

theorem tends_step (h : Tends me outcome body reader) :
    Tends me outcome (reader.step me body).1 (reader.step me body).2 := by
  cases reader with
  | start =>
    obtain ⟨hq, ho⟩ := h
    cases hc : body.cached with
    | some bytes =>
      simp only [step, hc]
      refine ⟨hq, ho, ?_⟩
      rw [← ho, Body.outcome, hc]
    | none =>
      simp only [step, hc]
      refine ⟨by rw [hq, List.nil_append], ?_⟩
      rw [← ho, Body.outcome, Body.outcome, hc]
  | queued =>
    obtain ⟨hq, ho⟩ := h
    have hhead : body.queue.head? = some me := by
      rw [hq]
      rfl
    rw [step, if_pos hhead]
    exact tends_enter hq ho
  | draining rest soFar =>
    obtain ⟨hq, hc, hs, ho⟩ := h
    cases rest with
    | nil => exact ⟨leave_queue hq, ho, ho⟩
    | cons next rest => exact ⟨hq, hc, hs, ho⟩
  | awaiting next rest soFar =>
    obtain ⟨hq, hc, hs, ho⟩ := h
    cases hf : next.frame with
    | data bytes =>
      simp only [drain, hf] at ho
      simp only [step, hf]
      exact ⟨hq, hc, hs, ho⟩
    | trailers =>
      simp only [drain, hf] at ho
      simp only [step, hf]
      exact ⟨hq, hc, hs, ho⟩
    | failure reason =>
      simp only [drain, hf] at ho
      simp only [step, hf]
      refine ⟨leave_queue hq, ?_, ho⟩
      rw [leave_outcome, Body.outcome, hc]
      exact ho
  | finished result => exact h

theorem left_enter (me : Nat) (body : Body) :
    2 * (enter me body).1.pending + (enter me body).2.left < 2 * body.pending + 2 := by
  obtain ⟨state, cached, queue, asked⟩ := body
  cases cached with
  | some bytes =>
    simp only [enter, leave_pending, left]
    omega
  | none => cases state <;> simp [enter, Body.leave, Body.pending, left]

theorem left_step (h : Tends me outcome body reader) (hf : ∀ result, reader ≠ .finished result) :
    2 * (reader.step me body).1.pending + (reader.step me body).2.left < 2 * body.pending +
      reader.left := by
  cases reader with
  | start =>
    simp only [step]
    split <;> simp [Body.pending, left]
  | queued =>
    have hhead : body.queue.head? = some me := by
      rw [h.1]
      rfl
    rw [step, if_pos hhead]
    exact left_enter me body
  | draining rest soFar =>
    obtain ⟨_, _, hs, _⟩ := h
    cases rest with
    | nil => simp [step, Body.leave, Body.pending, hs, left]
    | cons next rest =>
      simp only [step, Body.pending, hs, left, List.length_cons]
      omega
  | awaiting next rest soFar =>
    obtain ⟨_, _, hs, _⟩ := h
    cases hf : next.frame <;> simp [step, hf, Body.leave, Body.pending, hs, left]
  | finished result => exact absurd rfl (hf result)

theorem finished_of_left_eq_zero (h : reader.left = 0) : ∃ result, reader = .finished result := by
  cases reader with
  | finished result => exact ⟨result, rfl⟩
  | start | queued | draining | awaiting => cases h

end Reader

namespace Reading

theorem run_succ (me fuel elapsed : Nat) (body : Body) {reader : Reader}
    (h : ∀ result, reader ≠ .finished result) : run me none (fuel + 1) ⟨body, reader, elapsed⟩ =
      run me none fuel ⟨(reader.step me body).1, (reader.step me body).2, elapsed + reader.pause⟩ := by
  cases reader with
  | finished result => exact absurd rfl (h result)
  | start | queued | draining | awaiting => rfl

theorem run_of_finished (me fuel elapsed : Nat) (body : Body) (result : Except BodyError Bytes) :
    run me none fuel ⟨body, .finished result, elapsed⟩ = ⟨body, .finished result, elapsed⟩ := by
  cases fuel <;> rfl

theorem run_finishes {me : Nat} {outcome : Except BodyError Bytes} (fuel elapsed : Nat) {body : Body}
    {reader : Reader} (h : reader.Tends me outcome body)
    (hfuel : 2 * body.pending + reader.left ≤ fuel) :
    (run me none fuel ⟨body, reader, elapsed⟩).reader = .finished outcome := by
  induction fuel generalizing body reader elapsed with
  | zero =>
    obtain ⟨result, rfl⟩ := Reader.finished_of_left_eq_zero (show reader.left = 0 by omega)
    rw [run_of_finished, h.2.2]
  | succ fuel ih =>
    by_cases hf : ∃ result, reader = .finished result
    · obtain ⟨result, rfl⟩ := hf
      rw [run_of_finished, h.2.2]
    · have hf' : ∀ result, reader ≠ .finished result := fun result he => hf ⟨result, he⟩
      have hleft := Reader.left_step h hf'
      rw [run_succ me fuel elapsed body hf']
      exact ih _ (Reader.tends_step h) (by omega)

theorem run_tends {me : Nat} {outcome : Except BodyError Bytes} (fuel elapsed : Nat) {body : Body}
    {reader : Reader} (h : reader.Tends me outcome body) :
    (run me none fuel ⟨body, reader, elapsed⟩).reader.Tends me outcome
      (run me none fuel ⟨body, reader, elapsed⟩).body := by
  induction fuel generalizing body reader elapsed with
  | zero => exact h
  | succ fuel ih =>
    by_cases hf : ∃ result, reader = .finished result
    · obtain ⟨result, rfl⟩ := hf
      rw [run_of_finished]
      exact h
    · rw [run_succ me fuel elapsed body fun result he => hf ⟨result, he⟩]
      exact ih _ (Reader.tends_step h)

end Reading

theorem Body.read_ends {body : Body} (h : body.queue = []) :
    (Reading.run 0 none body.enough ⟨body, .start, 0⟩).reader = .finished body.outcome := by
  have hstart : Reader.start.Tends 0 body.outcome body := ⟨h, rfl⟩
  have hfuel : 2 * body.pending + Reader.start.left ≤ body.enough := by
    simp only [enough, Reader.left]
    omega
  exact Reading.run_finishes body.enough 0 hstart hfuel

theorem Body.read_fst {body : Body} (h : body.queue = []) : body.read.1 = body.outcome := by
  rw [read, read_ends h]

theorem Body.read_leaves {body : Body} (h : body.queue = []) :
    body.read.2.1.queue = [] ∧ body.read.2.1.outcome = body.outcome := by
  have hstart : Reader.start.Tends 0 body.outcome body := ⟨h, rfl⟩
  have htends := Reading.run_tends body.enough 0 hstart
  rw [read_ends h] at htends
  rw [read, read_ends h]
  exact ⟨htends.1, htends.2.1⟩

end StubServer.Request
