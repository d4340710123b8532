import StubServer.Proofs.Config.Definitions
import StubServer.Proofs.Server.Service
import StubServer.Server.Basic

namespace StubServer

theorem Timeouts.of_eq_ok {grace timeout : Duration} :
    (∃ t, of grace timeout = .ok t) ↔ grace ≤ timeout := by
  rw [of]
  split <;> simp [*]

theorem Timeouts.ofMillis_eq_ok {grace timeout : Int} :
    (∃ t, ofMillis grace timeout = .ok t) ↔ 0 ≤ grace ∧ grace ≤ timeout := by
  rw [ofMillis]
  by_cases hgrace : grace < 0
  · simp [if_pos hgrace, Int.not_le.mpr hgrace]
  · by_cases htimeout : timeout < 0
    · have hne : ¬(0 ≤ grace ∧ grace ≤ timeout) := by omega
      simp [if_neg hgrace, if_pos htimeout, hne]
    · have hle : Duration.ofMillis grace.toNat ≤ Duration.ofMillis timeout.toNat ↔
          grace.toNat * 1000000 ≤ timeout.toNat * 1000000 := Iff.rfl
      rw [if_neg hgrace, if_neg htimeout, of_eq_ok, hle]
      omega

theorem ServerConfig.timeouts_of_validate {config : ServerConfig} (h : config.validate = .ok ()) :
    ∃ t, config.shutdown.timeouts = .ok t := by
  rw [validate] at h
  split at h
  · cases h
  · obtain ⟨_, hchecked, -⟩ := bind_eq_ok.mp h
    cases htimeouts : config.shutdown.timeouts with
    | ok t => exact ⟨t, rfl⟩
    | error e =>
      rw [htimeouts] at hchecked
      cases hchecked

namespace Server

/-- A call that tells a server to stop: with the given timeouts, with timeouts in milliseconds that
may be negative, or with those that are usual. -/
inductive StopCall where
  | within (grace timeout : Duration)
  | withinMillis (grace timeout : Int)
  | usual

namespace StopCall

def grace : StopCall → Int
  | within grace _ => grace.nanos
  | withinMillis grace _ => grace * 1000000
  | usual => Timeouts.default.grace.nanos

def timeout : StopCall → Int
  | within _ timeout => timeout.nanos
  | withinMillis _ timeout => timeout * 1000000
  | usual => Timeouts.default.timeout.nanos

def answer (server : Server) : StopCall → Except ServerError Stopped
  | within grace timeout => server.shutdown grace timeout
  | withinMillis grace timeout => server.shutdownMillis grace timeout
  | usual => .ok server.shutdownDefault

/-- The server heeds the call. -/
def IsAccepted (server : Server) (call : StopCall) : Prop := ∃ stopped, call.answer server = .ok stopped

variable {server : Server} {call : StopCall} {stopped : Stopped}

theorem stop_eq_ok {timeouts : Except TimeoutError Timeouts} :
    (do return server.stop (← timeouts.mapError .badTimeouts) :
      Except ServerError Stopped) = .ok stopped ↔
      ∃ t, timeouts = .ok t ∧ stopped = server.stop t := by
  cases timeouts with
  | error e => simp [Except.mapError, Bind.bind, Except.bind]
  | ok t => simp [Except.mapError, Bind.bind, Except.bind, Pure.pure, Except.pure, eq_comm]

theorem answer_eq_ok (h : call.answer server = .ok stopped) : ∃ t, stopped = server.stop t := by
  cases call with
  | within grace timeout =>
    obtain ⟨t, -, hstop⟩ := stop_eq_ok.mp h
    exact ⟨t, hstop⟩
  | withinMillis grace timeout =>
    obtain ⟨t, -, hstop⟩ := stop_eq_ok.mp h
    exact ⟨t, hstop⟩
  | usual =>
    cases h
    exact ⟨.default, rfl⟩

theorem isAccepted_iff : call.IsAccepted server ↔ 0 ≤ call.grace ∧ call.grace ≤ call.timeout := by
  cases call with
  | within grace timeout =>
    have hle : grace ≤ timeout ↔ grace.nanos ≤ timeout.nanos := Iff.rfl
    have hof : (∃ t, Timeouts.of grace timeout = .ok t) ↔ IsAccepted server (within grace timeout) :=
      ⟨fun ⟨t, ht⟩ => ⟨_, stop_eq_ok.mpr ⟨t, ht, rfl⟩⟩,
        fun ⟨_, h⟩ => (stop_eq_ok.mp h).imp fun _ => And.left⟩
    rw [← hof, Timeouts.of_eq_ok, hle]
    simp only [StopCall.grace, StopCall.timeout]
    omega
  | withinMillis grace timeout =>
    have hof : (∃ t, Timeouts.ofMillis grace timeout = .ok t) ↔
      IsAccepted server (withinMillis grace timeout) :=
      ⟨fun ⟨t, ht⟩ => ⟨_, stop_eq_ok.mpr ⟨t, ht, rfl⟩⟩,
        fun ⟨_, h⟩ => (stop_eq_ok.mp h).imp fun _ => And.left⟩
    rw [← hof, Timeouts.ofMillis_eq_ok]
    simp only [StopCall.grace, StopCall.timeout]
    omega
  | usual => exact iff_of_true ⟨_, rfl⟩ (by decide)

end StopCall

end Server

open Server (StopCall)

/-- A server, and the requests that have come in since it was started. -/
structure Lifetime where
  server : Server
  exchanges : List Exchange

namespace Lifetime

/-- What may happen next: a call that tells the server to stop; a stub is added or taken out; a
request comes in, goes on to its next wait, or is abandoned; a connection is made or ends. -/
inductive Event where
  | call (call : StopCall)
  | register (stub : Stub)
  | unregister (stub : Stub)
  | arrive (request : Request)
  | resume (n : Nat) (timestamp : Timestamp) (now : Nat)
  | abandon (n : Nat)
  | connect (connection : Connection)
  | disconnect (n : Nat)

def withState (s : Lifetime) (state : ServerState) : Lifetime :=
  { s with server := { s.server with state } }

def withConnections (s : Lifetime) (connections : List Connection) : Lifetime :=
  { s with server := { s.server with connections } }

/-- What is left when the event has happened. Whoever calls in vain keeps the server, and one that
has stopped accepts no connections. -/
def step (s : Lifetime) : Event → Lifetime
  | .call call =>
    match call.answer s.server with
    | .ok stopped => { s with server := stopped.server }
    | .error _ => s
  | .register stub => { s with server := (s.server.register stub).1 }
  | .unregister stub => { s with server := (s.server.unregister stub).1 }
  | .arrive request =>
    { s with exchanges := s.exchanges ++ [.new s.exchanges.length s.server.state.verbose request] }
  | .resume n timestamp now =>
    match s.exchanges[n]? with
    | some e =>
      let (state, e', _) := e.resume s.server.state timestamp now
      { s with exchanges := s.exchanges.set n e' }.withState state
    | none => s
  | .abandon n =>
    match s.exchanges[n]? with
    | some e =>
      let (state, e') := e.abandon s.server.state
      { s with exchanges := s.exchanges.set n e' }.withState state
    | none => s
  | .connect connection =>
    if s.server.isRunning then s.withConnections (s.server.connections ++ [connection]) else s
  | .disconnect n => s.withConnections (s.server.connections.eraseIdx n)

/-- What is left of a server when these events have happened one after the other. -/
def run (server : Server) (events : List Event) : Lifetime := events.foldl step ⟨server, []⟩

variable {s : Lifetime} {server : Server} {call : StopCall}

theorem run_concat (server : Server) (events : List Event) (event : Event) :
    run server (events ++ [event]) = (run server events).step event := List.foldl_concat _ _ _ _

theorem step_rejected {e : ServerError} (h : call.answer s.server = .error e) :
    s.step (.call call) = s := by
  simp only [step, h]

theorem step_accepted {stopped : Server.Stopped} (h : call.answer s.server = .ok stopped) :
    s.step (.call call) = { s with server := stopped.server } := by
  simp only [step, h]

theorem isRunning_step (s : Lifetime) (event : Event) : (s.step event).server.isRunning ↔
    s.server.isRunning ∧ ∀ call, .call call = event → ¬call.IsAccepted s.server := by
  cases event with
  | call call =>
    cases hanswer : call.answer s.server with
    | error e =>
      rw [step_rejected hanswer]
      simp [StopCall.IsAccepted, hanswer]
    | ok stopped =>
      rw [step_accepted hanswer]
      obtain ⟨t, rfl⟩ := StopCall.answer_eq_ok hanswer
      have hstopped : (s.server.stop t).server.isRunning = false := by
        rw [Server.stop]
        split
        · rfl
        · next hnot => exact Bool.eq_false_iff.mpr hnot
      simp [StopCall.IsAccepted, hanswer, hstopped]
  | register | unregister | arrive | disconnect =>
    simp [step, Server.register, Server.unregister, withConnections]
  | resume n timestamp now => cases hat : s.exchanges[n]? <;> simp [step, hat, withState]
  | abandon n => cases hat : s.exchanges[n]? <;> simp [step, hat, withState]
  | connect connection =>
    simp only [step]
    split <;> simp [withConnections]

theorem isRunning_run (server : Server) (events : List Event) : (run server events).server.isRunning ↔
    server.isRunning ∧ ∀ call, .call call ∈ events → ¬(0 ≤ call.grace ∧ call.grace ≤ call.timeout) := by
  induction events using List.reverseRecOn with
  | nil => simp [run]
  | append_singleton events event ih =>
    simp only [run_concat, isRunning_step, ih, StopCall.isAccepted_iff, List.mem_append,
      List.mem_singleton, or_imp, forall_and, and_assoc]

/-- How a server that has come so far takes the calls. -/
structure StopsOnce (server : Server) (events : List Event) (s : Lifetime) : Prop where
  accepted_iff : ∀ call : StopCall, call.IsAccepted s.server ↔ 0 ≤ call.grace ∧ call.grace ≤ call.timeout
  rejected : ∀ call : StopCall, ¬call.IsAccepted s.server → s.step (.call call) = s
  running_iff : s.server.isRunning ↔ ∀ before call after, events = before ++ .call call :: after →
    ¬call.IsAccepted (run server before).server
  stops : s.server.isRunning → ∀ call : StopCall, call.IsAccepted s.server →
    s.step (.call call) = { s with server := { s.server with connections := [], isRunning := false } }
  stopped : ¬s.server.isRunning → ∀ (call : StopCall) stopped, call.answer s.server = .ok stopped →
    stopped = ⟨s.server, .zero, []⟩ ∧ s.step (.call call) = s
  own : ∀ config : ServerConfig, config.validate = .ok () →
    (StopCall.withinMillis config.shutdown.graceMillis config.shutdown.timeoutMillis).IsAccepted s.server

theorem isRunning_of_start {config : ServerConfig} {created : Nat} {bind : String → Option String}
    {log : List LogEvent} (h : Server.start config created bind = .ok (server, log)) :
    server.isRunning := by
  rw [Server.start] at h
  obtain ⟨state, -, h⟩ := bind_eq_ok.mp h
  split at h
  · cases h
  · cases h
    rfl

theorem stopsOnce_run {config : ServerConfig} {created : Nat} {bind : String → Option String}
    {log : List LogEvent} (hstart : Server.start config created bind = .ok (server, log))
      (events : List Event) :
    StopsOnce server events (run server events) := by
  generalize hs : run server events = s
  refine ⟨fun call => StopCall.isAccepted_iff, fun call hnot => ?_, ?_,
    fun hrunning call haccepted => ?_, fun hnot call stopped hanswer => ?_, fun config hvalid => ?_⟩
  · cases hanswer : call.answer s.server with
    | error e => exact step_rejected hanswer
    | ok stopped => exact absurd ⟨stopped, hanswer⟩ hnot
  · rw [← hs, isRunning_run]
    simp only [isRunning_of_start hstart, true_and, StopCall.isAccepted_iff]
    constructor
    · rintro h before call after rfl
      exact h call (List.mem_append_right before List.mem_cons_self)
    · intro h call hcall
      obtain ⟨before, after, hevents⟩ := List.append_of_mem hcall
      exact h before call after hevents
  · obtain ⟨stopped, hanswer⟩ := haccepted
    obtain ⟨t, rfl⟩ := StopCall.answer_eq_ok hanswer
    rw [step_accepted hanswer, Server.stop, if_pos hrunning]
  · obtain ⟨t, rfl⟩ := StopCall.answer_eq_ok hanswer
    have hstop : s.server.stop t = ⟨s.server, .zero, []⟩ := by rw [Server.stop, if_neg hnot]
    refine ⟨hstop, ?_⟩
    rw [step_accepted hanswer, hstop]
  · rw [StopCall.isAccepted_iff]
    have htimeouts := Timeouts.ofMillis_eq_ok.mp (ServerConfig.timeouts_of_validate hvalid)
    simp only [StopCall.grace, StopCall.timeout]
    omega

def fourCalls : List Event :=
  [.call (.withinMillis 5 3), .connect ⟨none, fun _ => none⟩, .call (.withinMillis (-1) 0), .call .usual,
    .call (.within .zero .zero)]

theorem stopsOnce_run_fourCalls : ∃ server log, Server.start .blank 0 some = .ok (server, log) ∧
    (run server (fourCalls.take 3)).server.isRunning ∧ ¬(run server fourCalls).server.isRunning ∧
    StopsOnce server fourCalls (run server fourCalls) :=
  ⟨_, _, rfl, by decide, by decide, @stopsOnce_run _ .blank 0 some _ rfl fourCalls⟩

end Lifetime

end StubServer
