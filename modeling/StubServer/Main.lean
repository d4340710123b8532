import Std.Async.DNS
import Std.Async.Signal
import Std.Async.TCP
import Std.Async.Timer
import StubServer.Cli.Run
import StubServer.Http.Wire
import StubServer.Server.Exchange

open StubServer
open Std.Async

namespace StubServer.Program

/-- What the connections of the program share: the state of the server, how many exchanges are under
way, whether the server is stopping, and which events are printed. -/
structure Shared where
  state : IO.Ref ServerState
  busy : IO.Ref Nat
  stopping : IO.Ref Bool
  filter : Cli.LogFilter

def now : IO Timestamp := do
  let nanos := (← Std.Time.Timestamp.now).toNanosecondsSinceUnixEpoch.val
  return ⟨nanos / 1000000000, (nanos % 1000000000).toNat⟩

def printLine (line : String) : IO Unit := do
  let output ← IO.getStdout
  output.putStrLn ((← now).text ++ " " ++ line)
  output.flush

def report (shared : Shared) (events : List LogEvent) : IO Unit :=
  (Cli.lines shared.filter events).forM printLine

def waitUntil (start millis : Nat) : Async Unit := do
  let elapsed := (← IO.monoMsNow) - start
  if elapsed < millis then sleep (.ofNat (millis - elapsed))

def send (client : TCP.Socket.Client) (bytes : Bytes) : Async Unit :=
  if bytes.isEmpty then pure () else client.send ⟨bytes.toArray⟩

def allFrames : Nat := 1 <<< 32

def answer (shared : Shared) (client : TCP.Socket.Client) (request : Request) : Async Bool := do
  let start ← IO.monoMsNow
  let timestamp ← now
  let handled ← shared.state.modifyGet fun state =>
    let handled := state.handle request timestamp 0
    (handled, handled.state)
  report shared (handled.log.map (·.2))
  match handled.answer with
  | .error _ => return false
  | .ok answer =>
    let (transcript, log) := { answer with log := [] }.readOut allFrames
    waitUntil start transcript.headAt
    send client (Http.Wire.writeHead answer.response)
    if Http.Wire.writesBody request.head.method answer.response then
      for (time, bytes) in transcript.frames do
        waitUntil start time
        send client (Http.Wire.writeFrame answer.response bytes)
      waitUntil start (transcript.endAt.getD 0)
      send client (Http.Wire.writeEnd answer.response)
    report shared log.events
    return Http.Wire.isPersistent request.head

partial def serve (shared : Shared) (client : TCP.Socket.Client) (received : Bytes) : Async Unit := do
  match Http.Wire.readRequest received with
  | .malformed =>
    send client Http.Wire.badRequest
    client.shutdown
  | .incomplete =>
    match ← client.recv? 65536 with
    | none => return
    | some bytes => serve shared client (received ++ bytes.toList)
  | .complete request rest =>
    shared.busy.modify (· + 1)
    let goesOn ← try answer shared client request catch _ => pure false
    shared.busy.modify (· - 1)
    if goesOn && !(← shared.stopping.get) then serve shared client rest
    else client.shutdown

partial def acceptAll (shared : Shared) (listener : TCP.Socket.Server) : Async Unit := do
  let client ← listener.accept
  if ← shared.stopping.get then return
  background (try serve shared client [] catch _ => pure ())
  acceptAll shared listener

def addresses (host : String) : IO (List Std.Net.IPAddr) := do
  match Std.Net.IPv4Addr.ofString host, Std.Net.IPv6Addr.ofString host with
  | some a, _ => return [.v4 a]
  | _, some a => return [.v6 a]
  | _, _ => try return (← (DNS.getAddrInfo host "").block).toList catch _ => return []

def listen (config : ServerConfig) : IO (Option (TCP.Socket.Server × String)) := do
  for address in ← addresses config.host do
    try
      let listener ← TCP.Socket.Server.mk
      listener.bind (match address with
        | .v4 a => .v4 ⟨a, config.port.toUInt16⟩
        | .v6 a => .v6 ⟨a, config.port.toUInt16⟩)
      listener.listen 1024
      return some (listener, toString (← listener.getSockName))
    catch _ => pure ()
  return none

partial def settle (shared : Shared) (start millis : Nat) : IO Unit := do
  if 0 < (← shared.busy.get) && (← IO.monoMsNow) - start < millis then
    IO.sleep 10
    settle shared start millis

def drain (shared : Shared) (timeouts : Timeouts) : IO Unit := do
  let start ← IO.monoMsNow
  settle shared start timeouts.grace.millis
  let count ← shared.busy.get
  if 0 < count then
    report shared [Shutdown.closingEvent count]
    settle shared start timeouts.timeout.millis
    let count ← shared.busy.get
    if 0 < count then report shared [Shutdown.abortingEvent count timeouts]

def fail (failure : Cli.Failure) : IO UInt32 := do
  IO.eprint failure.report
  return 1

def run (config : ServerConfig) (filter : Cli.LogFilter) : IO UInt32 := do
  let listening ← listen config
  match Cli.launch config filter fun _ => listening.map (·.2), listening with
  | .error failure, _ => fail failure
  | .ok _, none => return 1
  | .ok (server, first), some (listener, _) =>
    let interrupt ← Signal.Waiter.mk .sigint false
    let interrupted ← interrupt.wait
    first.forM printLine
    let shared : Shared :=
      ⟨← IO.mkRef server.state, ← IO.mkRef 0, ← IO.mkRef false, filter⟩
    (background (acceptAll shared listener)).block
    discard interrupted.block
    shared.stopping.set true
    match Cli.halt { server with state := ← shared.state.get } filter with
    | .error failure => fail failure
    | .ok (_, last) =>
      last.dropLast.forM printLine
      drain shared (config.shutdown.timeouts.toOption.getD default)
      last.getLast?.forM printLine
      return 0

def readFile (path : String) : IO (Option Bytes) :=
  try return some (← IO.FS.readBinFile path).toList catch _ => return none

def environmentNames : List String := ["DECOY_HOST", "DECOY_PORT", "DECOY_LOG", "RUST_LOG"]

end StubServer.Program

open StubServer.Program in
def main (words : List String) : IO UInt32 := do
  let values ← environmentNames.mapM fun name => return (name, ← IO.getEnv name)
  let env (name : String) : Option String := (values.lookup name).join
  match Cli.Command.parse words env with
  | .misuse =>
    IO.eprint (Cli.helpText env)
    return 2
  | .showVersion =>
    IO.println Cli.versionText
    return 0
  | .showHelp =>
    IO.print (Cli.helpText env)
    return 0
  | .serve arguments =>
    let content? ← match arguments.config with
      | some path => readFile path
      | none => pure none
    match Cli.configuration arguments fun _ => content? with
    | .error failure => fail failure
    | .ok config => run config (Cli.LogFilter.ofEnvironment env)
