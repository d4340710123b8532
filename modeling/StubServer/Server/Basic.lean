import StubServer.Config.ServerConfig
import StubServer.Server.Shutdown
import StubServer.Server.Verification

namespace StubServer

inductive ServerError where
  | unbound (target : String)
  | badTimeouts (e : TimeoutError)
  | badConfig (e : ConfigError)
  | badStub (e : StubError)
  deriving DecidableEq, Repr

def ServerError.message : ServerError → String
  | .unbound target => "Failed to bind " ++ target
  | .badTimeouts e => e.message
  | .badConfig e => e.message
  | .badStub e => e.message

/-- A server: its configuration, what its connections share, the address it listens on, the open
connections, and whether it accepts new ones. -/
structure Server where
  config : ServerConfig
  state : ServerState
  address : String
  connections : List Connection
  isRunning : Bool

namespace Server

def addDefinitions (state : ServerState) : Nat → List StubDefinition → Except ServerError ServerState
  | _, [] => .ok state
  | created, d :: rest => do
    let stub ← (d.build created).mapError .badConfig
    let (registry, result) := state.registry.add stub
    result.mapError .badStub
    addDefinitions { state with registry } (created + 1) rest

def initialState (config : ServerConfig) (created : Nat) : Except ServerError ServerState := do
  config.validate.mapError .badConfig
  addDefinitions (.new config.verbose config.journalMode) created config.stubs

def target (config : ServerConfig) : String := config.host ++ ":" ++ toString config.port

def listeningEvent (server : Server) : LogEvent :=
  ⟨.info, .server, "Server '" ++ server.config.name ++ "' listening on " ++ server.address ++ " with "
    ++ toString server.state.registry.list.length ++ " stubs"⟩

/-- Starts a server. `bind` tells the address that listening on a host and port leads to, if that can
be done; the first stub is the one created with the given number. -/
def start (config : ServerConfig) (created : Nat) (bind : String → Option String) :
    Except ServerError (Server × List LogEvent) := do
  let state ← initialState config created
  match bind (target config) with
  | none => throw (.unbound (target config))
  | some address =>
    let server : Server := ⟨config, state, address, [], true⟩
    return (server, [server.listeningEvent])

def baseUrl (server : Server) : String := "http://" ++ server.address

def register (server : Server) (stub : Stub) : Server × Except StubError Unit × List LogEvent :=
  let (registry, result) := server.state.registry.add stub
  ({ server with state := { server.state with registry } }, result,
    if server.state.verbose then [⟨.debug, .server, "Registering " ++ stub.text⟩] else [])

def unregister (server : Server) (stub : Stub) : Server × Bool :=
  let (registry, removed) := server.state.registry.remove stub
  ({ server with state := { server.state with registry } }, removed)

structure Stopped where
  server : Server
  elapsed : Duration
  log : List LogEvent

/-- Stops the server. One that has stopped is left as it is. -/
def stop (server : Server) (timeouts : Timeouts) : Stopped :=
  if server.isRunning then
    let drain := Shutdown.Drain.run timeouts server.connections
    let name := "Server '" ++ server.config.name ++ "' "
    ⟨{ server with connections := [], isRunning := false }, ⟨drain.now⟩,
      ⟨.info, .server, name ++ "shutting down (grace period " ++ timeouts.grace.text ++ ", timeout "
        ++ timeouts.timeout.text ++ ")"⟩
        :: drain.log ++ [⟨.info, .server, name ++ "stopped"⟩]⟩
  else ⟨server, .zero, []⟩

def shutdown (server : Server) (grace timeout : Duration) : Except ServerError Stopped := do
  return server.stop (← (Timeouts.of grace timeout).mapError .badTimeouts)

def shutdownMillis (server : Server) (grace timeout : Int) : Except ServerError Stopped := do
  return server.stop (← (Timeouts.ofMillis grace timeout).mapError .badTimeouts)

def shutdownDefault (server : Server) : Stopped := server.stop .default

def drop (server : Server) : Stopped :=
  { server.stop .immediate with
    elapsed := .zero
    log := if server.isRunning then (Shutdown.Drain.run .immediate server.connections).log else [] }

end Server

end StubServer
