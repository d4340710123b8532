import StubServer.Cli.Arguments
import StubServer.Cli.LogFilter
import StubServer.Server.Basic

namespace StubServer.Cli

/-- Why a run fails: what was to be done, the cause, and whether the cause has a cause of its own, which
belongs to somebody else and is left out. -/
structure Failure where
  context : String
  cause : String
  hasDeeperCause : Bool
  deriving DecidableEq, Repr

namespace Failure

def indented (indent : String) (text : String) : String :=
  String.ofList (text.toList.flatMap fun c => if c = '\n' then '\n' :: indent.toList else [c])

def report (failure : Failure) : String :=
  "Error: " ++ failure.context ++ "\n\nCaused by:\n"
    ++ if failure.hasDeeperCause then "    0: " ++ indented "       " failure.cause
      else "    " ++ indented "    " failure.cause ++ "\n"

def ofConfigError (context : String) (e : ConfigError) : Failure :=
  ⟨context, e.message, match e with | .invalid _ => false | _ => true⟩

def ofServerError (context : String) (e : ServerError) : Failure :=
  match e with
  | .badConfig e => ofConfigError context e
  | .unbound _ => ⟨context, e.message, true⟩
  | _ => ⟨context, e.message, false⟩

end Failure

def loaded (path : String) (read? : String → Option Bytes) : Except Failure ServerConfig :=
  (ServerConfig.ofFile path (read? path)).mapError
    (Failure.ofConfigError ("Failed to load config from " ++ path))

def configuration (a : Arguments) (read? : String → Option Bytes) : Except Failure ServerConfig := do
  let config ← match a.config with
    | none => .ok ServerConfig.blank
    | some path => loaded path read?
  return { config with
    host := a.host.getD config.host
    port := a.port.getD config.port
    verbose := a.verbose || config.verbose
    journalMode := a.journal.getD config.journalMode }

def lines (filter : LogFilter) (events : List LogEvent) : List String :=
  (events.filter fun event => filter.allows event.origin.target event.level).map LogEvent.fullLine

def launch (config : ServerConfig) (filter : LogFilter) (bind : String → Option String) :
    Except Failure (Server × List String) := do
  let (server, log) ← (Server.start config 0 bind).mapError
    (Failure.ofServerError "Failed to start server")
  return (server,
    lines filter (log ++ [⟨.info, .program, "Decoy listening on " ++ server.baseUrl⟩]))

def unexpectedEvents (server : Server) : List LogEvent :=
  match server.state.unexpectedRequests with
  | [] => []
  | requests => [⟨.warn, .program, toString requests.length ++ " unexpected requests:\n"
      ++ "\n".intercalate (requests.map RecordedRequest.line)⟩]

def halt (server : Server) (filter : LogFilter) : Except Failure (Server × List String) := do
  let timeouts := server.config.shutdown
  let stopped ← (server.shutdownMillis timeouts.graceMillis timeouts.timeoutMillis).mapError
    (Failure.ofServerError "Failed to shut down")
  return (stopped.server, lines filter (unexpectedEvents server ++ stopped.log))

end StubServer.Cli
