import StubServer.Config.StubDefinition
import StubServer.Json.Text
import StubServer.Request.Journal
import StubServer.Server.Timeouts
import StubServer.Yaml.Text

namespace StubServer

open Document (Node Fault Schema Dialect)

structure ShutdownConfig where
  graceMillis : Int
  timeoutMillis : Int
  deriving DecidableEq, Repr

structure ServerConfig where
  host : String
  /-- Zero asks for any free port. -/
  port : Nat
  name : String
  verbose : Bool
  journalMode : JournalMode
  shutdown : ShutdownConfig
  stubs : List StubDefinition

def JournalMode.read : Dialect → Node → Except Fault JournalMode :=
  Node.readVariant [("lean", .lean), ("full", .full)]

namespace ShutdownConfig

def blank : ShutdownConfig := ⟨500, 1000⟩

def toJson (c : ShutdownConfig) : Json.Value := .object [
  ("grace_period_ms", .number (.int c.graceMillis)), ("timeout_ms", .number (.int c.timeoutMillis))]

def schema : Schema ShutdownConfig := ⟨"ShutdownConfig", blank, [
  .optional "grace_period_ms" (Node.readInt (Node.signed 64)) fun v c => { c with graceMillis := v },
  .optional "timeout_ms" (Node.readInt (Node.signed 64)) fun v c => { c with timeoutMillis := v }]⟩

def timeouts (c : ShutdownConfig) : Except TimeoutError Timeouts :=
  Timeouts.ofMillis c.graceMillis c.timeoutMillis

end ShutdownConfig

namespace ServerConfig

def blank : ServerConfig := ⟨"127.0.0.1", 0, "decoy", false, .lean, .blank, []⟩

def toJson (c : ServerConfig) : Json.Value := .object [
  ("host", .string c.host), ("port", .ofNat c.port), ("name", .string c.name),
  ("verbose", .bool c.verbose), ("journal_mode", .string c.journalMode.name),
  ("shutdown", c.shutdown.toJson), ("stubs", .array (c.stubs.map StubDefinition.toJson))]

def schema (dialect : Dialect) : Schema ServerConfig := ⟨"ServerConfig", blank, [
  .optional "host" Node.readText fun v c => { c with host := v },
  .optional "port" (Node.readNat 16) fun v c => { c with port := v },
  .optional "name" Node.readText fun v c => { c with name := v },
  .optional "verbose" Node.readBool fun v c => { c with verbose := v },
  .optional "journal_mode" (JournalMode.read dialect) fun v c => { c with journalMode := v },
  .optional "shutdown" (ShutdownConfig.schema.read dialect) fun v c => { c with shutdown := v },
  .optional "stubs" (Node.readList (StubDefinition.read dialect)) fun v c => { c with stubs := v }]⟩

def read (dialect : Dialect) (node : Node) : Except Fault ServerConfig :=
  (schema dialect).read dialect node

def checkStubs : Nat → List StubDefinition → Except ConfigError Unit
  | _, [] => .ok ()
  | index, d :: rest =>
    match d.build 0 with
    | .ok _ => checkStubs (index + 1) rest
    | .error e => .error (.invalid ("stub #" ++ toString index ++ " (" ++ d.name.getD "unnamed"
        ++ "): " ++ e.message))

def validate (c : ServerConfig) : Except ConfigError Unit := do
  if Text.isBlankText c.host then throw (.invalid "host must not be empty")
  discard (c.shutdown.timeouts.mapError fun e => ConfigError.invalid e.message)
  checkStubs 0 c.stubs

def checked (c : ServerConfig) : Except ConfigError ServerConfig := do
  c.validate
  return c

def ofYaml (text : String) : Except ConfigError ServerConfig :=
  match (Yaml.parse text).read (read .yaml) with
  | .ok c => c.checked
  | .error _ => .error .badYaml

def ofJson (text : String) : Except ConfigError ServerConfig :=
  match (Json.parse text).read (read .jsonText) with
  | .ok c => c.checked
  | .error fault => .error (.badJson fault)

def fileName (path : List Char) : List Char :=
  let reversed := path.reverse.dropWhile (· = '/')
  (reversed.takeWhile (· != '/')).reverse

/-- What stands after the last point in the name of a file; a point at its beginning does not count. -/
def extension? (path : String) : Option String :=
  let reversed := (fileName path.toList).reverse
  let ending := reversed.takeWhile (· != '.')
  match reversed.drop ending.length with
  | '.' :: _ :: _ => some (String.ofList ending.reverse)
  | _ => none

def isJsonFile (path : String) : Bool := (extension? path).map Text.lowerAscii = some "json"

def ofFile (path : String) (content? : Option Bytes) : Except ConfigError ServerConfig :=
  match content?.bind Text.Utf8.decode? with
  | none => .error .unreadableFile
  | some text => if isJsonFile path then ofJson text else ofYaml text

end ServerConfig

end StubServer
