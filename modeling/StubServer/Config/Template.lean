import StubServer.Document.Reader
import StubServer.Http.Basic
import StubServer.Response.Definition

namespace StubServer

open Document (Node Fault Schema)
open Response (Definition Event)

structure ResponseTemplate where
  status : Nat
  headers : List (String × String)
  contentType : Option String
  body : Option Json.Value
  chunks : List String
  events : List Event
  delayMillis : Nat
  chunkDelayMillis : Nat

namespace ResponseTemplate

def blank : ResponseTemplate := ⟨200, [], none, none, [], [], 0, 0⟩

def toJson (t : ResponseTemplate) : Json.Value := .object [
  ("status", .ofNat t.status),
  ("headers", .object (t.headers.map fun (name, value) => (name, .string value))),
  ("content_type", .ofText? t.contentType),
  ("body", t.body.getD .null),
  ("chunks", .array (t.chunks.map .string)),
  ("events", .array (t.events.map Event.toJson)),
  ("delay_ms", .ofNat t.delayMillis),
  ("chunk_delay_ms", .ofNat t.chunkDelayMillis)]

def schema (dialect : Document.Dialect) : Schema ResponseTemplate := ⟨"ResponseTemplate", blank, [
  .optional "status" (Node.readNat 16) fun v t => { t with status := v },
  .optional "headers" (Node.readTable Node.readText) fun v t => { t with headers := v },
  .optional "content_type" (Node.readOption Node.readText) fun v t => { t with contentType := v },
  .optional "body" (Node.readOption Node.readValue) fun v t => { t with body := v },
  .optional "chunks" (Node.readList Node.readText) fun v t => { t with chunks := v },
  .optional "events" (Node.readList (Event.schema.read dialect)) fun v t => { t with events := v },
  .optional "delay_ms" (Node.readNat 64) fun v t => { t with delayMillis := v },
  .optional "chunk_delay_ms" (Node.readNat 64) fun v t => { t with chunkDelayMillis := v }]⟩

def checkStatus (t : ResponseTemplate) : Except ConfigError Unit :=
  if Http.isStatus t.status then .ok ()
  else .error (.invalid ("invalid status code " ++ toString t.status))

def checkShape (t : ResponseTemplate) : Except ConfigError Unit :=
  if 1 < t.body.isSome.toNat + (!t.chunks.isEmpty).toNat + (!t.events.isEmpty).toNat then
    .error (.invalid "a response may set only one of body, chunks or events")
  else .ok ()

def checkEvents : Nat → List Event → Except ConfigError Unit
  | _, [] => .ok ()
  | index, event :: rest =>
    match event.validate with
    | .ok () => checkEvents (index + 1) rest
    | .error e => .error (.invalid ("events[" ++ toString index ++ "]: " ++ e.message))

def validate (t : ResponseTemplate) : Except ConfigError Unit := do
  t.checkStatus
  t.checkShape
  checkEvents 0 t.events

def renderBody (t : ResponseTemplate) : Except ConfigError Definition :=
  if !t.events.isEmpty then
    (Definition.tryEvents t.events).mapError fun e => .invalid e.message
  else if !t.chunks.isEmpty then .ok (Definition.chunks (.list t.chunks))
  else .ok (match t.body with
    | none => Definition.bytes none
    | some (.string text) => Definition.text text
    | some value => Definition.json value)

def completeHead (t : ResponseTemplate) (head : Response.Head) : Response.Head :=
  { head with
    status := t.status
    delay := .ofMillis t.delayMillis
    contentType := t.contentType.getD head.contentType
    headers := head.headers ++ t.headers }

def render (t : ResponseTemplate) : Except ConfigError Definition := do
  t.checkStatus
  let definition ← t.renderBody
  return (definition.withChunkDelay (.ofMillis t.chunkDelayMillis)).mapHead t.completeHead

end ResponseTemplate

end StubServer
