import StubServer.Http.Basic
import StubServer.Request.Basic
import StubServer.Response.Definition

namespace StubServer

namespace Response

inductive Body where
  | full (bytes : Bytes)
  | streamed (feed : Feed)

def format (status : Nat) (headers : Http.Headers) (body? : Option Bytes) : String :=
  "HTTP/1.1 " ++ toString status ++ " " ++ Http.reason status ++ "\n" ++ headers.lines
    ++ Request.bodyParagraph body?

end Response

structure Response where
  status : Nat
  headers : Http.Headers
  body : Response.Body

namespace Response

/-- A response made from a definition: how many milliseconds pass until its head is ready, the response
unless a callback panicked, the events, and the body that was begun in vain if there is one. -/
structure Rendering where
  delay : Nat
  outcome : Outcome Response
  log : List LogEvent
  abandoned : Option Feed

namespace Definition

def chunkedHeaders (headers : Http.Headers) : Http.Headers :=
  headers.complete "cache-control" (Text.Utf8.encode "no-cache")

def eventHeaders (headers : Http.Headers) : Http.Headers :=
  ((headers.complete "cache-control" (Text.Utf8.encode "no-store")).complete
    "connection" (Text.Utf8.encode "keep-alive")).complete
    "x-accel-buffering" (Text.Utf8.encode "no")

def sendingEvent (verbose : Bool) (what : String) (status : Nat) (headers : Http.Headers)
    (body? : Option Bytes) : List LogEvent :=
  if verbose then
    [⟨.debug, .definition, "Sending " ++ what ++ ":\n---\n" ++ format status headers body? ++ "---"⟩]
  else []

def renderSimple (verbose : Bool) (head : Head) (body : Option Bytes) : Rendering :=
  let bytes := body.getD []
  match head.apply with
  | (.returned headers, log) =>
    ⟨head.delay.millis, .returned ⟨head.status, headers, .full bytes⟩,
      log ++ sendingEvent verbose "response" head.status headers (some bytes), none⟩
  | (.failed reason, log) => ⟨head.delay.millis, .failed reason, log, none⟩
  | (.panicked reason, log) => ⟨head.delay.millis, .panicked reason, log, none⟩

def renderStreamed (verbose : Bool) (what : String) (complete : Http.Headers → Http.Headers)
    (head : Head) (source : Source Bytes) (chunkDelay : Duration) : Rendering :=
  let feed : Feed := ⟨source, head.delay, chunkDelay, verbose⟩
  match head.apply with
  | (.returned headers, log) =>
    let headers := complete headers
    ⟨0, .returned ⟨head.status, headers, .streamed feed⟩,
      log ++ sendingEvent verbose what head.status headers none, none⟩
  | (.failed reason, log) => ⟨0, .failed reason, log, some feed⟩
  | (.panicked reason, log) => ⟨0, .panicked reason, log, some feed⟩

def render (verbose : Bool) : Definition → Rendering
  | .simple head body => renderSimple verbose head body
  | .chunked head source delay =>
    renderStreamed verbose "stream response" chunkedHeaders head
      (source.pulls.mapTry fun chunk => .ok (Text.Utf8.encode chunk)) delay
  | .events head source delay =>
    renderStreamed verbose "SSE response" eventHeaders head
      (source.pulls.mapTry fun event => .ok (Text.Utf8.encode event.encode)) delay

end Definition

def plain (status : Nat) (headers : List (String × String)) (body : Option String) : Response :=
  let fields := headers.foldl (fun (fields : Http.Headers) (name, value) =>
    match Http.headerNamed? name, Http.headerValued? value with
    | some name, some value => fields.insert name value
    | _, _ => fields) ∅
  ⟨status, fields.complete Head.contentTypeName (Text.Utf8.encode Definition.plainText),
    .full (Text.Utf8.encode (body.getD ""))⟩

/-- A response as its reader saw it, in milliseconds: when the head was ready, when each frame arrived,
and when the end was seen, if it was. -/
structure Transcript where
  status : Nat
  headers : Http.Headers
  headAt : Nat
  frames : List (Nat × Bytes)
  endAt : Option Nat

structure ReadOut where
  transcript : Transcript
  log : List (Nat × LogEvent)
  pulled : Nat

def linger : Nat := 50

def abandonedLog (now : Nat) : Option Feed → List (Nat × LogEvent)
  | none => []
  | some feed => ((Playback.start now).drop.sleepUntil feed now).log

/-- Reads a response whose head is ready at `now`: after a while to settle, at most `most` frames. A
body that has not ended by then is given up. -/
def readOut (response : Response) (now settle most : Nat) : ReadOut :=
  let headAt := now + settle
  let transcript := Transcript.mk response.status response.headers headAt
  match response.body with
  | .full bytes =>
    let frames := if bytes.isEmpty then [] else [(headAt, bytes)]
    ⟨transcript (frames.take most) (if frames.length < most then some headAt else none), [], 0⟩
  | .streamed feed =>
    let p := Playback.start now
    let p := if settle = 0 then p else p.sleepUntil feed headAt
    let (frames, endAt, p) := p.read feed most 0
    let p := p.drop.sleepUntil feed (p.now + linger)
    ⟨transcript frames endAt, p.log, p.pump.pulled⟩

end Response

end StubServer
