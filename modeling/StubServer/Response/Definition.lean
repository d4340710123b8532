import StubServer.Json.Writer
import StubServer.Response.Event
import StubServer.Response.Head
import StubServer.Response.Playback

namespace StubServer.Response

inductive ChunkSource (α : Type) where
  | list (items : List α)
  | stream (source : Source α)

namespace ChunkSource

variable {α : Type}

def pulls : ChunkSource α → Source α
  | .list items => .ofList items
  | .stream source => source

def shown (showItem : α → String) : ChunkSource α → String
  | .list items => "List(" ++ Text.shownList showItem items ++ ")"
  | .stream _ => "Stream(..)"

end ChunkSource

inductive Definition where
  | simple (head : Head) (body : Option Bytes)
  | chunked (head : Head) (chunks : ChunkSource String) (chunkDelay : Duration)
  | events (head : Head) (events : ChunkSource Event) (chunkDelay : Duration)

namespace Definition

def plainText : String := "text/plain; charset=utf-8"
def jsonText : String := "application/json"
def chunkedText : String := "text/event-stream; charset=utf-8"
def eventText : String := "text/event-stream"

def bytes (body : Option Bytes) : Definition := .simple (.ofContentType jsonText) body

def text (body : String) : Definition :=
  .simple (.ofContentType plainText) (some (Text.Utf8.encode body))

def json (value : Json.Value) : Definition := bytes (some (Text.Utf8.encode value.text))

def chunks (source : ChunkSource String) : Definition :=
  .chunked (.ofContentType chunkedText) source .zero

def eventStream (source : ChunkSource Event) : Definition :=
  .events (.ofContentType eventText) source .zero

def checked (event : Event) : Except EventError Event := do
  event.validate
  return event

def tryEvents (items : List Event) : Except EventError Definition := do
  return eventStream (.list (← items.mapM checked))

/-- A body of events that are checked one by one as they come; the first bad one ends the body. -/
def tryEventStream (source : Source Event) : Definition :=
  eventStream (.stream (source.mapTry fun event => (checked event).mapError EventError.message))

def head : Definition → Head
  | .simple head _ | .chunked head _ _ | .events head _ _ => head

def mapHead (f : Head → Head) : Definition → Definition
  | .simple head body => .simple (f head) body
  | .chunked head source delay => .chunked (f head) source delay
  | .events head source delay => .events (f head) source delay

/-- The definition with another delay between chunks; a body in one piece has none. -/
def withChunkDelay (delay : Duration) : Definition → Definition
  | .simple head body => .simple head body
  | .chunked head source _ => .chunked head source delay
  | .events head source _ => .events head source delay

def shown : Definition → String
  | .simple head body =>
    "Simple(" ++ Text.shownRecord "SimpleResponse" [("head", head.shown),
      ("body", Text.shownOption Text.quotedBytes body)] ++ ")"
  | .chunked head source delay =>
    "Stream(" ++ Text.shownRecord "StreamResponse" [("head", head.shown),
      ("chunks", source.shown Text.quoted), ("chunk_delay", delay.text)] ++ ")"
  | .events head source delay =>
    "Sse(" ++ Text.shownRecord "SseResponse" [("head", head.shown),
      ("events", source.shown Event.shown), ("chunk_delay", delay.text)] ++ ")"

end Definition

end StubServer.Response
