import StubServer.Clock.Timestamp
import StubServer.Document.Reader
import StubServer.Json.Writer
import StubServer.Request.Basic

namespace StubServer

open Document (Node Fault Schema)

/-- A request as journals keep it. The headers are sorted by name; each has all of its values. -/
structure RecordedRequest where
  method : String
  uri : String
  headers : List (String × List String)
  timestamp : Timestamp
  deriving DecidableEq, Repr

namespace RecordedRequest

def ofHead (now : Timestamp) (head : Request.Head) : RecordedRequest where
  method := head.method
  uri := head.uri.text
  headers := head.headers.entries.foldl (fun done (name, values) =>
    Json.Value.putField name (values.map Text.Utf8.decodeLossy) done) []
  timestamp := now

def header? (r : RecordedRequest) (name : String) : Option String := do
  (← r.headers.lookup (Text.lowerAscii name)).head?

def line (r : RecordedRequest) : String := r.method ++ " " ++ r.uri

def headersJson (r : RecordedRequest) : Json.Value :=
  .object (r.headers.map fun (name, values) => (name, .array (values.map .string)))

def toJson (r : RecordedRequest) : Json.Value := .object [
  ("method", .string r.method), ("uri", .string r.uri), ("headers", r.headersJson),
  ("timestamp", .string r.timestamp.text)]

def readTimestamp (node : Node) : Except Fault Timestamp :=
  let parse (s : String) : Except Fault Timestamp :=
    (Timestamp.parse s).mapError fun p => .mismatch (.badTimestamp p.message)
  match node with
  | .text s => parse s
  | .scalar s => parse s.text
  | _ => .error (node.wrongType "an RFC 3339 formatted date and time string")

def schema : Schema RecordedRequest := ⟨"RecordedRequest", ⟨"", "", [], ⟨0, 0⟩⟩, [
  .needed "method" Node.readText fun v r => { r with method := v },
  .needed "uri" Node.readText fun v r => { r with uri := v },
  .needed "headers" (Node.readTable (Node.readList Node.readText)) fun v r => { r with headers := v },
  .needed "timestamp" readTimestamp fun v r => { r with timestamp := v }]⟩

end RecordedRequest

end StubServer
