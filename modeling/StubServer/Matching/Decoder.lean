import StubServer.Json.Text
import StubServer.Basic
import StubServer.Request.Body
import StubServer.Document.Reader

namespace StubServer.Matching

open StubServer.Document

/-- A way to decode bodies, under the name by which complaints call it. -/
structure Decoder (P : Type) where
  name : String
  decode : Bytes → Outcome P

namespace Decoder

def text : Decoder String := ⟨"text", fun bytes => .returned (Text.Utf8.decodeLossy bytes)⟩

def json {P : Type} (read : Node → Except Fault P) : Decoder P :=
  ⟨"json", fun bytes => match (Json.parseBytes bytes).read read with
    | .ok payload => .returned payload
    | .error _ => .failed ""⟩

variable {P : Type}

def shown (decoder : Decoder P) : String := "BodyDecoder(" ++ Text.quoted decoder.name ++ ")"

def payload (decoder : Decoder P) (bytes : Bytes) : Except Request.BodyError P :=
  match decoder.decode bytes with
  | .returned payload => .ok payload
  | .failed reason | .panicked reason => .error (.undecodable decoder.name reason)

end Decoder

end StubServer.Matching
