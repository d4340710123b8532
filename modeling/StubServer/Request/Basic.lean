import StubServer.Http.Headers
import StubServer.Http.Uri
import StubServer.Request.Body

namespace StubServer

inductive HttpVersion where
  | http09
  | http10
  | http11
  | http2
  | http3
  deriving DecidableEq, Repr

def HttpVersion.text : HttpVersion → String
  | .http09 => "HTTP/0.9"
  | .http10 => "HTTP/1.0"
  | .http11 => "HTTP/1.1"
  | .http2 => "HTTP/2.0"
  | .http3 => "HTTP/3.0"

namespace Request

structure Head where
  method : String
  uri : Http.Uri
  version : HttpVersion
  headers : Http.Headers
  deriving DecidableEq, Repr

namespace Head

def path (head : Head) : String := head.uri.path

def header? (head : Head) (name : String) : Option String := do
  Http.visibleText? (← head.headers.get? (← Http.headerNamed? name))

end Head

end Request

structure Request where
  head : Request.Head
  body : Request.Body
  deriving DecidableEq, Repr

namespace Request

def bodyParagraph (body? : Option Bytes) : String :=
  match body? with
  | none | some [] => ""
  | some bytes => "\n" ++ Text.Utf8.decodeLossy bytes ++ "\n"

def format (request : Request) : String :=
  let head := request.head
  head.method ++ " " ++ head.uri.text ++ " " ++ head.version.text ++ "\n" ++ head.headers.lines
    ++ bodyParagraph request.body.cached

def shown (request : Request) : String :=
  "CapturedRequest \x7b method: " ++ request.head.method ++ ", uri: " ++ request.head.uri.text
    ++ ", body_cached: " ++ (if request.body.cached.isSome then "true" else "false") ++ " \x7d"

/-- The text of a body; an empty body has none. -/
def bodyText? (bytes : Bytes) : Option String :=
  if bytes.isEmpty then none else some (Text.Utf8.decodeLossy bytes)

end Request

end StubServer
