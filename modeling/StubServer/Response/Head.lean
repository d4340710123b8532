import StubServer.Clock.Duration
import StubServer.Http.Headers
import StubServer.Basic
import StubServer.Text.Quoted

namespace StubServer.Response

open StubServer.Http

abbrev HeaderEdit := Headers → Outcome Headers

structure Head where
  status : Nat
  /-- Used when no other content type is set. -/
  contentType : String
  headers : List (String × String)
  edit : Option HeaderEdit
  delay : Duration

namespace Head

def ofContentType (contentType : String) : Head := ⟨200, contentType, [], none, .zero⟩

def contentTypeName : String := "content-type"

def appendField (state : Headers × List LogEvent) (field : String × String) :
    Headers × List LogEvent :=
  match headerNamed? field.1, headerValued? field.2 with
  | some name, some value => (state.1.append name value, state.2)
  | _, _ => (state.1,
      state.2 ++ [⟨.warn, .head, "Skipping invalid response header " ++ field.1 ++ ": " ++ field.2⟩])

def completeContentType (contentType : String) (state : Headers × List LogEvent) :
    Headers × List LogEvent :=
  if state.1.contains contentTypeName then state
  else match headerValued? contentType with
    | some value => (state.1.insert contentTypeName value, state.2)
    | none => (state.1, state.2 ++ [⟨.warn, .head, "Skipping invalid content type " ++ contentType⟩])

def extend (head : Head) (headers : Headers) : Headers × List LogEvent :=
  completeContentType head.contentType (head.headers.foldl appendField (headers, []))

/-- The headers of the response: what the callback makes, then the list, then the content type. -/
def apply (head : Head) : Outcome Headers × List LogEvent :=
  match (head.edit.map (· ∅)).getD (.returned ∅) with
  | .returned headers =>
    let (headers, log) := head.extend headers
    (.returned headers, log)
  | other => (other, [])

def shown (head : Head) : String :=
  let pair (field : String × String) :=
    "(" ++ Text.quoted field.1 ++ ", " ++ Text.quoted field.2 ++ ")"
  Text.shownRecord "ResponseHead" [("status", toString head.status),
    ("content_type", Text.quoted head.contentType), ("headers", Text.shownList pair head.headers),
    ("headers_fn", Text.shownBool head.edit.isSome), ("delay", head.delay.text)]

end Head

end StubServer.Response
