import StubServer.Document.Reader
import StubServer.Json.Writer

namespace StubServer.Response

open StubServer.Document (Node Fault Schema)

structure Event where
  data : Option String
  event : Option String
  id : Option String
  retry : Option Nat
  comment : Option String
  deriving DecidableEq, Repr

inductive EventError where
  | severalLines (field : String)
  | nulInId
  deriving DecidableEq, Repr

def EventError.message : EventError → String
  | .severalLines field => "SSE " ++ field ++ " field must be a single line"
  | .nulInId => "SSE id field must not contain NUL"

namespace Event

def blank : Event := ⟨none, none, none, none, none⟩

def hasLineEnd (s : String) : Bool := s.toList.any fun c => c = '\r' || c = '\n'

def validate (e : Event) : Except EventError Unit := do
  if e.event.any hasLineEnd then throw (.severalLines "event")
  if e.id.any hasLineEnd then throw (.severalLines "id")
  if e.id.any fun id => id.toList.contains '\x00' then throw .nulInId

/-- The lines of a text; one line feed stands between two of them. -/
def lines : List Char → List (List Char)
  | [] => [[]]
  | c :: rest =>
    if c = '\n' then [] :: lines rest
    else match lines rest with
      | [] => [[c]]
      | line :: more => (c :: line) :: more

def dropReturn : List Char → List Char
  | [] => []
  | ['\r'] => []
  | c :: rest => c :: dropReturn rest

/-- The field with the given name: a line for each line of its value. -/
def fieldLines (name : String) (value : String) : List Char :=
  (lines value.toList).flatMap fun line => name.toList ++ ':' :: ' ' :: dropReturn line ++ ['\n']

def optionalLines (name : String) : Option String → List Char
  | none => []
  | some value => fieldLines name value

def encode (e : Event) : String := String.ofList <|
  optionalLines "data" e.data ++ optionalLines "event" e.event ++ optionalLines "id" e.id
    ++ optionalLines "retry" (e.retry.map toString) ++ optionalLines "" e.comment ++ ['\n']

def toJson (e : Event) : Json.Value :=
  let field (name : String) (value? : Option Json.Value) :=
    (value?.map fun v => (name, v)).toList
  .object (field "data" (e.data.map .string) ++ field "event" (e.event.map .string)
    ++ field "id" (e.id.map .string) ++ field "retry" (e.retry.map .ofNat)
    ++ field "comment" (e.comment.map .string))

def shown (e : Event) : String :=
  let text := Text.shownOption Text.quoted
  Text.shownRecord "SseEvent" [("data", text e.data), ("event", text e.event), ("id", text e.id),
    ("retry", Text.shownOption toString e.retry), ("comment", text e.comment)]

def schema : Schema Event := ⟨"SseEvent", blank, [
  .optional "data" (Node.readOption Node.readText) fun v e => { e with data := v },
  .optional "event" (Node.readOption Node.readText) fun v e => { e with event := v },
  .optional "id" (Node.readOption Node.readText) fun v e => { e with id := v },
  .optional "retry" (Node.readOption (Node.readNat 64)) fun v e => { e with retry := v },
  .optional "comment" (Node.readOption Node.readText) fun v e => { e with comment := v }]⟩

end Event

end StubServer.Response
