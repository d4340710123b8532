namespace StubServer

/-- What comes of a call to code of the user, which is a predicate, a decoder, a responder or a
callback. -/
inductive Outcome (α : Type) where
  | returned (a : α)
  | failed (reason : String)
  | panicked (reason : String)
  deriving DecidableEq, Repr

def Outcome.map {α β : Type} (f : α → β) : Outcome α → Outcome β
  | .returned a => .returned (f a)
  | .failed reason => .failed reason
  | .panicked reason => .panicked reason

inductive LogLevel where
  | debug
  | info
  | warn
  | error
  deriving DecidableEq, Repr

def LogLevel.name : LogLevel → String
  | .debug => "DEBUG"
  | .info => "INFO"
  | .warn => "WARN"
  | .error => "ERROR"

inductive LogOrigin where
  | program
  | server
  | shutdown
  | handler
  | registry
  | stub
  | specification
  | definition
  | head
  | stream
  deriving DecidableEq, Repr

def LogOrigin.target : LogOrigin → String
  | .program => "decoy"
  | .server => "decoy_http::server::core"
  | .shutdown => "decoy_http::server::shutdown"
  | .handler => "decoy_http::server::handler"
  | .registry => "decoy_http::stub::registry"
  | .stub => "decoy_http::stub::core"
  | .specification => "decoy_http::request::specification"
  | .definition => "decoy_http::response::definition"
  | .head => "decoy_http::response::head"
  | .stream => "decoy_http::response::stream"

structure LogEvent where
  level : LogLevel
  origin : LogOrigin
  text : String
  deriving DecidableEq, Repr

def LogEvent.line (event : LogEvent) : String := event.level.name ++ " " ++ event.text

def LogEvent.fullLine (event : LogEvent) : String :=
  event.level.name ++ " " ++ event.origin.target ++ ": " ++ event.text

end StubServer
