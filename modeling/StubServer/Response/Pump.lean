import StubServer.Basic
import StubServer.Text.Utf8

namespace StubServer.Response

/-- What comes of asking a source for an item, and after how many milliseconds: an item, a failure with
its reason, or nothing when the source has ended. -/
structure Pull (α : Type) where
  pause : Nat
  item : Option (Except String α)

abbrev Source (α : Type) := Nat → Pull α

def Source.ofList {α : Type} (items : List α) : Source α := fun i => ⟨0, items[i]?.map .ok⟩

def Source.mapTry {α β : Type} (f : α → Except String β) (source : Source α) : Source β := fun i =>
  let pull := source i
  ⟨pull.pause, pull.item.map fun item => item >>= f⟩

/-- Items that the producer may be ahead of the reader. -/
def bufferRoom : Nat := 256

/-- How far a producer has come: it is about to ask for an item, waits for it, has one to send, or
has ended, since the source has ended or failed or since nobody wants the body any more. Items are
numbered from zero. -/
inductive Producer where
  | ready (index : Nat)
  | asking (index : Nat)
  | sending (index : Nat) (bytes : Bytes)
  | ended
  deriving DecidableEq, Repr

/-- A streamed body: its producer, how many items the producer has asked for, the buffer, whether
somebody still wants the body, and how many frames have been delivered. -/
structure Pump where
  producer : Producer
  pulled : Nat
  buffer : List Bytes
  wanted : Bool
  delivered : Nat
  deriving DecidableEq, Repr

namespace Pump

def start : Pump := ⟨.ready 0, 0, [], true, 0⟩

def goneEvent : LogEvent := ⟨.debug, .stream, "Client went away, stopping chunk producer"⟩

def failureEvent (reason : String) : LogEvent :=
  ⟨.warn, .stream, "Error while sending chunks: " ++ reason⟩

def chunkEvent (bytes : Bytes) : LogEvent :=
  ⟨.debug, .stream, "Writing chunk: " ++ Text.Utf8.decodeLossy bytes⟩

def produce (source : Source Bytes) (verbose : Bool) (pump : Pump) : Pump × List LogEvent :=
  let gone : Pump × List LogEvent := ({ pump with producer := .ended }, [goneEvent])
  match pump.producer with
  | .ready i =>
    if pump.wanted then ({ pump with producer := .asking i, pulled := pump.pulled + 1 }, []) else gone
  | .asking i =>
    if !pump.wanted then gone
    else match (source i).item with
      | some (.ok bytes) =>
        ({ pump with producer := .sending i bytes }, if verbose then [chunkEvent bytes] else [])
      | some (.error reason) => ({ pump with producer := .ended }, [failureEvent reason])
      | none => ({ pump with producer := .ended }, [])
  | .sending i bytes =>
    if !pump.wanted then gone
    else if pump.buffer.length < bufferRoom then
      ({ pump with producer := .ready (i + 1), buffer := pump.buffer ++ [bytes] }, [])
    -- The buffer is full, and the item waits.
    else (pump, [])
  | .ended => (pump, [])

inductive Reception where
  | frame (bytes : Bytes)
  | finished
  | empty

/-- Takes a frame out of the buffer. The body has ended when the buffer is empty and nobody fills it. -/
def receive (pump : Pump) : Reception × Pump :=
  match pump.buffer with
  | bytes :: rest => (.frame bytes, { pump with buffer := rest, delivered := pump.delivered + 1 })
  | [] => (if pump.producer = .ended then .finished else .empty, pump)

def drop (pump : Pump) : Pump := { pump with wanted := false, buffer := [] }

end Pump

end StubServer.Response
