import StubServer.Request.Basic
import StubServer.Response.Basic

namespace StubServer.Http.Wire

def ascii (s : String) : Bytes := Text.Utf8.encode s

def lineEnd : Bytes := [13, 10]

/-- The line at the beginning and what follows it. It ends with a line feed; a carriage return before
that belongs to the end. -/
def line? : Bytes → Option (Bytes × Bytes)
  | [] => none
  | 10 :: rest => some ([], rest)
  | 13 :: 10 :: rest => some ([], rest)
  | b :: rest => (line? rest).map fun (line, more) => (b :: line, more)

def lines? : Nat → Bytes → Option (List Bytes × Bytes)
  | 0, _ => none
  | most + 1, bytes =>
    match line? bytes with
    | none => none
    | some ([], rest) => some ([], rest)
    | some (line, rest) => (lines? most rest).map fun (lines, more) => (line :: lines, more)

def trim (bytes : Bytes) : Bytes :=
  let isBlank (b : UInt8) := b == 32 || b == 9
  ((bytes.dropWhile isBlank).reverse.dropWhile isBlank).reverse

def split? (at_ : UInt8) (bytes : Bytes) : Option (Bytes × Bytes) :=
  let before := bytes.takeWhile (· != at_)
  match bytes.drop before.length with
  | [] => none
  | _ :: behind => some (before, behind)

def number? (base : Nat) (digits : Bytes) : Option Nat :=
  let digit? (b : UInt8) : Option Nat :=
    let c := Char.ofNat b.toNat
    let d := if c.isDigit then c.toNat - 48 else c.toLower.toNat - 87
    if c.isAlphanum && d < base then some d else none
  if digits.isEmpty then none
  else digits.foldlM (fun n b => (digit? b).map (base * n + ·)) 0

def version? (bytes : Bytes) : Option HttpVersion :=
  if bytes = ascii "HTTP/1.1" then some .http11
  else if bytes = ascii "HTTP/1.0" then some .http10
  else none

def requestLine? (line : Bytes) : Option (String × Uri × HttpVersion) := do
  let (method, rest) ← split? 32 line
  let (target, version) ← split? 32 rest
  return (← method? method, ← Uri.parse? target, ← version? version)

def field? (line : Bytes) : Option (String × Bytes) := do
  let (name, value) ← split? 58 line
  return (← headerName? name, ← headerValue? (trim value))

def head? (lines : List Bytes) : Option Request.Head := do
  let first :: fields := lines | none
  let (method, uri, version) ← requestLine? first
  return ⟨method, uri, version, .ofList (← fields.mapM field?)⟩

inductive Framing where
  | length (n : Nat)
  | chunked
  deriving DecidableEq, Repr

def framing? (headers : Headers) : Option Framing :=
  match headers.getAll "transfer-encoding", headers.getAll "content-length" with
  | [], [] => some (.length 0)
  | [], value :: others =>
    if others.all (· = value) then (number? 10 value).map .length else none
  | [coding], [] => if Text.lowerAscii (asciiText coding) = "chunked" then some .chunked else none
  | _, _ => none

inductive Reading (α : Type) where
  | complete (a : α) (rest : Bytes)
  | incomplete
  | malformed

def readExactly (n : Nat) (bytes : Bytes) : Reading Bytes :=
  if n ≤ bytes.length then .complete (bytes.take n) (bytes.drop n) else .incomplete

/-- A body in chunks, at most `most` of them. Each is preceded by its length; the last is empty, and
trailing fields may follow it. -/
def readChunks : Nat → Bytes → Bytes → Reading Bytes
  | 0, _, _ => .malformed
  | most + 1, soFar, bytes =>
    match line? bytes with
    | none => .incomplete
    | some (line, rest) =>
      -- What follows a semicolon says nothing of the length.
      match number? 16 (trim (line.takeWhile (· != 59))) with
      | none => .malformed
      | some 0 =>
        match lines? (rest.length + 1) rest with
        | some (_, rest) => .complete soFar rest
        | none => .incomplete
      | some n =>
        if rest.length < n + 2 then .incomplete
        else match line? (rest.drop n) with
          | some ([], more) => readChunks most (soFar ++ rest.take n) more
          | _ => .malformed

def readBody (headers : Headers) (bytes : Bytes) : Reading Bytes :=
  match framing? headers with
  | none => .malformed
  | some (.length n) => readExactly n bytes
  | some .chunked => readChunks (bytes.length + 1) [] bytes

def headLimit : Nat := 1 <<< 16

def readRequest (bytes : Bytes) : Reading Request :=
  -- Empty lines before a request are passed over.
  let bytes := bytes.dropWhile fun b => b == 13 || b == 10
  match lines? (bytes.length + 1) bytes with
  | none => if headLimit < bytes.length then .malformed else .incomplete
  | some (lines, rest) =>
    match head? lines with
    | none => .malformed
    | some head =>
      match readBody head.headers rest with
      | .complete body rest =>
        .complete ⟨head, .ofFrames (if body.isEmpty then [] else [⟨0, .data body⟩])⟩ rest
      | .incomplete => .incomplete
      | .malformed => .malformed

def isPersistent (head : Request.Head) : Bool :=
  let wish := (head.header? "connection").map Text.lowerAscii
  match head.version with
  | .http10 => wish = some "keep-alive"
  | _ => wish != some "close"

def allowsBody (status : Nat) : Bool := 200 ≤ status && status != 204 && status != 304

def framed (response : Response) : Headers :=
  if !allowsBody response.status || response.headers.contains "content-length" then response.headers
  else match response.body with
    | .full bytes => response.headers.insert "content-length" (ascii (toString bytes.length))
    | .streamed _ => response.headers.insert "transfer-encoding" (ascii "chunked")

def writeHead (response : Response) : Bytes :=
  ascii ("HTTP/1.1 " ++ toString response.status ++ " " ++ reason response.status) ++ lineEnd
    ++ ((framed response).toList.flatMap fun (name, value) => ascii (name ++ ": ") ++ value ++ lineEnd)
    ++ lineEnd

def writesBody (method : String) (response : Response) : Bool :=
  method != "HEAD" && allowsBody response.status

def isChunked (response : Response) : Bool := (framed response).contains "transfer-encoding"

/-- A frame of a body as bytes. An empty chunk would end the body and is left out. -/
def writeFrame (response : Response) (bytes : Bytes) : Bytes :=
  if isChunked response then
    if bytes.isEmpty then []
    else ascii (String.ofList (Nat.toDigits 16 bytes.length)) ++ lineEnd ++ bytes ++ lineEnd
  else bytes

def writeEnd (response : Response) : Bytes :=
  if isChunked response then ascii "0" ++ lineEnd ++ lineEnd else []

def badRequest : Bytes :=
  ascii "HTTP/1.1 400 Bad Request" ++ lineEnd ++ ascii "connection: close" ++ lineEnd
    ++ ascii "content-length: 0" ++ lineEnd ++ lineEnd

end StubServer.Http.Wire
