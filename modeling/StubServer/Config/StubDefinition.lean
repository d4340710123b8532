import StubServer.Config.Template
import StubServer.Matching.Build
import StubServer.Stub.Basic

namespace StubServer

open Document (Node Fault Schema Dialect)
open Matching

inductive PathDefinition where
  | exact (path : String)
  | matching (m : StringMatcher)
  deriving DecidableEq, Repr

inductive HeaderDefinition where
  | exact (name value : String)
  | matching (name : String) (m : StringMatcher)
  deriving DecidableEq, Repr

structure RequestDefinition where
  method : Option String
  path : Option PathDefinition
  headers : List HeaderDefinition
  body : List StringMatcher
  caseSensitive : Bool
  deriving DecidableEq, Repr

structure StubDefinition where
  name : Option String
  priority : Option Int
  removeAfterMatch : Bool
  verbose : Bool
  request : RequestDefinition
  response : ResponseTemplate

namespace PathDefinition

def toJson : PathDefinition → Json.Value
  | .exact path => .string path
  | .matching m => m.toJson

def read (node : Node) : Except Fault PathDefinition := do
  let node ← node.resolved
  match node with
  | .text path => return .exact path
  | _ =>
    match StringMatcher.read node with
    | .ok m => return .matching m
    | .error _ => throw (.mismatch (.noVariant "PathDefinition"))

end PathDefinition

namespace HeaderDefinition

def toJson : HeaderDefinition → Json.Value
  | .exact name value => .object [("name", .string name), ("value", .string value)]
  | .matching name m => .object [("name", .string name), (m.operator, m.operand)]

/-- The fields `name` and `value` by name or by number; nothing for others, an error for keys that
name no field at all. -/
def fieldName : Node → Option (Option String)
  | .text "name" | .int 0 => some (some "name")
  | .text "value" | .int 1 => some (some "value")
  | .text _ => some none
  | .int i => if 0 ≤ i then some none else none
  | _ => none

/-- Reads a name and a value. Other fields are passed over. -/
def readExact (name value : Option String) : List (Node × Node) → Option HeaderDefinition
  | [] => do return .exact (← name) (← value)
  | (key, node) :: rest => do
    match ← fieldName key, node with
    | some "name", .text s => if name.isSome then none else readExact (some s) value rest
    | some "value", .text s => if value.isSome then none else readExact name (some s) rest
    | some _, _ => none
    | none, _ => readExact name value rest

def splitName (name : Option String) (others : List (Node × Node)) :
    List (Node × Node) → Option (String × List (Node × Node))
  | [] => do return (← name, others.reverse)
  | (.text "name", .text s) :: rest => if name.isSome then none else splitName (some s) others rest
  | (.text "name", _) :: _ => none
  | entry :: rest => splitName name (entry :: others) rest

def readMatching (entries : List (Node × Node)) : Option HeaderDefinition := do
  let (name, others) ← splitName none [] entries
  return .matching name (← (StringMatcher.readEntries true others).toOption)

def read (node : Node) : Except Fault HeaderDefinition := do
  let found := match ← node.resolved with
    | .table entries _ => readExact none none entries <|> readMatching entries
    | _ => none
  match found with
  | some header => return header
  | none => throw (.mismatch (.noVariant "HeaderDefinition"))

end HeaderDefinition

namespace RequestDefinition

def blank : RequestDefinition := ⟨none, none, [], [], true⟩

def toJson (r : RequestDefinition) : Json.Value := .object [
  ("method", .ofText? r.method),
  ("path", (r.path.map PathDefinition.toJson).getD .null),
  ("headers", .array (r.headers.map HeaderDefinition.toJson)),
  ("body", .array (r.body.map StringMatcher.toJson)),
  ("case_sensitive", .bool r.caseSensitive)]

def schema : Schema RequestDefinition := ⟨"RequestDefinition", blank, [
  .optional "method" (Node.readOption Node.readText) fun v r => { r with method := v },
  .optional "path" (Node.readOption PathDefinition.read) fun v r => { r with path := v },
  .optional "headers" (Node.readList HeaderDefinition.read) fun v r => { r with headers := v },
  .optional "body" (Node.readList StringMatcher.read) fun v r => { r with body := v },
  .optional "case_sensitive" Node.readBool fun v r => { r with caseSensitive := v }]⟩

def methodCriterion (r : RequestDefinition) : Except ConfigError (List (Criterion String)) :=
  match r.method with
  | none => .ok []
  | some method =>
    match Http.method? (Text.Utf8.encode (Text.upperAscii method)) with
    | some m => .ok [.method (methodIs m)]
    | none => .error (.invalid ("invalid method " ++ Text.quoted method))

def pathCriterion (r : RequestDefinition) : Except ConfigError (List (Criterion String)) :=
  match r.path with
  | none => .ok []
  | some (.exact path) => .ok [.path (pathIs path)]
  | some (.matching m) => do return [.path (← pathMatching m r.caseSensitive)]

def headerCriterion (caseSensitive : Bool) : HeaderDefinition →
    Except ConfigError (Criterion String)
  | .exact name value =>
    match Http.headerNamed? name with
    | some header => .ok (.header (headerIs header value))
    | none => .error (.invalid ("header " ++ Text.quoted name ++ ": " ++ badHeaderName))
  | .matching name m => .header <$> headerMatching name m caseSensitive

def criteria (r : RequestDefinition) : Except ConfigError (List (Criterion String)) := do
  let method ← r.methodCriterion
  let path ← r.pathCriterion
  let headers ← r.headers.mapM (headerCriterion r.caseSensitive)
  let body ← r.body.mapM fun m => Criterion.bodyText <$> bodyMatching m r.caseSensitive
  return method ++ path ++ headers ++ body

end RequestDefinition

namespace StubDefinition

def blank : StubDefinition := ⟨none, none, false, false, .blank, .blank⟩

def toJson (d : StubDefinition) : Json.Value := .object [
  ("name", .ofText? d.name),
  ("priority", (d.priority.map fun i => Json.Value.number (.int i)).getD .null),
  ("remove_after_match", .bool d.removeAfterMatch),
  ("verbose", .bool d.verbose),
  ("request", d.request.toJson),
  ("response", d.response.toJson)]

def schema (dialect : Dialect) : Schema StubDefinition := ⟨"StubDefinition", blank, [
  .optional "name" (Node.readOption Node.readText) fun v d => { d with name := v },
  .optional "priority" (Node.readOption (Node.readInt (Node.signed 32))) fun v d =>
    { d with priority := v },
  .optional "remove_after_match" Node.readBool fun v d => { d with removeAfterMatch := v },
  .optional "verbose" Node.readBool fun v d => { d with verbose := v },
  .optional "request" (RequestDefinition.schema.read dialect) fun v d => { d with request := v },
  .optional "response" ((ResponseTemplate.schema dialect).read dialect) fun v d =>
    { d with response := v }]⟩

def read (dialect : Dialect) (node : Node) : Except Fault StubDefinition :=
  (schema dialect).read dialect node

def configuration (d : StubDefinition) : StubConfiguration :=
  ⟨d.name, d.removeAfterMatch, d.verbose⟩

def specification (d : StubDefinition) : Except ConfigError (Specification String) := do
  let criteria ← d.request.criteria
  return .ofCriteria .text (criteria ++ (d.priority.map Criterion.priority).toList)

def responder (d : StubDefinition) : Responder := fun _ => .done <|
  match d.response.render with
  | .ok definition => .returned definition
  | .error e => .failed e.message

def build (d : StubDefinition) (created : Nat) : Except ConfigError Stub := do
  let spec ← d.specification
  d.response.validate
  return ⟨d.configuration, spec.erase, d.responder, created⟩

end StubDefinition

end StubServer
