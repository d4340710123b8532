import StubServer.Document.Scalar
import StubServer.Json.Value

namespace StubServer.Document

/-- Where the tree came from. Readers differ in what they make of surplus elements and of names of
variants. -/
inductive Dialect where
  | jsonText
  | jsonValue
  | yaml
  deriving DecidableEq, Repr

namespace Node

def readText : Node → Except Fault String
  | .text s => .ok s
  | .scalar s => .ok s.text
  | node => .error (node.wrongType "a string")

def readBool (node : Node) : Except Fault Bool :=
  match node with
  | .bool b => .ok b
  | .scalar s =>
    match if s.looks "bool" then Scalar.boolText? s.text else none with
    | some b => .ok b
    | none => .error (node.wrongType "a boolean")
  | _ => .error (node.wrongType "a boolean")

structure IntType where
  name : String
  low : Int
  high : Int

def unsigned (bits : Nat) : IntType := ⟨"u" ++ toString bits, 0, (1 <<< bits - 1 : Nat)⟩

def signed (bits : Nat) : IntType :=
  ⟨"i" ++ toString bits, -(1 <<< (bits - 1) : Nat), (1 <<< (bits - 1) - 1 : Nat)⟩

def readInt (type : IntType) (node : Node) : Except Fault Int :=
  let inRange (i : Int) : Except Fault Int :=
    if type.low ≤ i ∧ i ≤ type.high then .ok i
    else .error (.mismatch (.wrongValue ("integer " ++ ticked (toString i)) type.name))
  match node with
  | .int i => inRange i
  | .scalar s =>
    let cs := s.text.toList
    let i? := if !s.looks "int" then none
      else if type.low = 0 then (Scalar.natural? cs).map Int.ofNat else Scalar.integer? cs
    match i? with
    | some i => inRange i
    | none => .error (node.wrongType type.name)
  | _ => .error (node.wrongType type.name)

def readNat (bits : Nat) (node : Node) : Except Fault Nat := (node.readInt (unsigned bits)).map Int.toNat

def readOption {α : Type} (read : Node → Except Fault α) (node : Node) : Except Fault (Option α) :=
  match node with
  | .null => .ok none
  | .scalar s =>
    if s.style ≠ .plain then (read node).map some
    else if s.tag = some (coreTag "null") then
      if Scalar.isNullText s.text then .ok none else .error (s.badTag "null")
    else if s.tag.isSome then (read node).map some
    else if s.isEmpty ∨ Scalar.isNullText s.text then .ok none
    else (read node).map some
  | _ => (read node).map some

def checkClosed (frame : Frame) : Except Fault Unit :=
  if frame.closed then .ok () else .error .illFormed

def checkDepth (frame : Frame) : Except Fault Unit :=
  if frame.tooDeep then .error .illFormed else .ok ()

/-- A list. Nothing at all is an empty one. -/
def readList {α : Type} (read : Node → Except Fault α) (node : Node) : Except Fault (List α) :=
  match node with
  | .list items frame => do
    checkDepth frame
    let values ← items.mapM read
    checkClosed frame
    return values
  | .scalar s => if s.isEmpty then .ok [] else .error (node.wrongType "a sequence")
  | _ => .error (node.wrongType "a sequence")

def readTable {α : Type} (read : Node → Except Fault α) (node : Node) :
    Except Fault (List (String × α)) :=
  match node with
  | .table entries frame => do
    checkDepth frame
    let fields ← entries.foldlM (fun fields (key, value) => do
      let key ← key.readText
      return Json.Value.putField key (← read value) fields) []
    checkClosed frame
    return fields
  | .scalar s => if s.isEmpty then .ok [] else .error (node.wrongType "a map")
  | _ => .error (node.wrongType "a map")

mutual

def readValue : Node → Except Fault Json.Value
  | .null => .ok .null
  | .bool b => .ok (.bool b)
  | .int i => .ok (.number (.int i))
  | .float x => .ok (if x.isFinite then .number (.float x) else .null)
  | .text s => .ok (.string s)
  | .scalar s => match s.resolve with
    | .ok .null => .ok .null
    | .ok (.bool b) => .ok (.bool b)
    | .ok (.int i) => .ok (.number (.int i))
    | .ok (.float x) => .ok (if x.isFinite then .number (.float x) else .null)
    | .ok (.text t) => .ok (.string t)
    | .ok _ => .ok .null
    | .error e => .error e
  | .list items frame => do
    checkDepth frame
    if Scalar.isLocalTag frame.tag then throw (.mismatch (.wrongType "enum" "any value"))
    let values ← readValues items
    checkClosed frame
    return .array values
  | .table entries frame => do
    checkDepth frame
    if Scalar.isLocalTag frame.tag then throw (.mismatch (.wrongType "enum" "any value"))
    let fields ← readFields entries
    checkClosed frame
    return .ofFields fields
  | .unreadable => .error .illFormed
  | .broken => .error .illFormed

def readValues : List Node → Except Fault (List Json.Value)
  | [] => .ok []
  | node :: rest => do
    let value ← readValue node
    return value :: (← readValues rest)

def readFields : List (Node × Node) → Except Fault (List (String × Json.Value))
  | [] => .ok []
  | (key, node) :: rest => do
    let key ← key.readText
    let value ← readValue node
    return (key, value) :: (← readFields rest)

end

mutual

/-- The tree with every scalar resolved, as it is kept when several readings are to be tried. -/
def resolved : Node → Except Fault Node
  | .scalar s => s.resolve
  | .list items frame => do
    checkDepth frame
    if Scalar.isLocalTag frame.tag then throw (.mismatch (.wrongType "enum" "any value"))
    let items ← allResolved items
    checkClosed frame
    return .list items .whole
  | .table entries frame => do
    checkDepth frame
    if Scalar.isLocalTag frame.tag then throw (.mismatch (.wrongType "enum" "any value"))
    let entries ← entriesResolved entries
    checkClosed frame
    return .table entries .whole
  | .unreadable => .error .illFormed
  | .broken => .error .illFormed
  | node => .ok node

def allResolved : List Node → Except Fault (List Node)
  | [] => .ok []
  | node :: rest => do
    let node ← resolved node
    return node :: (← allResolved rest)

def entriesResolved : List (Node × Node) → Except Fault (List (Node × Node))
  | [] => .ok []
  | (key, value) :: rest => do
    let key ← resolved key
    let value ← resolved value
    return (key, value) :: (← entriesResolved rest)

end

mutual

def ofValue : Json.Value → Node
  | .null => .null
  | .bool b => .bool b
  | .number (.int i) => .int i
  | .number (.float x) => .float x
  | .string s => .text s
  | .array items => .list (ofValues items) .whole
  | .object fields => .table (ofFields fields) .whole

def ofValues : List Json.Value → List Node
  | [] => []
  | v :: rest => ofValue v :: ofValues rest

def ofFields : List (String × Json.Value) → List (Node × Node)
  | [] => []
  | (key, v) :: rest => (.text key, ofValue v) :: ofFields rest

end

end Node

def Node.readNull (node : Node) : Except Fault Unit :=
  match node with
  | .null => .ok ()
  | .scalar s => if s.isEmpty ∨ Scalar.isNullText s.text then .ok () else .error (node.wrongType "unit")
  | _ => .error (node.wrongType "unit")

def variantNamed {α : Type} (known : List (String × α)) (name : String) : Except Fault α :=
  match known.lookup name with
  | some a => .ok a
  | none => .error (.mismatch (.unknownVariant name (known.map (·.1))))

def Node.readVariant {α : Type} (known : List (String × α)) (dialect : Dialect) (node : Node) :
    Except Fault α :=
  match dialect, node with
  | .yaml, .scalar s =>
    match s.tag with
    | some tag =>
      if Scalar.isLocalTag (some tag) then do
        let a ← variantNamed known (String.ofList (tag.toList.drop 1))
        ({ s with tag := none } : Scalar) |> Node.scalar |>.readNull
        return a
      else variantNamed known s.text
    | none => variantNamed known s.text
  | _, .text s => variantNamed known s
  | .jsonText, .table [(key, content)] frame => do
    Node.checkDepth frame
    let a ← variantNamed known (← key.readText)
    content.readNull
    Node.checkClosed frame
    return a
  | .jsonValue, .table [(key, content)] _ => do
    let a ← variantNamed known (← key.readText)
    content.readNull
    return a
  | .jsonValue, .table .. =>
    .error (.mismatch (.wrongValue "map" "map with a single key"))
  | .jsonValue, node => .error (node.wrongType "string or map")
  | _, _ => .error .illFormed

structure Field (ρ : Type) where
  name : String
  required : Bool
  read : Node → ρ → Except Fault ρ

def Field.optional {ρ α : Type} (name : String) (read : Node → Except Fault α) (set : α → ρ → ρ) :
    Field ρ :=
  ⟨name, false, fun node record => (set · record) <$> read node⟩

def Field.needed {ρ α : Type} (name : String) (read : Node → Except Fault α) (set : α → ρ → ρ) :
    Field ρ :=
  { Field.optional name read set with required := true }

/-- A record type: its name, its fields in order, and the record in which nothing is given. -/
structure Schema (ρ : Type) where
  label : String
  blank : ρ
  fields : List (Field ρ)

namespace Schema

variable {ρ : Type}

def expected (schema : Schema ρ) : String := "struct " ++ schema.label

def expectedSize (schema : Schema ρ) : String :=
  let n := schema.fields.length
  schema.expected ++ " with " ++ toString n ++ (if n = 1 then " element" else " elements")

structure Draft (ρ : Type) where
  record : ρ
  given : List String

def readEntry (schema : Schema ρ) (draft : Draft ρ) (entry : Node × Node) :
    Except Fault (Draft ρ) := do
  let name ← entry.1.readText
  match schema.fields.find? (·.name = name) with
  | some field =>
    if draft.given.contains name then throw (.mismatch (.duplicateField name))
    return ⟨← field.read entry.2 draft.record, name :: draft.given⟩
  | none =>
    entry.2.skip
    return draft

def complete (schema : Schema ρ) (draft : Draft ρ) : Except Fault ρ :=
  match schema.fields.find? fun field => field.required && !draft.given.contains field.name with
  | some field => .error (.mismatch (.missingField field.name))
  | none => .ok draft.record

def readElements (schema : Schema ρ) (closed : Bool) :
    Nat → List (Field ρ) → List Node → ρ → Except Fault (ρ × List Node)
  | _, [], items, record => .ok (record, items)
  | index, field :: fields, item :: items, record => do
    let record ← field.read item record
    readElements schema closed (index + 1) fields items record
  | index, field :: fields, [], record =>
    if !closed then .error .illFormed
    else if field.required then .error (.mismatch (.wrongLength index schema.expectedSize))
    else readElements schema closed (index + 1) fields [] record

def read (schema : Schema ρ) (dialect : Dialect) (node : Node) : Except Fault ρ :=
  match node with
  | .table entries frame => do
    Node.checkDepth frame
    let draft ← entries.foldlM schema.readEntry ⟨schema.blank, []⟩
    Node.checkClosed frame
    schema.complete draft
  | .list items frame =>
    if dialect = .yaml then .error (node.wrongType schema.expected)
    else do
      Node.checkDepth frame
      let (record, surplus) ← schema.readElements frame.closed 0 schema.fields items schema.blank
      if !surplus.isEmpty then
        throw (if dialect = .jsonValue then
          .mismatch (.wrongLength items.length "fewer elements in array") else .illFormed)
      Node.checkClosed frame
      return record
  | .scalar s =>
    if s.isEmpty then schema.complete ⟨schema.blank, []⟩ else .error (node.wrongType schema.expected)
  | _ => .error (node.wrongType schema.expected)

end Schema

def Source.read {α : Type} (read : Node → Except Fault α) (source : Source) : Except Fault α := do
  let value ← read source.root
  if source.trailing then throw .illFormed
  return value

end StubServer.Document
