import StubServer.Http.Basic

namespace StubServer.Http

/-- Names in lower case, in the order of their first appearance, each once and with at least one
value. -/
structure Headers where
  entries : List (String × List Bytes)
  deriving DecidableEq, Repr

namespace Headers

def empty : Headers := ⟨[]⟩

instance : EmptyCollection Headers := ⟨empty⟩

def getAll (headers : Headers) (name : String) : List Bytes := (headers.entries.lookup name).getD []

def get? (headers : Headers) (name : String) : Option Bytes := (headers.getAll name).head?

def contains (headers : Headers) (name : String) : Bool := headers.entries.any (·.1 = name)

/-- Changes the values of a name in place; a new name comes last. -/
def alter (f : List Bytes → List Bytes) (name : String) :
    List (String × List Bytes) → List (String × List Bytes)
  | [] => [(name, f [])]
  | (n, values) :: rest =>
    if n = name then (n, f values) :: rest else (n, values) :: alter f name rest

def append (headers : Headers) (name : String) (value : Bytes) : Headers :=
  ⟨alter (· ++ [value]) name headers.entries⟩

def insert (headers : Headers) (name : String) (value : Bytes) : Headers :=
  ⟨alter (fun _ => [value]) name headers.entries⟩

def complete (headers : Headers) (name : String) (value : Bytes) : Headers :=
  if headers.contains name then headers else headers.insert name value

def toList (headers : Headers) : List (String × Bytes) :=
  headers.entries.flatMap fun (name, values) => values.map ((name, ·))

def ofList (fields : List (String × Bytes)) : Headers :=
  fields.foldl (fun headers (name, value) => headers.append name value) empty

def lines (headers : Headers) : String :=
  String.join (headers.entries.map fun (name, values) =>
    name ++ ": " ++ ",".intercalate (values.map Text.Utf8.decodeLossy) ++ "\n")

end Headers

end StubServer.Http
