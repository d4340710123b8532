namespace StubServer.Json

/-- A number is an integer that fits 64 bits, signed or not, or a finite float. -/
inductive Number where
  | int (i : Int)
  | float (x : Float)
  deriving Repr

/-- Integers are equal as numbers, floats as bit patterns; an integer never equals a float. -/
instance : BEq Number where
  beq
    | .int i, .int j => i == j
    | .float x, .float y => x == y
    | _, _ => false

/-- Objects that are read keep their fields by ascending key, each once; records are written with
their fields in their own order. -/
inductive Value where
  | null
  | bool (b : Bool)
  | number (n : Number)
  | string (s : String)
  | array (items : List Value)
  | object (fields : List (String × Value))
  deriving Repr

namespace Value

instance : Inhabited Value := ⟨.null⟩

mutual

def same : Value → Value → Bool
  | .null, .null => true
  | .bool a, .bool b => a == b
  | .number a, .number b => a == b
  | .string a, .string b => a == b
  | .array a, .array b => sameItems a b
  | .object a, .object b => sameFields a b
  | _, _ => false

def sameItems : List Value → List Value → Bool
  | [], [] => true
  | a :: as, b :: bs => same a b && sameItems as bs
  | _, _ => false

def sameFields : List (String × Value) → List (String × Value) → Bool
  | [], [] => true
  | (k, a) :: as, (l, b) :: bs => k == l && same a b && sameFields as bs
  | _, _ => false

end

instance : BEq Value := ⟨same⟩

def putField {α : Type} (key : String) (value : α) : List (String × α) → List (String × α)
  | [] => [(key, value)]
  | (k, v) :: rest =>
    if key < k then (key, value) :: (k, v) :: rest
    else if key = k then (key, value) :: rest
    else (k, v) :: putField key value rest

def ofFields (fields : List (String × Value)) : Value :=
  .object (fields.foldl (fun done (k, v) => putField k v done) [])

def field? (key : String) : Value → Option Value
  | .object fields => fields.lookup key
  | _ => none

def ofText? : Option String → Value
  | none => .null
  | some s => .string s

def ofNat (n : Nat) : Value := .number (.int n)

end Value

end StubServer.Json
