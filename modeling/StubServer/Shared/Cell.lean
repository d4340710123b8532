namespace StubServer

/-- A published value. Every publication has its own number, so that two of them are never taken for
each other, whatever their values. -/
structure Cell (α : Type) where
  value : α
  version : Nat
  deriving DecidableEq, Repr

namespace Cell

variable {α : Type}

def new (a : α) : Cell α := ⟨a, 0⟩

def store (cell : Cell α) (a : α) : Cell α := ⟨a, cell.version + 1⟩

def replace? (cell seen : Cell α) (a : α) : Option (Cell α) :=
  if cell.version = seen.version then some (cell.store a) else none

end Cell

/-- A change in progress: it has not begun, it works on a publication, or it is over. Its result says
whether it published anything. -/
inductive Update (α ε : Type) where
  | start
  | working (seen : Cell α)
  | finished (result : Except ε Bool)

namespace Update

variable {α ε : Type}

/-- One step of a change. `change` says what to publish in place of a value: an error, nothing, or a
new value. -/
def step (change : α → Except ε (Option α)) (cell : Cell α) : Update α ε → Cell α × Update α ε
  | .start => (cell, .working cell)
  | .working seen =>
    match change seen.value with
    | .error e => (cell, .finished (.error e))
    | .ok none => (cell, .finished (.ok false))
    | .ok (some next) =>
      match cell.replace? seen next with
      | some published => (published, .finished (.ok true))
      | none => (cell, .working cell)
  | .finished result => (cell, .finished result)

def alone (change : α → Except ε (Option α)) (cell : Cell α) : Cell α × Except ε Bool :=
  -- Nobody is faster: what the first step has seen is still there in the second.
  let (cell, update) := step change cell .start
  let (cell, update) := step change cell update
  match update with
  | .finished result => (cell, result)
  | _ => (cell, .ok false)

end Update

end StubServer
