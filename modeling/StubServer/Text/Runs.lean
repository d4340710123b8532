namespace StubServer.Text

structure Run where
  kind : String
  first : Nat
  last : Nat
  deriving DecidableEq, Repr

def closeRun (kind digits : List Char) (first : Nat) : Run :=
  let length := if digits.isEmpty then 1 else (String.ofList digits.reverse).toNat?.getD 1
  ⟨String.ofList kind.reverse, first, first + length - 1⟩

def readRunsFrom (kind digits : List Char) (first : Nat) : List Char → List Run
  | [] => if kind.isEmpty then [] else [closeRun kind digits first]
  | c :: rest =>
    if c.isDigit then readRunsFrom kind (c :: digits) first rest
    else if c.isUpper && !kind.isEmpty then
      let run := closeRun kind digits first
      run :: readRunsFrom [c] [] (run.last + 1) rest
    else readRunsFrom (c :: kind) digits first rest

/-- Reads a table, given in lines: the kinds in order, each followed by the length of its run if
that is more than one. Every kind begins with a capital letter. -/
def readRuns (lines : List String) : List Run := readRunsFrom [] [] 0 (lines.flatMap String.toList)

def kindAt : List Run → Nat → String
  | [], _ => ""
  | run :: rest, n => if n ≤ run.last then run.kind else kindAt rest n

def inRanges : List (Nat × Nat) → Nat → Bool
  | [], _ => false
  | (first, last) :: rest, n => if n < first then false else n ≤ last || inRanges rest n

end StubServer.Text
