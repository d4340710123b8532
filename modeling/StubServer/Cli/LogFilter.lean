import StubServer.Basic
import StubServer.Text.Casing

namespace StubServer.Cli

abbrev Limit := Nat

def everything : Limit := 5

def needed : LogLevel → Limit
  | .error => 1
  | .warn => 2
  | .info => 3
  | .debug => 4

def limit? (text : String) : Option Limit :=
  match Text.lowerAscii text with
  | "off" | "0" => some 0
  | "error" | "1" => some 1
  | "warn" | "2" => some 2
  | "info" | "3" => some 3
  | "debug" | "4" => some 4
  | "trace" | "5" => some everything
  | _ => none

/-- One directive. One that asks for spans, of which the program has none, never fits. -/
structure Directive where
  target : String
  limit : Limit
  inSpan : Bool
  deriving DecidableEq, Repr

namespace Directive

def isTargetChar (c : Char) : Bool :=
  c.isAlphanum || c = '-' || c = ':' || c = '_' || 128 ≤ c.toNat

def parseLevel (target : String) (inSpan : Bool) : List Char → Option Directive
  | [] | ['='] => some ⟨target, everything, inSpan⟩
  | '=' :: level => (limit? (String.ofList level)).map fun limit => ⟨target, limit, inSpan⟩
  | _ => none

def parse (text : List Char) : Option Directive :=
  let name := text.takeWhile fun c => c != '=' && c != '['
  let target := String.ofList name
  if !name.all isTargetChar then none
  else match text.drop name.length with
    | '[' :: rest => parseLevel target true (rest.dropWhile (· != ']')).tail
    | rest =>
      if name.isEmpty then none
      else match rest, limit? target with
        | [], some limit => some ⟨"", limit, false⟩
        | rest, _ => parseLevel target false rest

def fits (d : Directive) (target : String) : Bool :=
  !d.inSpan && d.target.toList.isPrefixOf target.toList

end Directive

abbrev LogFilter := List Directive

namespace LogFilter

def usual : LogFilter := [⟨"", 3, false⟩]

def splitCommas : List Char → List (List Char)
  | [] => [[]]
  | c :: rest =>
    if c = ',' then [] :: splitCommas rest
    else match splitCommas rest with
      | [] => [[c]]
      | part :: parts => (c :: part) :: parts

def parse (text : String) : Option LogFilter := do
  let parts := (splitCommas text.toList).filter (!·.isEmpty)
  let directives ← parts.mapM Directive.parse
  return if directives.isEmpty then [⟨"", 1, false⟩] else directives

def ofEnvironment (env : String → Option String) : LogFilter :=
  let filter? (name : String) : Option LogFilter := (env name).bind parse
  ((filter? "DECOY_LOG") <|> (filter? "RUST_LOG")).getD usual

/-- The directive that decides: the one with the longest target, the last of them if there are more. -/
def deciding? (target : String) : LogFilter → Option Directive
  | [] => none
  | d :: rest =>
    match deciding? target rest with
    | none => if d.fits target then some d else none
    | some best =>
      if d.fits target && best.target.length < d.target.length then some d else some best

def allows (filter : LogFilter) (target : String) (level : LogLevel) : Bool :=
  match filter.deciding? target with
  | some d => needed level ≤ d.limit
  | none => false

end LogFilter

end StubServer.Cli
