import StubServer.Document.Node
import StubServer.Decimal.FloatText

namespace StubServer.Document

def coreTag (name : String) : String := "tag:yaml.org,2002:" ++ name

namespace Scalar

def isNullText (s : String) : Bool := s = "null" || s = "Null" || s = "NULL" || s = "~"

def boolText? (s : String) : Option Bool :=
  if s = "true" ∨ s = "True" ∨ s = "TRUE" then some true
  else if s = "false" ∨ s = "False" ∨ s = "FALSE" then some false
  else none

def digit? (base : Nat) (c : Char) : Option Nat :=
  let value :=
    if '0' ≤ c ∧ c ≤ '9' then c.toNat - 48
    else if 'a' ≤ c ∧ c ≤ 'z' then c.toNat - 87
    else if 'A' ≤ c ∧ c ≤ 'Z' then c.toNat - 55
    else base
  if value < base then some value else none

def digits? (base : Nat) (cs : List Char) : Option Nat :=
  if cs.isEmpty then none
  else (cs.mapM (digit? base)).map fun ds => ds.foldl (fun n d => n * base + d) 0

def isPaddedDigits (cs : List Char) : Bool :=
  let cs := match cs with
    | '-' :: rest => rest
    | '+' :: rest => rest
    | cs => cs
  match cs with
  | '0' :: rest => !rest.isEmpty && rest.all Char.isDigit
  | _ => false

def based? : List Char → Option Nat
  | '0' :: 'x' :: rest => digits? 16 rest
  | '0' :: 'o' :: rest => digits? 8 rest
  | '0' :: 'b' :: rest => digits? 2 rest
  | _ => none

def natural? (cs : List Char) : Option Nat :=
  let bare := match cs with
    | '+' :: rest => rest
    | cs => cs
  (based? bare).orElse fun _ => if isPaddedDigits cs then none else digits? 10 bare

def negative? (cs : List Char) : Option Int :=
  match cs with
  | '-' :: bare =>
    ((based? bare).orElse fun _ => if isPaddedDigits cs then none else digits? 10 bare).map
      fun n => -(n : Int)
  | _ => none

def integer? (cs : List Char) : Option Int :=
  ((natural? cs).map Int.ofNat).orElse fun _ => negative? cs

def spanDigits (cs : List Char) : List Char × List Char := cs.span Char.isDigit

def exponent? : List Char → Option Int
  | [] => some 0
  | e :: rest =>
    if e = 'e' ∨ e = 'E' then
      match rest with
      | '-' :: ds => (digits? 10 ds).map fun n => -(n : Int)
      | '+' :: ds => (digits? 10 ds).map Int.ofNat
      | ds => (digits? 10 ds).map Int.ofNat
    else none

def magnitude? (cs : List Char) : Option Float := do
  let (whole, rest) := spanDigits cs
  let (fraction, rest) := match rest with
    | '.' :: rest => spanDigits rest
    | rest => ([], rest)
  let digits := whole ++ fraction
  let n ← digits? 10 digits
  let e ← exponent? rest
  return Decimal.nearest n (e - fraction.length)

/-- A float: a decimal fraction, an infinity or the no-number. Fractions too large for a float are
texts. -/
def float? (cs : List Char) : Option Float :=
  let s := String.ofList cs
  let bare := match cs with
    | '+' :: rest => rest
    | cs => cs
  let unsigned := String.ofList bare
  if unsigned = ".inf" ∨ unsigned = ".Inf" ∨ unsigned = ".INF" then some (1.0 / 0.0)
  else if s = "-.inf" ∨ s = "-.Inf" ∨ s = "-.INF" then some (-1.0 / 0.0)
  else if s = ".nan" ∨ s = ".NaN" ∨ s = ".NAN" then some (0.0 / 0.0)
  else
    let x := match bare with
      | '-' :: rest => if cs.head? = some '+' then none else (magnitude? rest).map (-·)
      | '+' :: _ => none
      | rest => magnitude? rest
    x.filter Float.isFinite

def fitsWord (bits : Nat) (i : Int) : Bool :=
  -(1 <<< (bits - 1) : Nat) ≤ i && i < (1 <<< bits : Nat)

def resolveText (s : String) : Except Fault Node :=
  let cs := s.toList
  if s.isEmpty ∨ isNullText s then .ok .null
  else match boolText? s with
    | some b => .ok (.bool b)
    | none =>
      match integer? cs with
      | some i =>
        if fitsWord 64 i then .ok (.int i)
        else if fitsWord 128 i then
          .error (.mismatch (.wrongType ("integer " ++ ticked s) "any value"))
        else resolveFraction cs s
      | none => resolveFraction cs s
where
  /-- A float if it is one, else a text. -/
  resolveFraction (cs : List Char) (s : String) : Except Fault Node :=
    if isPaddedDigits cs then .ok (.text s)
    else match float? cs with
      | some x => .ok (.float x)
      | none => .ok (.text s)

def isLocalTag (tag : Option String) : Bool := (tag.map (·.startsWith "!")).getD false

def badTag (s : Scalar) (expected : String) : Fault :=
  .mismatch (.wrongValue ("string " ++ Text.quoted s.text) expected)

/-- A plain scalar is null, a truth value, an integer or a float if it looks like one, and a text
otherwise; a tag of the core schema overrides the look. -/
def resolve (s : Scalar) : Except Fault Node :=
  if isLocalTag s.tag then .error (.mismatch (.wrongType "enum" "any value"))
  else match s.tag with
    | none => if s.style = .plain then resolveText s.text else .ok (.text s.text)
    | some tag =>
      if tag = coreTag "bool" then
        match boolText? s.text with
        | some b => .ok (.bool b)
        | none => .error (s.badTag "a boolean")
      else if tag = coreTag "int" then
        match integer? s.text.toList with
        | some i =>
          if fitsWord 64 i then .ok (.int i) else .error (s.badTag "an integer")
        | none => .error (s.badTag "an integer")
      else if tag = coreTag "float" then
        match float? s.text.toList with
        | some x => .ok (.float x)
        | none => .error (s.badTag "a float")
      else if tag = coreTag "null" then
        if isNullText s.text then .ok .null else .error (s.badTag "null")
      else .ok (.text s.text)

/-- Whether the look of the scalar counts: it is plain, or a literal block with the type's tag. -/
def looks (s : Scalar) (tag : String) : Bool :=
  match s.style with
  | .plain => true
  | .literal => s.tag = some (coreTag tag)
  | .other => false

def isEmpty (s : Scalar) : Bool := s.text.isEmpty && s.style = .plain

end Scalar

end StubServer.Document
