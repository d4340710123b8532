import StubServer.Document.Node
import StubServer.Yaml.ScalarText

namespace StubServer.Yaml

open Document (ScalarStyle)

inductive Token where
  | streamEnd
  | version (major minor : Nat)
  | tagDirective (handle lead : String)
  | documentStart
  | documentEnd
  | blockSequenceStart
  | blockMappingStart
  | blockEnd
  | flowSequenceStart
  | flowSequenceEnd
  | flowMappingStart
  | flowMappingEnd
  | blockEntry
  | flowEntry
  | key
  | value
  | alias (name : String)
  | anchor (name : String)
  | tag (handle suffix : String)
  | scalar (text : String) (style : ScalarStyle)
  deriving DecidableEq, Repr

/-- A place where a key may have begun, in words and in characters. A required one stands at the
indentation of its block, where nothing but a key may stand. -/
structure KeyCandidate where
  required : Bool
  word : Nat
  index : Nat
  line : Nat
  column : Nat
  deriving Repr

/-- The state of the lexer: where it is, the columns of the open blocks, innermost first, the
candidate of each open flow collection and of the block around them, innermost first, whether a key
may begin here, and the words so far. A key is recognised only at the colon after it, so every place
where one could have begun is a candidate until then. -/
structure Lexer where
  here : Cursor
  indents : List Int
  candidates : List (Option KeyCandidate)
  keyAllowed : Bool
  words : Array Token

namespace Lexer

def start (here : Cursor) : Lexer := ⟨here, [-1], [none], true, #[]⟩

def indent (x : Lexer) : Int := x.indents.headD (-1)

def flowLevel (x : Lexer) : Nat := x.candidates.length - 1

def inFlow (x : Lexer) : Bool := x.flowLevel ≠ 0

def emit (x : Lexer) (t : Token) : Lexer := { x with words := x.words.push t }

def move (x : Lexer) (here : Cursor) : Lexer := { x with here }

def allowKey (x : Lexer) (allowed : Bool) : Lexer := { x with keyAllowed := allowed }

def unroll (x : Lexer) (column : Int) : Lexer :=
  if x.inFlow then x
  else
    let closed := x.indents.takeWhile (column < ·)
    { x with
      indents := x.indents.drop closed.length
      words := x.words ++ Array.replicate closed.length Token.blockEnd }

def roll (x : Lexer) (column : Nat) (word : Nat) (t : Token) : Lexer :=
  if x.inFlow ∨ (column : Int) ≤ x.indent then x
  else { x with indents := column :: x.indents, words := x.words.insertIdxIfInBounds word t }

def dropCandidate (x : Lexer) : Option Lexer :=
  match x.candidates with
  | some k :: rest => if k.required then none else some { x with candidates := none :: rest }
  | _ => some x

def saveCandidate (x : Lexer) : Option Lexer :=
  if !x.keyAllowed then some x
  else do
    let x ← x.dropCandidate
    let here := x.here
    let required := !x.inFlow && x.indent = here.column
    return { x with
      candidates := some ⟨required, x.words.size, here.index, here.line, here.column⟩ ::
        x.candidates.tail }

/-- Gives up the candidates that this place is too far from: a key stands on one line and has at
most 1024 characters. -/
def dropStale (x : Lexer) : Option Lexer := do
  let isStale (k : KeyCandidate) : Bool :=
    k.line < x.here.line || k.index + 1024 < x.here.index
  guard (x.candidates.all fun k => k.all fun k => !(isStale k && k.required))
  return { x with candidates := x.candidates.map fun k => k.filter fun k => !isStale k }

def skipBetween : Nat → Lexer → Lexer
  | 0, x => x
  | fuel + 1, x =>
    -- Tabs are blanks only where they cannot be taken for indentation.
    let p := x.here.skipWhile fun c => c = ' ' || (c = '\t' && (x.inFlow || !x.keyAllowed))
    let p := if p.at? 0 '#' then p.skipLine else p
    if p.is 0 isBreak then
      skipBetween fuel { x with here := p.skipBreak, keyAllowed := x.keyAllowed || !x.inFlow }
    else x.move p

def isTagChar (verbatim : Bool) (c : Char) : Bool :=
  isNameChar c || ";/?:@&=+$.!~*'()%".contains c || (verbatim && (c = ',' || c = '[' || c = ']'))

def unescapeTag : Nat → List Char → Option (List UInt8)
  | _, [] => some []
  | 0, _ => none
  | fuel + 1, '%' :: a :: b :: rest => do
    let n := (← hexDigit? a) * 16 + (← hexDigit? b)
    return n.toUInt8 :: (← unescapeTag fuel rest)
  | fuel + 1, c :: rest =>
    if c = '%' then none else do return Text.Utf8.encodeChar c ++ (← unescapeTag fuel rest)

def readTagText (verbatim : Bool) (p : Cursor) : Option (String × Cursor) := do
  let (cs, p) := p.takeWhile (isTagChar verbatim)
  let text ← Text.Utf8.decode? (← unescapeTag (cs.length + 1) cs)
  return (text, p)

def readTagHandle (p : Cursor) : Option (String × Cursor) := do
  guard (p.at? 0 '!')
  let (name, p) := p.skip.takeWhile isNameChar
  if p.at? 0 '!' then return ("!" ++ String.ofList name ++ "!", p.skip)
  else return ("!" ++ String.ofList name, p)

def readTag (inFlow : Bool) (p : Cursor) : Option (Token × Cursor) := do
  let (t, p) ←
    if p.at? 1 '<' then do
      let (suffix, p) ← readTagText true (p.skipN 2)
      guard (!suffix.isEmpty && p.at? 0 '>')
      pure (Token.tag "" suffix, p.skip)
    else do
      let (handle, p) ← readTagHandle p
      if handle.length > 1 ∧ handle.endsWith "!" then
        let (suffix, p) ← readTagText false p
        guard !suffix.isEmpty
        pure (Token.tag handle suffix, p)
      else
        let (more, p) ← readTagText false p
        let suffix := String.ofList handle.toList.tail ++ more
        pure (if suffix.isEmpty then Token.tag "" "!" else Token.tag "!" suffix, p)
  guard (p.endsWord 0 || (inFlow && p.at? 0 ','))
  return (t, p)

def readAnchor (p : Cursor) : Option (String × Cursor) := do
  let (name, p) := p.skip.takeWhile isNameChar
  guard !name.isEmpty
  guard (p.endsWord 0 || p.is 0 fun c => "?:,]\x7d%@\x60".contains c)
  return (String.ofList name, p)

def readVersionNumber (p : Cursor) : Option (Nat × Cursor) := do
  let (digits, p) := p.takeWhile Char.isDigit
  guard (!digits.isEmpty && digits.length ≤ 9)
  return (digits.foldl (fun n d => n * 10 + (d.toNat - 48)) 0, p)

def readDirective (p : Cursor) : Option (Token × Cursor) := do
  let (name, p) := p.skip.takeWhile isNameChar
  guard (!name.isEmpty && p.endsWord 0)
  let p := p.skipWhile isGap
  let (t, p) ←
    if String.ofList name = "YAML" then do
      let (major, p) ← readVersionNumber p
      guard (p.at? 0 '.')
      let (minor, p) ← readVersionNumber p.skip
      pure (Token.version major minor, p)
    else if String.ofList name = "TAG" then do
      let (handle, p) ← readTagHandle p
      guard (handle = "!" ∨ (1 < handle.length ∧ handle.endsWith "!"))
      guard (p.is 0 isGap)
      let (lead, p) ← readTagText true (p.skipWhile isGap)
      guard (!lead.isEmpty && p.endsWord 0)
      pure (Token.tagDirective handle lead, p)
    else none
  let p := p.skipWhile isGap
  let p := if p.at? 0 '#' then p.skipLine else p
  guard p.endsLine
  return (t, p.skipBreak)

def closeAll (x : Lexer) : Option Lexer := ((x.unroll (-1)).dropCandidate).map (·.allowKey false)

def indicator (x : Lexer) (allowKey : Bool) (t : Token) : Option Lexer := do
  let x ← x.dropCandidate
  return ((x.allowKey allowKey).move x.here.skip).emit t

def openFlow (x : Lexer) (t : Token) : Option Lexer := do
  let x ← x.saveCandidate
  return ({ x with candidates := none :: x.candidates, keyAllowed := true }.move x.here.skip).emit t

def closeFlow (x : Lexer) (t : Token) : Option Lexer := do
  let x ← x.dropCandidate
  let x := if x.inFlow then { x with candidates := x.candidates.tail } else x
  return ((x.allowKey false).move x.here.skip).emit t

def blockEntry (x : Lexer) : Option Lexer := do
  guard (x.inFlow || x.keyAllowed)
  (x.roll x.here.column x.words.size .blockSequenceStart).indicator true .blockEntry

def explicitKey (x : Lexer) : Option Lexer := do
  guard (x.inFlow || x.keyAllowed)
  (x.roll x.here.column x.words.size .blockMappingStart).indicator (!x.inFlow) .key

def value (x : Lexer) : Option Lexer :=
  match x.candidates with
  | some k :: rest =>
    -- What has been read since the candidate turns out to be a key.
    let x := { x with
      candidates := none :: rest
      words := x.words.insertIdxIfInBounds k.word Token.key }
    let x := x.roll k.column k.word .blockMappingStart
    some (((x.allowKey false).move x.here.skip).emit .value)
  | _ => do
    guard (x.inFlow || x.keyAllowed)
    let x := x.roll x.here.column x.words.size .blockMappingStart
    return ((x.allowKey (!x.inFlow)).move x.here.skip).emit .value

def keyed (x : Lexer) (read : Cursor → Option (Token × Cursor)) : Option Lexer := do
  let x ← x.saveCandidate
  let (t, p) ← read x.here
  return ((x.allowKey false).move p).emit t

def blockScalar (x : Lexer) (literal : Bool) : Option Lexer := do
  let x ← x.dropCandidate
  let (text, p) ← readBlock literal x.indent x.here.skip
  return ((x.allowKey true).move p).emit (.scalar text (if literal then .literal else .other))

def quotedScalar (x : Lexer) (single : Bool) : Option Lexer :=
  x.keyed fun p => do
    let (g, p) ← readQuoted single (p.rest.length + 1) .start p.skip
    return (.scalar g.text .other, p)

def plainScalar (x : Lexer) : Option Lexer := do
  let x ← x.saveCandidate
  let (g, p) ← readPlain x.inFlow (x.indent + 1).toNat (x.here.rest.length + 1) .start x.here
  return ((x.allowKey g.leading).move p).emit (.scalar g.text .plain)

def isIndicator (c : Char) : Bool := "-?:,[]\x7b\x7d#&*!|>'\"%@\x60".contains c

def step (x : Lexer) : Option (Bool × Lexer) := do
  let x ← (x.skipBetween (x.here.rest.length + 1)).dropStale
  let x := x.unroll x.here.column
  let p := x.here
  match p.peek 0 with
  | none => do
    let x ← x.closeAll
    return (true, x.emit .streamEnd)
  | some c =>
    let x? : Option Lexer :=
      if p.column = 0 ∧ c = '%' then do
        let x ← x.closeAll
        let (t, p) ← readDirective x.here
        return (x.move p).emit t
      else if p.atDocumentMark '-' then do
        let x ← x.closeAll
        return (x.move (p.skipN 3)).emit .documentStart
      else if p.atDocumentMark '.' then do
        let x ← x.closeAll
        return (x.move (p.skipN 3)).emit .documentEnd
      else if c = '[' then x.openFlow .flowSequenceStart
      else if c = '\x7b' then x.openFlow .flowMappingStart
      else if c = ']' then x.closeFlow .flowSequenceEnd
      else if c = '\x7d' then x.closeFlow .flowMappingEnd
      else if c = ',' then x.indicator true .flowEntry
      else if c = '-' ∧ p.endsWord 1 then x.blockEntry
      else if c = '?' ∧ (x.inFlow ∨ p.endsWord 1) then x.explicitKey
      else if c = ':' ∧ (x.inFlow ∨ p.endsWord 1) then x.value
      else if c = '*' then x.keyed fun p => (readAnchor p).map fun (name, p) => (.alias name, p)
      else if c = '&' then x.keyed fun p => (readAnchor p).map fun (name, p) => (.anchor name, p)
      else if c = '!' then x.keyed (readTag x.inFlow)
      else if c = '|' ∧ !x.inFlow then x.blockScalar true
      else if c = '>' ∧ !x.inFlow then x.blockScalar false
      else if c = '\'' then x.quotedScalar true
      else if c = '"' then x.quotedScalar false
      -- Some indicators begin a plain scalar where they cannot mean anything else.
      else if !isIndicator c ∨ (c = '-' ∧ !p.is 1 isGap)
          ∨ (!x.inFlow ∧ (c = '?' ∨ c = ':') ∧ !p.endsWord 1) then
        x.plainScalar
      else none
    return (false, ← x?)

def run : Nat → Lexer → Option (List Token)
  | 0, _ => none
  | fuel + 1, x =>
    match x.step with
    | none => none
    | some (true, x) => some x.words.toList
    | some (false, x) => run fuel x

end Lexer

def lex? (s : String) : Option (List Token) := do
  let here ← Cursor.ofText? s
  (Lexer.start here).run (here.rest.length + 2)

end StubServer.Yaml
