import StubServer.Yaml.Cursor

namespace StubServer.Yaml

/-- Characters gathered so far, in reverse, with what stands between the last of them and here: gaps
on the same line, or the first line end and those after it. A single line end becomes a space,
further ones stay. -/
structure Gathered where
  done : List Char
  gaps : List Char
  firstBreak : List Char
  moreBreaks : List Char
  leading : Bool

namespace Gathered

def start : Gathered := ⟨[], [], [], [], false⟩

def append (g : Gathered) (cs : List Char) : Gathered := { g with done := cs.reverse ++ g.done }

def join (g : Gathered) : Gathered :=
  if g.leading then
    let between :=
      if g.firstBreak.head? = some '\n' then
        if g.moreBreaks.isEmpty then [' '] else g.moreBreaks
      else g.firstBreak ++ g.moreBreaks
    ⟨between.reverse ++ g.done, [], [], [], false⟩
  else ⟨g.gaps.reverse ++ g.done, [], [], [], false⟩

def gap (g : Gathered) (c : Char) : Gathered :=
  if g.leading then g else { g with gaps := g.gaps ++ [c] }

def lineBreak (g : Gathered) (cs : List Char) : Gathered :=
  if g.leading then { g with moreBreaks := g.moreBreaks ++ cs }
  else { g with gaps := [], firstBreak := cs, leading := true }

def text (g : Gathered) : String := String.ofList g.done.reverse

end Gathered

def endsPlain (inFlow : Bool) (p : Cursor) : Bool :=
  (p.at? 0 ':' && p.endsWord 1)
    || (inFlow && p.is 0 fun c => c = ',' || c = '[' || c = ']' || c = '\x7b' || c = '\x7d')

def straysInFlow (inFlow : Bool) (p : Cursor) : Bool :=
  inFlow && p.at? 0 ':' && p.is 1 fun c =>
    c = ',' || c = '?' || c = '[' || c = ']' || c = '\x7b' || c = '\x7d'

def readPlain (inFlow : Bool) (indent : Nat) : Nat → Gathered → Cursor → Option (Gathered × Cursor)
  | 0, g, p => some (g, p)
  | fuel + 1, g, p =>
    match p.rest with
    | [] => some (g, p)
    | c :: _ =>
      let betweenWords := g.leading || !g.gaps.isEmpty
      if isGap c then
        if g.leading && p.column < indent && c = '\t' then none
        else readPlain inFlow indent fuel (g.gap c) p.skip
      else if isBreak c then
        let (cs, p) := p.readBreak
        readPlain inFlow indent fuel (g.lineBreak cs) p
      else if betweenWords && ((!inFlow && p.column < indent) || c = '#' || p.atAnyDocumentMark) then
        some (g, p)
      else if straysInFlow inFlow p then none
      else if endsPlain inFlow p then some (g, p)
      else readPlain inFlow indent fuel (g.join.append [c]) p.skip

def quotedEscape? (c : Char) : Option Char :=
  match c with
  | '0' => some '\x00'
  | 'a' => some '\x07'
  | 'b' => some '\x08'
  | 't' | '\t' => some '\t'
  | 'n' => some '\n'
  | 'v' => some '\x0b'
  | 'f' => some '\x0c'
  | 'r' => some '\r'
  | 'e' => some '\x1b'
  | ' ' | '"' | '/' | '\\' => some c
  | 'N' => some '\u0085'
  | '_' => some '\u00a0'
  | 'L' => some '\u2028'
  | 'P' => some '\u2029'
  | _ => none

def escapeWidth? (c : Char) : Option Nat :=
  if c = 'x' then some 2 else if c = 'u' then some 4 else if c = 'U' then some 8 else none

def hexDigit? (c : Char) : Option Nat :=
  if '0' ≤ c ∧ c ≤ '9' then some (c.toNat - 48)
  else if 'a' ≤ c ∧ c ≤ 'f' then some (c.toNat - 87)
  else if 'A' ≤ c ∧ c ≤ 'F' then some (c.toNat - 55)
  else none

def charOfHex? (cs : List Char) : Option Char := do
  let n := (← cs.mapM hexDigit?).foldl (fun n d => n * 16 + d) 0
  if n.isValidChar then some (Char.ofNat n) else none

def readQuoted (single : Bool) : Nat → Gathered → Cursor → Option (Gathered × Cursor)
  | 0, _, _ => none
  | fuel + 1, g, p =>
    let betweenWords := g.leading || !g.gaps.isEmpty
    match p.rest with
    | [] => none
    | c :: rest =>
      if isGap c then readQuoted single fuel (g.gap c) p.skip
      else if isBreak c then
        let (cs, p) := p.readBreak
        readQuoted single fuel (g.lineBreak cs) p
      else if p.atAnyDocumentMark then none
      else
        let g := if betweenWords then g.join else g
        if single then
          if c = '\'' then
            if rest.head? = some '\'' then readQuoted single fuel (g.append ['\'']) (p.skipN 2)
            else some (g, p.skip)
          else readQuoted single fuel (g.append [c]) p.skip
        else if c = '"' then some (g, p.skip)
        else if c = '\\' then
          match rest with
          | [] => none
          | e :: rest =>
            if isBreak e then readQuoted single fuel { g with leading := true } p.skip.skipBreak
            else match quotedEscape? e, escapeWidth? e with
              | some c, _ => readQuoted single fuel (g.append [c]) (p.skipN 2)
              | none, some width =>
                if rest.length < width then none
                else match charOfHex? (rest.take width) with
                  | some c => readQuoted single fuel (g.append [c]) (p.skipN (2 + width))
                  | none => none
              | none, none => none
        else readQuoted single fuel (g.append [c]) p.skip

inductive Chomping where
  | strip
  | clip
  | keep
  deriving DecidableEq, Repr

def readBlockBreaks (indent : Nat) : Nat → Nat → List Char → Cursor → Option (Nat × List Char × Cursor)
  | 0, widest, breaks, p => some (widest, breaks, p)
  | fuel + 1, widest, breaks, p =>
    let spaces := p.rest.takeWhile (· = ' ')
    let p := p.skipN (if indent = 0 then spaces.length else min spaces.length (indent - p.column))
    let widest := max widest p.column
    if (indent = 0 ∨ p.column < indent) ∧ p.at? 0 '\t' then none
    else if p.is 0 isBreak then
      let (cs, p) := p.readBreak
      readBlockBreaks indent fuel widest (breaks ++ cs) p
    else some (widest, breaks, p)

/-- Reads the lines of a block scalar. `lineEnd` is the end of the line before, `breaks` are the
empty lines after it, and `blank` says whether the line before began with a gap. -/
def readBlockLines (literal : Bool) (indent : Nat) : Nat → List Char → List Char → List Char → Bool →
    Cursor → Option (List Char × List Char × List Char × Cursor)
  | 0, done, lineEnd, breaks, _, p => some (done, lineEnd, breaks, p)
  | fuel + 1, done, lineEnd, breaks, blank, p =>
    if p.column ≠ indent ∨ p.rest.isEmpty then some (done, lineEnd, breaks, p)
    else do
      let startsBlank := p.is 0 isGap
      let between :=
        if !literal && lineEnd.head? = some '\n' && !blank && !startsBlank then
          if breaks.isEmpty then [' '] else breaks
        else lineEnd ++ breaks
      let (line, p) := p.takeWhile fun c => !isBreak c
      let (lineEnd, p) := p.readBreak
      let (_, breaks, p) ← readBlockBreaks indent (p.rest.length + 1) 0 [] p
      readBlockLines literal indent fuel (line.reverse ++ between.reverse ++ done) lineEnd breaks
        startsBlank p

def readBlockHead (p : Cursor) : Option (Chomping × Nat × Cursor) :=
  let chomping (p : Cursor) : Chomping × Cursor :=
    if p.at? 0 '+' then (.keep, p.skip)
    else if p.at? 0 '-' then (.strip, p.skip)
    else (.clip, p)
  let width (p : Cursor) : Option (Nat × Cursor) :=
    match p.peek 0 with
    | some c => if c = '0' then none else if c.isDigit then some (c.toNat - 48, p.skip) else some (0, p)
    | none => some (0, p)
  match chomping p with
  | (.clip, p) => do
    let (w, p) ← width p
    let (c, p) := if w = 0 then (.clip, p) else chomping p
    return (c, w, p)
  | (c, p) => do
    let (w, p) ← width p
    return (c, w, p)

def readBlock (literal : Bool) (parent : Int) (p : Cursor) : Option (String × Cursor) := do
  let (chomping, width, p) ← readBlockHead p
  let p := p.skipWhile isGap
  let p := if p.at? 0 '#' then p.skipLine else p
  guard p.endsLine
  let p := p.skipBreak
  let fuel := p.rest.length + 1
  let fixed := if width = 0 then 0 else (max parent 0).toNat + width
  let (widest, breaks, p) ← readBlockBreaks fixed fuel 0 [] p
  let indent := if fixed = 0 then max (max widest (parent + 1).toNat) 1 else fixed
  let (done, lineEnd, breaks, p) ← readBlockLines literal indent fuel [] [] breaks false p
  let tail := match chomping with
    | .strip => []
    | .clip => lineEnd
    | .keep => lineEnd ++ breaks
  return (String.ofList (done.reverse ++ tail), p)

end StubServer.Yaml
