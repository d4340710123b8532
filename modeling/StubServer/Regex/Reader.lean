import StubServer.Regex.Names
import StubServer.Regex.Pattern

namespace StubServer.Regex

/-- The modes a pattern is read in. They hold to the end of the group they are set in, across its
branches. -/
structure Mode where
  caseless : Bool
  multiLine : Bool
  dotAll : Bool
  anyLineEnd : Bool
  unicode : Bool
  spaced : Bool
  deriving DecidableEq, Repr

structure ReaderState where
  rest : List Char
  mode : Mode
  names : List String

abbrev Read := StateT ReaderState Option

structure Piece where
  pattern : Pattern CharClass Anchor
  depth : Nat
  repeatable : Bool

def nestingLimit : Nat := 250

def sizeLimit : Nat := 10 <<< 20

def countLimit : Nat := 1 <<< 32 - 1

namespace Read

def refuse {α : Type} : Read α := fun _ => none

def mode : Read Mode := do return (← get).mode

def setMode (mode : Mode) : Read Unit := modify fun s => { s with mode := mode }

def peek? : Read (Option Char) := do return (← get).rest.head?

def peek : Read Char := do
  match ← peek? with
  | some c => return c
  | none => refuse

def advance : Read Unit := modify fun s => { s with rest := s.rest.tail }

def accept (text : String) : Read Bool := do
  let s ← get
  if text.toList.isPrefixOf s.rest then
    set { s with rest := s.rest.drop text.length }
    return true
  else return false

def afterBlanks : Bool → List Char → List Char
  | _, [] => []
  | true, c :: rest => afterBlanks (c != '\n') rest
  | false, c :: rest =>
    if c = '#' then afterBlanks true rest
    else if Text.isBlank c then afterBlanks false rest
    else c :: rest

def skipBlanks : Read Unit :=
  modify fun s => if s.mode.spaced then { s with rest := afterBlanks false s.rest } else s

def step : Read Unit := do
  advance
  skipBlanks

def stepOn : Read Unit := do
  step
  discard peek

def expect (c : Char) : Read Unit := do
  if (← peek) = c then advance else refuse

def takeSpaced (p : Char → Bool) : Nat → Read (List Char)
  | 0 => refuse
  | fuel + 1 => do
    match ← peek? with
    | some c =>
      if p c then
        step
        return c :: (← takeSpaced p fuel)
      else return []
    | none => return []

def fuel : Read Nat := do return (← get).rest.length + 1

inductive Escaped where
  | char (c : Char)
  | charClass (c : CharClass)
  | anchor (a : Anchor)

def hexValue? (c : Char) : Option Nat :=
  if '0' ≤ c ∧ c ≤ '9' then some (c.toNat - 48)
  else if 'a' ≤ c ∧ c ≤ 'f' then some (c.toNat - 87)
  else if 'A' ≤ c ∧ c ≤ 'F' then some (c.toNat - 55)
  else none

def hexChar (digits : List Char) : Read Char := do
  if digits.isEmpty then refuse
  let n ← digits.foldlM (fun n c => do
    match hexValue? c with
    | some d => return 16 * n + d
    | none => refuse) 0
  if h : n.isValidChar then return Char.ofNatAux n h else refuse

def hexDigits : Nat → Read (List Char)
  | 0 => return []
  | k + 1 => do
    let c ← peek
    if (hexValue? c).isNone then refuse
    step
    return c :: (← hexDigits k)

def numbered (kind : Char) : Read Escaped := do
  stepOn
  if (← peek) = '\x7b' then
    step
    let digits ← takeSpaced (· != '\x7d') (← fuel)
    expect '\x7d'
    skipBlanks
    return .char (← hexChar digits)
  else
    let digits ← hexDigits (if kind = 'x' then 2 else if kind = 'u' then 4 else 8)
    let c ← hexChar digits
    if kind = 'x' ∧ !(← mode).unicode ∧ 0x80 ≤ c.toNat then refuse
    return .char c

/-- The class as it counts in the current modes: folded if case does not matter, then complemented. -/
def foldAndNegate (negated : Bool) (c : CharClass) : Read CharClass := do
  let m ← mode
  let c := if !m.caseless then c else if m.unicode then .folded c else .inter .ascii (.folded c)
  return if negated then .compl c else c

def splitProperty (name : String) : Option (String × String × Bool) :=
  match name.splitOn "!=" with
  | first :: second :: more => some (first, "!=".intercalate (second :: more), true)
  | _ => match name.splitOn ":" with
    | first :: second :: more => some (first, ":".intercalate (second :: more), false)
    | _ => match name.splitOn "=" with
      | first :: second :: more => some (first, "=".intercalate (second :: more), false)
      | _ => none

def property (negated : Bool) : Read Escaped := do
  stepOn
  let name ←
    if (← peek) = '\x7b' then
      step
      let name ← takeSpaced (· != '\x7d') (← fuel)
      expect '\x7d'
      pure name
    else
      let c ← peek
      if c = '\\' then refuse
      step
      pure [c]
  if !(← mode).unicode then refuse
  let (c?, negated) := match splitProperty (String.ofList name) with
    | some (property, value, differs) =>
      (classValued? (plainName property) (plainName value), negated != differs)
    | none => (classNamed? (plainName (String.ofList name)), negated)
  match c? with
  | some c => return .charClass (← foldAndNegate negated c)
  | none => refuse

def isMeta (c : Char) : Bool := "\\.+*?()|[]\x7b\x7d^$#&-~".toList.contains c

def mayEscape (c : Char) : Bool := isMeta c || (c.toNat < 0x80 && !c.isAlphanum && c != '<' && c != '>')

def edgeNames : List (String × WordEdge) :=
  [("start", .start), ("end", .finish), ("start-half", .halfStart), ("end-half", .halfFinish)]

def wordEdge : Read WordEdge := do
  if (← peek?) = some '\x7b' then
    let before ← get
    stepOn
    let isNameChar (c : Char) := c.isAlpha || c = '-'
    if isNameChar (← peek) then
      let name ← takeSpaced isNameChar (← fuel)
      expect '\x7d'
      match edgeNames.lookup (String.ofList name) with
      | some side => return side
      | none => refuse
    else
      set before
      return .boundary
  else return .boundary

def escape : Read Escaped := do
  advance
  let c ← peek
  let m ← mode
  if c.isDigit then refuse
  else if c = 'x' ∨ c = 'u' ∨ c = 'U' then numbered c
  else if c = 'p' ∨ c = 'P' then property (c = 'P')
  else if "dswDSW".toList.contains c then
    advance
    match shorthand? (!m.unicode) c.toLower with
    | some k => return .charClass (if c.isUpper then .compl k else k)
    | none => refuse
  else
    advance
    if mayEscape c then return .char c
    match c with
    | 'a' => return .char '\x07'
    | 'f' => return .char '\x0c'
    | 't' => return .char '\t'
    | 'n' => return .char '\n'
    | 'r' => return .char '\r'
    | 'v' => return .char '\x0b'
    | 'A' => return .anchor .textStart
    | 'z' => return .anchor .textEnd
    | 'b' => return .anchor (.word (← wordEdge) (!m.unicode))
    | 'B' => return .anchor (.word .interior (!m.unicode))
    | '<' => return .anchor (.word .start (!m.unicode))
    | '>' => return .anchor (.word .finish (!m.unicode))
    | _ => refuse

inductive ClassOp where
  | inter
  | diff
  | symmDiff

def ClassOp.apply (op : ClassOp) (a b : CharClass) : Read CharClass := do
  let a ← foldAndNegate false a
  let b ← foldAndNegate false b
  return match op with
    | .inter => .inter a b
    | .diff => .diff a b
    | .symmDiff => .symmDiff a b

def classOp? : Read (Option ClassOp) := do
  if ← accept "&&" then return some .inter
  else if ← accept "--" then return some .diff
  else if ← accept "~~" then return some .symmDiff
  else return none

def bracketName? : Read (Option CharClass) := do
  let before ← get
  if ← accept "[:" then
    let negated ← accept "^"
    let s ← get
    let name := s.rest.takeWhile (· != ':')
    set { s with rest := s.rest.drop name.length }
    match bracketNames.lookup (String.ofList name) with
    | some c =>
      if ← accept ":]" then return some (← foldAndNegate negated c)
    | none => pure ()
  set before
  return none

def classElement : Read Escaped := do
  let c ← peek
  if c = '\\' then escape
  else
    advance
    return .char c

def classItem : Read CharClass := do
  let first ← classElement
  skipBlanks
  let s ← get
  let next := (if s.mode.spaced then afterBlanks false s.rest.tail else s.rest.tail).head?
  -- A hyphen before the closing bracket or before another hyphen makes no range.
  if (← peek) != '-' || next = some ']' || next = some '-' then
    match first with
    | .char c => return .single c
    | .charClass c => return c
    | .anchor _ => refuse
  else
    stepOn
    match first, ← classElement with
    | .char a, .char b => if a ≤ b then return .range a b else refuse
    | _, _ => refuse

def classOpening : Nat → CharClass → Read CharClass
  | 0, _ => refuse
  | fuel + 1, found => do
    let c ← peek
    if c = '-' then
      stepOn
      classOpening fuel (.union found (.single '-'))
    else match found, c with
      | .nothing, ']' =>
        stepOn
        return .single ']'
      | _, _ => return found

mutual

def bracketed : Nat → Read (CharClass × Nat)
  | 0 => refuse
  | n + 1 => do
    stepOn
    let negated ← if (← peek) = '^' then stepOn; pure true else pure false
    let opening ← classOpening (← fuel) .nothing
    let (c, depth) ← members n none opening 0
    return (← foldAndNegate negated c, depth + 1)

/-- The members of a class up to its closing bracket. What stands before the last operator waits in
`pending`. -/
def members : Nat → Option (ClassOp × CharClass) → CharClass → Nat → Read (CharClass × Nat)
  | 0, _, _, _ => refuse
  | n + 1, pending, found, depth => do
    skipBlanks
    let finish : Read CharClass := match pending with
      | some (op, left) => op.apply left found
      | none => return found
    match ← peek with
    | '[' =>
      match ← bracketName? with
      | some c => members n pending (.union found c) depth
      | none =>
        let (c, d) ← bracketed n
        members n pending (.union found c) (max depth d)
    | ']' =>
      advance
      return (← finish, depth)
    | _ =>
      match ← classOp? with
      | some op => members n (some (op, ← finish)) .nothing depth
      | none => members n pending (.union found (← classItem)) depth

end

def concat : List Piece → Piece
  | [] => ⟨.empty, 0, false⟩
  | [p] => p
  | p :: before =>
    let all := before.foldl (fun (q : Piece) p =>
      ⟨.seq p.pattern q.pattern, max p.depth q.depth, true⟩) p
    { all with depth := all.depth + 1 }

def branchesOf : List Piece → Piece
  | [] => ⟨.empty, 0, false⟩
  | [p] => p
  | p :: before =>
    let all := before.foldl (fun (q : Piece) p =>
      ⟨.alt p.pattern q.pattern, max p.depth q.depth, true⟩) p
    { all with depth := all.depth + 1 }

def setFlag (value : Bool) (m : Mode) : Char → Option Mode
  | 'i' => some { m with caseless := value }
  | 'm' => some { m with multiLine := value }
  | 's' => some { m with dotAll := value }
  | 'R' => some { m with anyLineEnd := value }
  | 'u' => some { m with unicode := value }
  | 'x' => some { m with spaced := value }
  | 'U' => some m
  | _ => none

def flags : Nat → List Char → Mode → Read (Mode × List Char)
  | 0, _, _ => refuse
  | fuel + 1, seen, m => do
    let c ← peek
    if c = ':' ∨ c = ')' then
      if seen.head? = some '-' then refuse
      return (m, seen)
    else if seen.contains c then refuse
    else
      advance
      discard peek
      if c = '-' then flags fuel (c :: seen) m
      else match setFlag (!seen.contains '-') m c with
        | some m => flags fuel (c :: seen) m
        | none => refuse

def groupName : Read Unit := do
  let s ← get
  let name := s.rest.takeWhile (· != '>')
  let isNameChar (c : Char) := "_.[]".toList.contains c || Text.isAlphabetic c || Text.isNumeric c
  match name with
  | [] => refuse
  | c :: _ =>
    if !(c = '_' || Text.isAlphabetic c) || !name.all isNameChar then refuse
    if s.names.contains (String.ofList name) then refuse
    set { s with rest := s.rest.drop name.length, names := String.ofList name :: s.names }
    expect '>'

/-- The beginning of a group, of which the parenthesis comes next. It says whether this is a group at
all; if not, modes have been set. -/
def openGroup : Read Bool := do
  step
  -- Conditions on what stands around a place are not supported.
  for lookAround in ["?=", "?!", "?<=", "?<!"] do
    if ← accept lookAround then refuse
  if (← accept "?P<") || (← accept "?<") then
    groupName
    return true
  else if ← accept "?" then
    let (m, letters) ← flags (← fuel) [] (← mode)
    let isGroup := (← peek) = ':'
    if !isGroup && letters.isEmpty then refuse
    advance
    setMode m
    return isGroup
  else return true

def count? : Read (Option Nat) := do
  modify fun s => { s with rest := s.rest.dropWhile Text.isBlank }
  let digits ← takeSpaced Char.isDigit (← fuel)
  discard (takeSpaced Text.isBlank (← fuel))
  if digits.isEmpty then return none
  match (String.ofList digits).toNat? with
  | some n => if n ≤ countLimit then return some n else refuse
  | none => refuse

def counts : Read (Nat × Option Nat) := do
  stepOn
  let least? ← count?
  match ← peek, least? with
  | ',', some least =>
    stepOn
    if (← peek) = '\x7d' then
      step
      return (least, none)
    else
      match ← count? with
      | some most =>
        expect '\x7d'
        skipBlanks
        if most < least then refuse
        return (least, some most)
      | none => refuse
  | '\x7d', some least =>
    step
    return (least, some least)
  | _, _ => refuse

/-- The piece repeated. A question mark after the counts only changes which match is preferred. -/
def repeatPiece (pieces : List Piece) (counts : Read (Nat × Option Nat)) : Read (List Piece) := do
  match pieces with
  | p :: before =>
    if !p.repeatable then refuse
    let (least, most) ← counts
    discard (accept "?")
    return ⟨.times p.pattern least most, p.depth + 1, true⟩ :: before
  | [] => refuse

def leaf (pattern : Pattern CharClass Anchor) : Piece := ⟨pattern, 0, true⟩

/-- The piece of a class. Where characters are bytes, no class may leave ASCII. -/
def classPiece (c : CharClass) (depth : Nat) : Read Piece := do
  if !(← mode).unicode && !c.isAscii then refuse
  return ⟨.one c, depth, true⟩

def charPiece (c : Char) : Read Piece := do
  let m ← mode
  if m.caseless && !m.unicode && 0x80 ≤ c.toNat then refuse
  return leaf (.one (← foldAndNegate false (.single c)))

def primitive : Read Piece := do
  let m ← mode
  match ← peek with
  | '\\' =>
    match ← escape with
    | .char c => charPiece c
    | .charClass c => classPiece c 0
    | .anchor a => return leaf (.check a)
  | '.' =>
    advance
    classPiece (if m.dotAll then .property .any
      else if m.anyLineEnd then .compl (.union (.single '\r') (.single '\n'))
      else .compl (.single '\n')) 0
  | '^' =>
    advance
    return leaf (.check (if !m.multiLine then .textStart
      else if m.anyLineEnd then .anyLineStart else .lineStart))
  | '$' =>
    advance
    return leaf (.check (if !m.multiLine then .textEnd
      else if m.anyLineEnd then .anyLineEnd else .lineEnd))
  | c =>
    advance
    charPiece c

/-- The branches of a group or of the whole pattern, up to its end, which is not passed. The branches
before this one and the pieces of this one are kept in reverse. -/
def branches : Nat → List Piece → List Piece → Read Piece
  | 0, _, _ => refuse
  | n + 1, done, pieces => do
    skipBlanks
    match ← peek? with
    | none | some ')' => return branchesOf (concat pieces :: done)
    | some '|' =>
      advance
      branches n (concat pieces :: done) []
    | some '(' =>
      let outer ← mode
      if ← openGroup then
        let body ← branches n [] []
        expect ')'
        -- Modes that are set inside a group end with it.
        setMode outer
        branches n done ({ body with depth := body.depth + 1, repeatable := true } :: pieces)
      else branches n done (⟨.empty, 0, false⟩ :: pieces)
    | some '[' =>
      let (c, depth) ← bracketed (← fuel)
      branches n done ((← classPiece c depth) :: pieces)
    | some '?' => branches n done (← repeatPiece pieces (advance *> pure (0, some 1)))
    | some '*' => branches n done (← repeatPiece pieces (advance *> pure (0, none)))
    | some '+' => branches n done (← repeatPiece pieces (advance *> pure (1, none)))
    | some '\x7b' => branches n done (← repeatPiece pieces counts)
    | some _ => branches n done ((← primitive) :: pieces)

end Read

def readPattern? (caseless : Bool) (text : String) : Option (Pattern CharClass Anchor) := do
  let start : ReaderState := ⟨text.toList, ⟨caseless, false, false, false, true, false⟩, []⟩
  let (piece, s) ← (Read.branches (2 * text.length + 2) [] []).run start
  guard (s.rest.isEmpty && piece.depth ≤ nestingLimit && piece.pattern.size ≤ sizeLimit)
  return piece.pattern

end StubServer.Regex

namespace StubServer

structure Regex where
  pattern : Regex.Pattern Regex.CharClass Regex.Anchor
  deriving Repr

namespace Regex

def compile? (text : String) (caseSensitive : Bool) : Option Regex :=
  (readPattern? (!caseSensitive) text).map Regex.mk

def isMatch (regex : Regex) (text : String) : Bool := regex.pattern.occursIn text.toList

end Regex

end StubServer
