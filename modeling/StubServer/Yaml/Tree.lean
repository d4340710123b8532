import StubServer.Yaml.Lexer
import StubServer.Document.Scalar

namespace StubServer.Yaml

open StubServer.Document (Scalar ScalarStyle coreTag)

inductive Tree where
  | scalar (s : Scalar)
  | list (items : List Tree) (tag : Option String)
  | table (entries : List (Tree × Tree)) (tag : Option String)
  | reference (id : Nat)
  deriving Repr

def Tree.empty : Tree := .scalar ⟨"", .plain, none⟩

/-- The anchors of a document. A name stands for a number, which counts the names known when it was
given; a number stands for the place it was given to last; a place holds a tree. -/
structure Anchors where
  names : List (String × Nat)
  places : List (Nat × Nat)
  trees : List (Nat × Tree)
  next : Nat

def Anchors.none : Anchors := ⟨[], [], [], 0⟩

def assign {α β : Type} [DecidableEq α] (key : α) (value : β) (entries : List (α × β)) :
    List (α × β) :=
  (key, value) :: entries.filter (·.1 ≠ key)

namespace Anchors

def name (a : Anchors) (s : String) : Nat × Anchors :=
  let id := a.names.length
  (a.next, { a with
    names := assign s id a.names, places := assign id a.next a.places, next := a.next + 1 })

def put (a : Anchors) (place : Nat) (tree : Tree) : Anchors :=
  { a with trees := (place, tree) :: a.trees }

def tree? (a : Anchors) (id : Nat) : Option Tree := do
  a.trees.lookup (← a.places.lookup id)

end Anchors

structure Composer where
  words : List Token
  handles : List (String × String)
  anchors : Anchors

abbrev Compose := StateT Composer Option

namespace Compose

def peek : Compose Token := do return (← get).words.headD .streamEnd

def advance : Compose Unit := modify fun c => { c with words := c.words.tail }

def resolveTag (handle suffix : String) : Compose String := do
  if handle.isEmpty then return suffix
  match (← get).handles.lookup handle with
  | some lead => return lead ++ suffix
  | none => failure

def properties : Compose (Option String × Option String) := do
  match ← peek with
  | .anchor name =>
    advance
    match ← peek with
    | .tag handle suffix =>
      advance
      return (some name, some (← resolveTag handle suffix))
    | _ => return (some name, none)
  | .tag handle suffix =>
    advance
    match ← peek with
    | .anchor name =>
      advance
      return (some name, some (← resolveTag handle suffix))
    | _ => return (none, some (← resolveTag handle suffix))
  | _ => return (none, none)

def place (name : String) : Compose Nat := do
  let c ← get
  let (n, anchors) := c.anchors.name name
  set { c with anchors }
  return n

def keep (n : Option Nat) (tree : Tree) : Compose Tree := do
  match n with
  | some n => modify fun c => { c with anchors := c.anchors.put n tree }
  | none => pure ()
  return tree

def scalarTag (tag : Option String) : Option String := tag.filter (· ≠ "!")

mutual

def node : Nat → Bool → Bool → Compose Tree
  | 0, _, _ => failure
  | fuel + 1, inBlock, flat => do
    match ← peek with
    | .alias name =>
      advance
      match (← get).anchors.names.lookup name with
      | some id => return .reference id
      | none => failure
    | _ =>
      let (anchor, tag) ← properties
      let n ← anchor.mapM place
      match ← peek with
      | .scalar text style =>
        advance
        keep n (.scalar ⟨text, style, scalarTag tag⟩)
      | .flowSequenceStart =>
        advance
        keep n (.list (← flowItems fuel true) tag)
      | .flowMappingStart =>
        advance
        keep n (.table (← flowEntries fuel true) tag)
      | .blockSequenceStart =>
        if inBlock then
          advance
          keep n (.list (← blockItems fuel) tag)
        else bare n anchor tag
      | .blockMappingStart =>
        if inBlock then
          advance
          keep n (.table (← blockEntries fuel) tag)
        else bare n anchor tag
      | .blockEntry =>
        if flat then keep n (.list (← flatItems fuel) tag) else bare n anchor tag
      | _ => bare n anchor tag

def bare (n : Option Nat) (anchor tag : Option String) : Compose Tree :=
  if anchor.isSome || tag.isSome then keep n (.scalar ⟨"", .plain, tag⟩) else failure

def nodeOr (fuel : Nat) (inBlock flat : Bool) (ends : Token → Bool) : Compose Tree := do
  match fuel with
  | 0 => failure
  | fuel + 1 => if ends (← peek) then return .empty else node fuel inBlock flat

def blockItems : Nat → Compose (List Tree)
  | 0 => failure
  | fuel + 1 => do
    match ← peek with
    | .blockEntry =>
      advance
      let item ← nodeOr fuel true false fun t => t = .blockEntry || t = .blockEnd
      return item :: (← blockItems fuel)
    | .blockEnd =>
      advance
      return []
    | _ => failure

def flatItems : Nat → Compose (List Tree)
  | 0 => failure
  | fuel + 1 => do
    match ← peek with
    | .blockEntry =>
      advance
      let item ← nodeOr fuel true false fun t =>
        t = .blockEntry || t = .key || t = .value || t = .blockEnd
      return item :: (← flatItems fuel)
    | _ => return []

def blockValue : Nat → Compose Tree
  | 0 => failure
  | fuel + 1 => do
    match ← peek with
    | .value =>
      advance
      nodeOr fuel true true fun t => t = .key || t = .value || t = .blockEnd
    | _ => return .empty

def blockEntries : Nat → Compose (List (Tree × Tree))
  | 0 => failure
  | fuel + 1 => do
    match ← peek with
    | .key =>
      advance
      let key ← nodeOr fuel true true fun t => t = .key || t = .value || t = .blockEnd
      let value ← blockValue fuel
      return (key, value) :: (← blockEntries fuel)
    | .value =>
      let value ← blockValue fuel
      return (.empty, value) :: (← blockEntries fuel)
    | .blockEnd =>
      advance
      return []
    | _ => failure

def flowItems : Nat → Bool → Compose (List Tree)
  | 0, _ => failure
  | fuel + 1, isFirst => do
    if (← peek) = .flowSequenceEnd then
      advance
      return []
    unless isFirst do
      unless (← peek) = .flowEntry do failure
      advance
    match ← peek with
    | .flowSequenceEnd =>
      advance
      return []
    | .key =>
      advance
      let pair ← flowPair fuel
      return .table [pair] none :: (← flowItems fuel false)
    | _ =>
      let item ← node fuel false false
      return item :: (← flowItems fuel false)

/-- A single entry written as an item of a list between brackets. A missing key takes the word after
it along. -/
def flowPair : Nat → Compose (Tree × Tree)
  | 0 => failure
  | fuel + 1 => do
    let ends (t : Token) : Bool := t = .value || t = .flowEntry || t = .flowSequenceEnd
    let key ←
      if ends (← peek) then do
        advance
        pure .empty
      else node fuel false false
    match ← peek with
    | .value =>
      advance
      return (key, ← nodeOr fuel false false fun t => t = .flowEntry || t = .flowSequenceEnd)
    | _ => return (key, .empty)

def flowEntries : Nat → Bool → Compose (List (Tree × Tree))
  | 0, _ => failure
  | fuel + 1, isFirst => do
    if (← peek) = .flowMappingEnd then
      advance
      return []
    unless isFirst do
      unless (← peek) = .flowEntry do failure
      advance
    match ← peek with
    | .flowMappingEnd =>
      advance
      return []
    | .key =>
      advance
      let key ← nodeOr fuel false false fun t =>
        t = .value || t = .flowEntry || t = .flowMappingEnd
      let value ← flowValue fuel
      return (key, value) :: (← flowEntries fuel false)
    | _ =>
      let key ← node fuel false false
      return (key, .empty) :: (← flowEntries fuel false)

def flowValue : Nat → Compose Tree
  | 0 => failure
  | fuel + 1 => do
    match ← peek with
    | .value =>
      advance
      nodeOr fuel false false fun t => t = .flowEntry || t = .flowMappingEnd
    | _ => return .empty

end

def directives : Nat → Bool → List (String × String) → Compose (List (String × String))
  | 0, _, _ => failure
  | fuel + 1, versionSeen, handles => do
    match ← peek with
    | .version major minor =>
      guard (!versionSeen && major = 1 && (minor = 1 || minor = 2))
      advance
      directives fuel true handles
    | .tagDirective handle lead =>
      guard ((handles.lookup handle).isNone)
      advance
      directives fuel versionSeen ((handle, lead) :: handles)
    | _ => return handles

def knownHandles : List (String × String) := [("!", "!"), ("!!", coreTag "")]

def document (fuel : Nat) : Compose (Option Tree) := do
  match ← peek with
  | .streamEnd => return none
  | .version .. | .tagDirective .. | .documentStart =>
    let handles ← directives fuel false []
    modify fun c => { c with handles := handles ++ knownHandles }
    unless (← peek) = .documentStart do failure
    advance
    match ← peek with
    | .version .. | .tagDirective .. | .documentStart | .documentEnd | .streamEnd =>
      return some .empty
    | _ => some <$> node fuel true false
  | _ => some <$> node fuel true false

def epilogue : Nat → Compose Unit
  | 0 => failure
  | fuel + 1 => do
    match ← peek with
    | .documentEnd =>
      advance
      epilogue fuel
    | .streamEnd => return ()
    | _ => failure

end Compose

/-- The tree of the text with its anchors; nothing when it is ill-formed or holds several documents.
A text without a document is an empty one. -/
def parseTree? (s : String) : Option (Tree × Anchors) := do
  let words ← lex? s
  let fuel := 4 * words.length + 8
  let compose : Compose (Option Tree) := do
    let tree ← Compose.document fuel
    Compose.epilogue fuel
    return tree
  let (tree, c) ← compose.run ⟨words, Compose.knownHandles, .none⟩
  return (tree.getD .empty, c.anchors)

end StubServer.Yaml
