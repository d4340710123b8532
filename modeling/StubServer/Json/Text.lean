import StubServer.Json.NumberText
import StubServer.Document.Node

namespace StubServer.Json

open Document (Node Frame Source)

/-- A text with a hole for each ill-formed part of the bytes it came from. A hole inside a string
makes the string unreadable; anywhere else it makes the text ill-formed. -/
abbrev Chars := List (Option Char)

def isJsonBlank (c : Option Char) : Bool :=
  c = some ' ' || c = some '\n' || c = some '\t' || c = some '\r'

def skipBlanks (src : Chars) : Chars := src.dropWhile isJsonBlank

def hexValue? (c : Char) : Option Nat :=
  if '0' ≤ c ∧ c ≤ '9' then some (c.toNat - 48)
  else if 'a' ≤ c ∧ c ≤ 'f' then some (c.toNat - 87)
  else if 'A' ≤ c ∧ c ≤ 'F' then some (c.toNat - 55)
  else none

/-- Where in a string the reader stands: among plain characters, after a backslash, or inside a
numeric escape with digits still to come. `high` is the first half of a character in two escapes. -/
inductive StringState where
  | plain
  | escape
  | hex (left value : Nat)

def shortEscape? (c : Char) : Option Char :=
  match c with
  | '"' | '\\' | '/' => some c
  | 'b' => some '\x08'
  | 'f' => some '\x0c'
  | 'n' => some '\n'
  | 'r' => some '\r'
  | 't' => some '\t'
  | _ => none

structure StringSoFar where
  done : List Char
  high : Option Nat
  lost : Bool

namespace StringSoFar

def push (s : StringSoFar) (c : Char) : StringSoFar := ⟨c :: s.done, none, s.lost || s.high.isSome⟩

def pushUnit (s : StringSoFar) (n : Nat) : StringSoFar :=
  -- A second half counts only right after a first half.
  if 0xdc00 ≤ n ∧ n < 0xe000 then
    match s.high with
    | some h =>
      ⟨Char.ofNat (0x10000 + (h - 0xd800) * 0x400 + (n - 0xdc00)) :: s.done, none, s.lost⟩
    | none => ⟨s.done, none, true⟩
  else if 0xd800 ≤ n ∧ n < 0xdc00 then ⟨s.done, some n, s.lost || s.high.isSome⟩
  else s.push (Char.ofNat n)

def node (s : StringSoFar) : Node :=
  if s.lost || s.high.isSome then .unreadable else .text (String.ofList s.done.reverse)

end StringSoFar

def readString : StringState → StringSoFar → Chars → Option (Node × Chars)
  | _, _, [] => none
  | .plain, s, c :: rest =>
    match c with
    | none => readString .plain { s with lost := true } rest
    | some '"' => some (s.node, rest)
    | some '\\' => readString .escape s rest
    | some c => if c.toNat < 0x20 then none else readString .plain (s.push c) rest
  | .escape, s, c :: rest =>
    match c with
    | some 'u' => readString (.hex 4 0) s rest
    | some c => match shortEscape? c with
      | some c => readString .plain (s.push c) rest
      | none => none
    | none => none
  | .hex left value, s, c :: rest =>
    match c.bind hexValue? with
    | none => none
    | some d =>
      if left ≤ 1 then readString .plain (s.pushUnit (value * 16 + d)) rest
      else readString (.hex (left - 1) (value * 16 + d)) s rest

def takeDigits : Chars → List Nat × Chars
  | some c :: rest =>
    if c.isDigit then
      let (digits, rest) := takeDigits rest
      ((c.toNat - 48) :: digits, rest)
    else ([], some c :: rest)
  | src => ([], src)

def readNumber (negative : Bool) (src : Chars) : Option (Node × Chars) := do
  let (whole, rest) := takeDigits src
  -- No zero before other digits.
  guard (whole.length = 1 ∨ whole.head? ≠ some 0)
  guard !whole.isEmpty
  let (fraction, rest) ← match rest with
    | some '.' :: rest =>
      let (digits, rest) := takeDigits rest
      if digits.isEmpty then none else some (some digits, rest)
    | _ => some (none, rest)
  let (exponent, rest) ← match rest with
    | some e :: rest' =>
      if e = 'e' ∨ e = 'E' then
        let (down, rest') := match rest' with
          | some '+' :: r => (false, r)
          | some '-' :: r => (true, r)
          | r => (false, r)
        let (digits, rest') := takeDigits rest'
        if digits.isEmpty then none else some (some (down, digits), rest')
      else some (none, rest)
    | _ => some (none, rest)
  match NumberText.value? ⟨negative, whole, fraction, exponent⟩ with
  | some (.int i) => some (.int i, rest)
  | some (.float x) => some (.float x, rest)
  | none => some (.unreadable, rest)

def readWord (word : String) (node : Node) (src : Chars) : Option (Node × Chars) :=
  let expected := word.toList.map some
  if expected.isPrefixOf src then some (node, src.drop expected.length) else none

def nestingLimit : Nat := 127

def orBroken : Option (Node × Chars) → Node × Option Chars
  | some (node, rest) => (node, some rest)
  | none => (.broken, none)

mutual

def readValue : Nat → Nat → Chars → Node × Option Chars
  | 0, _, _ => (.broken, none)
  | fuel + 1, depth, src =>
    match skipBlanks src with
    | some c :: rest =>
      if c = '\x7b' then
        let (entries, rest) := readEntries fuel (depth + 1) true rest
        (.table entries ⟨rest.isSome, nestingLimit ≤ depth, none⟩, rest)
      else if c = '[' then
        let (items, rest) := readItems fuel (depth + 1) true rest
        (.list items ⟨rest.isSome, nestingLimit ≤ depth, none⟩, rest)
      else if c = '"' then orBroken (readString .plain ⟨[], none, false⟩ rest)
      else if c = '-' then orBroken (readNumber true rest)
      else if c.isDigit then orBroken (readNumber false (some c :: rest))
      else if c = 'n' then orBroken (readWord "null" .null (some c :: rest))
      else if c = 't' then orBroken (readWord "true" (.bool true) (some c :: rest))
      else if c = 'f' then orBroken (readWord "false" (.bool false) (some c :: rest))
      else (.broken, none)
    | _ => (.broken, none)

def readItems : Nat → Nat → Bool → Chars → List Node × Option Chars
  | 0, _, _, _ => ([], none)
  | fuel + 1, depth, isFirst, src =>
    match isFirst, skipBlanks src with
    | true, some ']' :: rest => ([], some rest)
    | true, rest => readItem fuel depth rest
    | false, some ']' :: rest => ([], some rest)
    | false, some ',' :: rest =>
      match skipBlanks rest with
      | some ']' :: _ => ([], none)
      | rest => readItem fuel depth rest
    | false, _ => ([], none)

def readItem : Nat → Nat → Chars → List Node × Option Chars
  | 0, _, _ => ([], none)
  | fuel + 1, depth, src =>
    match src with
    | [] => ([], none)
    | _ =>
      match readValue fuel depth src with
      | (item, none) => ([item], none)
      | (item, some rest) =>
        let (items, rest) := readItems fuel depth false rest
        (item :: items, rest)

def readEntries : Nat → Nat → Bool → Chars → List (Node × Node) × Option Chars
  | 0, _, _, _ => ([], none)
  | fuel + 1, depth, isFirst, src =>
    match isFirst, skipBlanks src with
    | _, some '\x7d' :: rest => ([], some rest)
    | true, some '"' :: rest => readEntry fuel depth rest
    | false, some ',' :: rest =>
      match skipBlanks rest with
      | some '"' :: rest => readEntry fuel depth rest
      | _ => ([], none)
    | _, _ => ([], none)

def readEntry : Nat → Nat → Chars → List (Node × Node) × Option Chars
  | 0, _, _ => ([], none)
  | fuel + 1, depth, src =>
    match readString .plain ⟨[], none, false⟩ src with
    | none => ([], none)
    | some (key, rest) =>
      match skipBlanks rest with
      | some ':' :: rest =>
        match readValue fuel depth rest with
        | (value, none) => ([(key, value)], none)
        | (value, some rest) =>
          let (entries, rest) := readEntries fuel depth false rest
          ((key, value) :: entries, rest)
      | _ => ([(key, .broken)], none)

end

def parseChars (src : Chars) : Source :=
  let (root, rest) := readValue (3 * src.length + 3) 0 src
  ⟨root, match rest with
    | some rest => !(skipBlanks rest).isEmpty
    | none => false⟩

def parse (s : String) : Source := parseChars (s.toList.map some)

def parseBytes (bytes : Bytes) : Source := parseChars (Text.Utf8.scan .between bytes)

end StubServer.Json
