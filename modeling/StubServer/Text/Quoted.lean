import StubServer.Text.Hidden
import StubServer.Text.Utf8

namespace StubServer.Text

def hexDigits (n : Nat) : String := String.ofList (Nat.toDigits 16 n)

def numberEscape (c : Char) : String := "\\u\x7b" ++ hexDigits c.toNat ++ "\x7d"

def quotedChar (c : Char) : String :=
  if c = '"' then "\\\""
  else if c = '\\' then "\\\\"
  else if c = '\n' then "\\n"
  else if c = '\r' then "\\r"
  else if c = '\t' then "\\t"
  else if c.toNat = 0 then "\\0"
  else if 0x20 ≤ c.toNat ∧ c.toNat < 0x7f then c.toString
  else if isHidden c then numberEscape c
  else c.toString

def quoted (s : String) : String :=
  "\"" ++ String.join (s.toList.map quotedChar) ++ "\""

def hexByte (b : UInt8) : String :=
  String.ofList [Nat.digitChar (b.toNat / 16), Nat.digitChar (b.toNat % 16)]

def quotedByte (b : UInt8) : String :=
  let n := b.toNat
  if n = 0x22 then "\\\""
  else if n = 0x5c then "\\\\"
  else if n = 0xa then "\\n"
  else if n = 0xd then "\\r"
  else if n = 9 then "\\t"
  else if n = 0 then "\\0"
  else if 0x20 ≤ n ∧ n < 0x7f then (Char.ofNat n).toString
  else "\\x" ++ hexByte b

def quotedBytes (bytes : Bytes) : String :=
  "b\"" ++ String.join (bytes.map quotedByte) ++ "\""

def shownOption {α : Type} (shown : α → String) : Option α → String
  | none => "None"
  | some a => "Some(" ++ shown a ++ ")"

def shownList {α : Type} (shown : α → String) (items : List α) : String :=
  "[" ++ ", ".intercalate (items.map shown) ++ "]"

def shownRecord (name : String) (fields : List (String × String)) : String :=
  name ++ " \x7b " ++ ", ".intercalate (fields.map fun (k, v) => k ++ ": " ++ v) ++ " \x7d"

def shownBool (b : Bool) : String := if b then "true" else "false"

end StubServer.Text
