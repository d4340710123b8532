import StubServer.Clock.Duration
import StubServer.Text.Category

namespace StubServer

/-- Seconds since the beginning of 1970 and nanoseconds after that; a leap second has a billion
nanoseconds more. -/
structure Timestamp where
  seconds : Int
  nanos : Nat
  deriving DecidableEq, Repr

namespace Timestamp

inductive Problem where
  | invalid
  | tooShort
  | outOfRange
  | impossible
  | trailing
  deriving DecidableEq, Repr

def Problem.message : Problem → String
  | .invalid => "input contains invalid characters"
  | .tooShort => "premature end of input"
  | .outOfRange => "input is out of range"
  | .impossible => "no possible date and time matching input"
  | .trailing => "trailing input"

def daysBeforeMonth (month : Nat) : Nat := (153 * month + 2) / 5

def daysOfDate (year : Int) (month day : Nat) : Int :=
  -- Years begin in March here, so that a leap day is the last of its year.
  let year := if month ≤ 2 then year - 1 else year
  let era := year.fdiv 400
  let yearOfEra := (year - era * 400).toNat
  let dayOfYear := daysBeforeMonth ((month + 9) % 12) + day - 1
  let dayOfEra := yearOfEra * 365 + yearOfEra / 4 - yearOfEra / 100 + dayOfYear
  era * 146097 + dayOfEra - 719468

def dateOfDays (days : Int) : Int × Nat × Nat :=
  let days := days + 719468
  let era := days.fdiv 146097
  let dayOfEra := (days - era * 146097).toNat
  let yearOfEra := (dayOfEra - dayOfEra / 1460 + dayOfEra / 36524 - dayOfEra / 146096) / 365
  let dayOfYear := dayOfEra - (365 * yearOfEra + yearOfEra / 4 - yearOfEra / 100)
  let monthFromMarch := (5 * dayOfYear + 2) / 153
  let day := dayOfYear - daysBeforeMonth monthFromMarch + 1
  let month := if monthFromMarch < 10 then monthFromMarch + 3 else monthFromMarch - 9
  (era * 400 + yearOfEra + (if month ≤ 2 then 1 else 0), month, day)

def isLeapYear (year : Int) : Bool := year % 4 = 0 && (year % 100 != 0 || year % 400 = 0)

def daysOfMonth (year : Int) (month : Nat) : Nat :=
  if month = 2 then if isLeapYear year then 29 else 28
  else if [4, 6, 9, 11].contains month then 30 else 31

def isYear (year : Int) : Bool := -262143 ≤ year && year ≤ 262142

def padded (width n : Nat) : String :=
  let digits := Nat.toDigits 10 n
  String.ofList (List.replicate (width - digits.length) '0' ++ digits)

def yearText (year : Int) : String :=
  if 0 ≤ year ∧ year ≤ 9999 then padded 4 year.toNat
  else (if year < 0 then "-" else "+") ++ padded 4 year.natAbs

def fractionText (nanos : Nat) : String :=
  if nanos = 0 then ""
  else if nanos % 1000000 = 0 then "." ++ padded 3 (nanos / 1000000)
  else if nanos % 1000 = 0 then "." ++ padded 6 (nanos / 1000)
  else "." ++ padded 9 nanos

def text (t : Timestamp) : String :=
  let days := t.seconds.fdiv 86400
  let second := (t.seconds - days * 86400).toNat
  let (year, month, day) := dateOfDays days
  let leap := 1000000000 ≤ t.nanos
  yearText year ++ "-" ++ padded 2 month ++ "-" ++ padded 2 day ++ "T"
    ++ padded 2 (second / 3600) ++ ":" ++ padded 2 (second / 60 % 60) ++ ":"
    ++ padded 2 (second % 60 + (if leap then 1 else 0))
    ++ fractionText (if leap then t.nanos - 1000000000 else t.nanos) ++ "Z"

abbrev Read := StateT (List Char) (Except Problem)

def skipBlanks : Read Unit := modify (·.dropWhile Text.isBlank)

def leadingDigits (most : Nat) (cs : List Char) : List Char := (cs.take most).takeWhile Char.isDigit

def digitsValue (digits : List Char) : Nat := digits.foldl (fun n c => 10 * n + (c.toNat - 48)) 0

def number (most : Nat) : Read Nat := do
  let cs ← get
  let digits := leadingDigits most cs
  match digits, cs with
  | [], [] => throw .tooShort
  | [], _ => throw .invalid
  | _, _ =>
    if 1 <<< 63 ≤ digitsValue digits then throw .outOfRange
    set (cs.drop digits.length)
    return digitsValue digits

def numberBetween (low high : Nat) : Read Nat := do
  skipBlanks
  let n ← number 2
  if low ≤ n ∧ n ≤ high then return n else throw .outOfRange

def yearNumber : Read Int := do
  skipBlanks
  let cs ← get
  let year ← match cs with
    | '-' :: rest => set rest; pure (- Int.ofNat (← number rest.length))
    | '+' :: rest => set rest; pure (Int.ofNat (← number rest.length))
    | _ => pure (Int.ofNat (← number 4))
  if -(1 <<< 31 : Nat) ≤ year ∧ year < (1 <<< 31 : Nat) then return year else throw .outOfRange

def separator (c : Char) : Read Unit := do
  skipBlanks
  match ← get with
  | [] => throw .tooShort
  | d :: rest => if d = c then set rest else throw .invalid

def fraction : Read Nat := do
  match ← get with
  | '.' :: rest =>
    set rest
    let digits := leadingDigits 9 rest
    let n ← number 9
    modify (·.dropWhile Char.isDigit)
    return n * Nat.pow 10 (9 - digits.length)
  | _ => return 0

def twoDigits (cs : List Char) : Except Problem Nat :=
  match cs with
  | a :: b :: _ => if a.isDigit ∧ b.isDigit then .ok (digitsValue [a, b]) else .error .invalid
  | _ => .error .tooShort

def offset : Read Int := do
  skipBlanks
  match ← get with
  | [] => throw .tooShort
  | c :: rest =>
    if (String.ofList ((c :: rest).take 3)).toUpper = "UTC" then
      set (rest.drop 2)
      return 0
    else if c = 'Z' ∨ c = 'z' then
      set rest
      return 0
    else if c = '+' ∨ c = '-' ∨ c = '\u2212' then
      let hours ← twoDigits rest
      let rest := (rest.drop 2).dropWhile fun d => d = ':' || Text.isBlank d
      let minutes ← twoDigits rest
      if 60 ≤ minutes then throw .outOfRange
      set (rest.drop 2)
      let seconds : Int := hours * 3600 + minutes * 60
      return if c = '+' then seconds else -seconds
    else throw .invalid

def dateEnd : Read Unit := do
  match ← get with
  | [] => throw .tooShort
  | c :: rest => if c = 't' ∨ c = 'T' ∨ c = ' ' then set rest else throw .invalid

def reader : Read Timestamp := do
  let year ← yearNumber
  separator '-'
  let month ← numberBetween 1 12
  separator '-'
  let day ← numberBetween 1 31
  dateEnd
  let hour ← numberBetween 0 23
  separator ':'
  let minute ← numberBetween 0 59
  separator ':'
  let second ← numberBetween 0 60
  let nanos ← fraction
  let offset ← offset
  skipBlanks
  if !(← get).isEmpty then throw .trailing
  if !isYear year ∨ daysOfMonth year month < day ∨ 86400 ≤ offset.natAbs then throw .outOfRange
  -- A leap second is the second before it with a billion nanoseconds more.
  let leap := second = 60
  let seconds := daysOfDate year month day * 86400 + hour * 3600 + minute * 60
    + (if leap then 59 else second) - offset
  if !isYear (dateOfDays (seconds.fdiv 86400)).1 then throw .impossible
  return ⟨seconds, nanos + (if leap then 1000000000 else 0)⟩

def parse (s : String) : Except Problem Timestamp := (·.1) <$> reader.run s.toList

end Timestamp

end StubServer
