import TypeExport.Toml.Scan
import TypeExport.Tree

/-! # Numbers, Dates and Times in TOML

    Underscores may stand between digits.  An integer takes a signed word of 64 bits, whatever base
    it is written in.  A decimal number is the nearest double; one beyond the largest double is
    refused, one beyond the least is not.

    A date or a time has no type of its own among data: it is a record with one entry that only
    this format writes. -/

namespace TypeExport.Toml

open Scan

/-! ## Section 1: Digits -/

/-- Whether `c` is a decimal digit. -/
def isDigit (c : Char) : Bool := '0' ≤ c && c ≤ '9'

/-- The value of a digit in a base up to sixteen. -/
def digitValue (c : Char) : Nat :=
  if isDigit c then c.toNat - '0'.toNat else 10 + (c.toNat - 'A'.toNat) % 32

/-- The value of digits in a base. -/
def valueOf (base : Nat) (ds : List Char) : Nat :=
  ds.foldl (fun n c => base * n + digitValue c) 0

/-- Digits of a class, with single underscores between them. -/
def underscored (p : Char → Bool) : Scan (List Char) := do
  let first ← one p
  let rest ← many (do let _ ← optional (char '_'); one p)
  return first :: rest

/-- A sign: whether it is a minus. -/
def sign : Scan Bool := do
  match ← optional (one fun c => c == '+' || c == '-') with
  | some c => return c == '-'
  | none => return false

/-- The digits of a decimal integer; only zero itself begins with a zero. -/
def wholeDigits : Scan (List Char) := (do char '0'; return ['0']) <|> underscored isDigit

/-! ## Section 2: Integers -/

/-- An integer in a base named by its mark. -/
def basedInteger (mark : String) (base : Nat) (p : Char → Bool) : Scan Int := do
  word mark
  return valueOf base (← underscored p)

/-- A decimal integer. -/
def decimalInteger : Scan Int := do
  let negative ← sign
  let n : Int := valueOf 10 (← wholeDigits)
  return if negative then -n else n

/-- An integer that fits into a word. -/
def integer : Scan Tree := do
  let i ← basedInteger "0x" 16 (fun c => isDigit c || ('a' ≤ c && c ≤ 'f') || ('A' ≤ c && c ≤ 'F'))
    <|> basedInteger "0o" 8 (fun c => '0' ≤ c && c ≤ '7')
    <|> basedInteger "0b" 2 (fun c => c == '0' || c == '1')
    <|> decimalInteger
  if -(Tree.negativeValues : Int) ≤ i ∧ i < Tree.negativeValues then return .integer i else failure

/-! ## Section 3: Decimal numbers -/

/-- The double nearest to m · 10^e.  Far outside the range of doubles the power is not computed. -/
def nearest (m : Nat) (e : Int) : Float :=
  let size := (Nat.toDigits 10 m).length + e
  if m = 0 ∨ size < -330 then 0
  else if 310 < size then 1 / 0
  else Float.ofScientific m (e < 0) e.natAbs

/-- A power of ten. -/
def exponent : Scan Int := do
  let _ ← one fun c => c == 'e' || c == 'E'
  let negative ← sign
  let n : Int := valueOf 10 (← underscored isDigit)
  return if negative then -n else n

/-- The digits after a point. -/
def fraction : Scan (List Char) := do
  char '.'
  underscored isDigit

/-- A number with a fraction, a power of ten, or both. -/
def decimal : Scan Tree := do
  let negative ← sign
  let whole ← wholeDigits
  let ds ← optional fraction
  let e ← match ds with
    | none => some <$> exponent
    | some _ => optional exponent
  let ds := ds.getD []
  let f := nearest (valueOf 10 (whole ++ ds)) (e.getD 0 - ds.length)
  -- Only the positive side is checked: a number beyond the least double becomes infinite.
  if f.isInf && !negative then failure
  else return .float (if negative then -f else f).toBits

/-- Infinity, or what is not a number. -/
def special : Scan Tree := do
  let negative ← sign
  let f ← (do word "inf"; return (1 / 0 : Float)) <|> (do word "nan"; return (0 / 0 : Float))
  return .float (if negative then -f else f).toBits

/-! ## Section 4: Dates and times -/

/-- A number of exactly `n` digits between two bounds. -/
def bounded (n low high : Nat) : Scan Nat := do
  let v := valueOf 10 (← exactly n isDigit)
  guard (low ≤ v && v ≤ high)
  return v

/-- The number of days of a month. -/
def daysIn (year month : Nat) : Nat :=
  if month = 2 then
    if year % 4 = 0 ∧ (year % 100 ≠ 0 ∨ year % 400 = 0) then 29 else 28
  else if month ∈ [4, 6, 9, 11] then 30
  else 31

/-- A date. -/
def date : Scan Unit := do
  let year ← bounded 4 0 9999
  char '-'
  let month ← bounded 2 1 12
  char '-'
  let _ ← bounded 2 1 (daysIn year month)

/-- A time of the day. -/
def time : Scan Unit := do
  let _ ← bounded 2 0 23
  char ':'
  let _ ← bounded 2 0 59
  char ':'
  let _ ← bounded 2 0 60
  let _ ← optional (do char '.'; let _ ← span1 isDigit)

/-- The distance to universal time. -/
def zone : Scan Unit :=
  (do let _ ← one fun c => c == 'Z' || c == 'z') <|> do
    let _ ← one fun c => c == '+' || c == '-'
    let _ ← bounded 2 0 23
    char ':'
    let _ ← bounded 2 0 59

/-- The entry that holds a date or a time. -/
def dateTimeKey : String := "date-time"

/-- A date, a time, or both. -/
def dateTime : Scan Tree := do
  let before ← get
  (do
    date
    let _ ← optional (do
      let _ ← one fun c => c == 'T' || c == 't' || c == ' '
      time
      let _ ← optional zone)) <|> time
  let after ← get
  return .record [(dateTimeKey, .text (String.ofList (before.take (before.length - after.length))))]

end TypeExport.Toml
