import ScriptHost.Toml.Scan

/-!
# Numbers and moments

* `Toml.integer` — decimal, hexadecimal, octal and binary integers of 64 bits.
* `Toml.float` — decimal fractions, infinities and NaNs.
* `Toml.moment` — dates, times, and both together.
-/

namespace ScriptHost.Toml

open Scan

/-! ## Digits -/

/-- A run of digits. An underscore may stand between two digits. -/
def digits (isDigit : Char → Bool) : Scan (List Char) := do
  let groups ← separated1 (takeWhile1 isDigit) (char '_')
  pure groups.flatten

/-- The value of a digit in a base up to sixteen. -/
def digitValue (c : Char) : Nat :=
  if c.isDigit then c.toNat - '0'.toNat
  else if 'a' ≤ c then c.toNat - 'a'.toNat + 10
  else c.toNat - 'A'.toNat + 10

/-- The value of digits. -/
def valueOf (base : Nat) (cs : List Char) : Nat :=
  cs.foldl (fun n c => n * base + digitValue c) 0

/-- A sign, which may be missing: whether it is a minus. -/
def sign : Scan Bool := do
  match ← optional (satisfying fun c => c == '+' || c == '-') with
  | some c => pure (c == '-')
  | none => pure false

/-- The digits of a decimal integer, which begin with a zero only if there is no other. -/
def wholeDigits : Scan (List Char) :=
  (do
    let first ← satisfying fun c => '1' ≤ c && c ≤ '9'
    let more ← repeated (takeWhile1 Char.isDigit <|> do
      char '_'
      takeWhile1 Char.isDigit)
    pure (first :: more.flatten))
  <|> do
    char '0'
    pure ['0']

/-! ## Integers -/

/-- An integer that fits into 64 bits. -/
def fitting (n : Int) : Scan Int64 :=
  if Int64.minValue.toInt ≤ n && n ≤ Int64.maxValue.toInt then pure (Int64.ofInt n) else failure

/-- A hexadecimal digit. -/
def isHexDigit (c : Char) : Bool :=
  c.isDigit || ('a' ≤ c && c ≤ 'f') || ('A' ≤ c && c ≤ 'F')

/-- An integer in another base, after its mark. -/
def inBase (mark : String) (base : Nat) (isDigit : Char → Bool) : Scan Int64 := do
  word mark
  let cs ← digits isDigit
  fitting (valueOf base cs)

/-- A decimal integer. -/
def decimalInteger : Scan Int64 := do
  let negative ← sign
  let n := valueOf 10 (← wholeDigits)
  fitting (if negative then -(n : Int) else n)

/-- An integer. -/
def integer : Scan Int64 :=
  inBase "0x" 16 isHexDigit
  <|> inBase "0o" 8 (fun c => '0' ≤ c && c ≤ '7')
  <|> inBase "0b" 2 (fun c => c == '0' || c == '1')
  <|> decimalInteger

/-! ## Floats -/

/-- The number nearest to `m * 10 ^ e`. What is out of the range of numbers is not computed. -/
def nearest (m : Nat) (e : Int) : Number :=
  let magnitude := (Nat.toDigits 10 m).length + e
  if m = 0 || magnitude < -400 then ⟨0⟩
  else if 400 < magnitude then ⟨0x7ff0000000000000⟩
  else ⟨(Float.ofScientific m (e < 0) e.natAbs).toBits⟩

/-- A number with the sign bit set or left. -/
def signed (negative : Bool) (x : Number) : Number :=
  if negative then ⟨x.bits ||| 0x8000000000000000⟩ else x

/-- The digits after a decimal point. -/
def fractionDigits : Scan (List Char) := do
  char '.'
  digits Char.isDigit

/-- A power of ten. -/
def exponentPart : Scan Int := do
  let _ ← satisfying fun c => c == 'e' || c == 'E'
  let negative ← sign
  let n := valueOf 10 (← digits Char.isDigit)
  pure (if negative then -(n : Int) else n)

/-- A decimal fraction: digits, and a fraction or an exponent or both. It must not be greater
than every number. -/
def decimalFloat : Scan Number := do
  let negative ← sign
  let whole ← wholeDigits
  let (fraction, e) ← (do
      let fraction ← fractionDigits
      let e ← optional exponentPart
      pure (fraction, e.getD 0))
    <|> do
      let e ← exponentPart
      pure ([], e)
  let x := signed negative (nearest (valueOf 10 (whole ++ fraction)) (e - fraction.length))
  if x.isInfinite && !negative then failure else pure x

/-- An infinity or a NaN. -/
def specialFloat : Scan Number := do
  let negative ← sign
  let x : Number ← (do word "inf"; pure ⟨0x7ff0000000000000⟩)
    <|> (do word "nan"; pure ⟨0x7ff8000000000000⟩)
  pure (signed negative x)

/-- A float. -/
def float : Scan Number := decimalFloat <|> specialFloat

/-! ## Moments -/

/-- The number of exactly `n` decimal digits, after `value`. -/
def fixedDigits : Nat → Nat → Scan Nat
  | 0, value => pure value
  | n + 1, value => do
    let c ← satisfying Char.isDigit
    fixedDigits n (value * 10 + digitValue c)

/-- A number of two digits in a range. -/
def twoDigits (low high : Nat) : Scan Nat := do
  let n ← fixedDigits 2 0
  if low ≤ n && n ≤ high then pure n else failure

/-- The number of days in a month. -/
def daysIn (year month : Nat) : Nat :=
  if month = 2 then
    if (year % 4 = 0 && year % 100 ≠ 0) || year % 400 = 0 then 29 else 28
  else if month = 4 || month = 6 || month = 9 || month = 11 then 30
  else 31

/-- A date that is in the calendar. -/
def date : Scan Unit := do
  let year ← fixedDigits 4 0
  char '-'
  let month ← twoDigits 1 12
  char '-'
  let _ ← twoDigits 1 (daysIn year month)

/-- A time of day. A minute may have a leap second. -/
def time : Scan Unit := do
  let _ ← twoDigits 0 23
  char ':'
  let _ ← twoDigits 0 59
  char ':'
  let _ ← twoDigits 0 60
  let _ ← optional do
    char '.'
    takeWhile1 Char.isDigit

/-- The distance from universal time. -/
def offset : Scan Unit := do
  let c ← satisfying fun c => c == 'Z' || c == 'z' || c == '+' || c == '-'
  if c == '+' || c == '-' then
    let _ ← twoDigits 0 23
    char ':'
    let _ ← twoDigits 0 59

/-- A date, perhaps with a time and an offset, or a time alone. -/
def moment : Scan Unit :=
  (do
    date
    let _ ← optional do
      let _ ← satisfying fun c => c == 'T' || c == 't' || c == ' '
      time
      optional offset)
  <|> time

end ScriptHost.Toml
