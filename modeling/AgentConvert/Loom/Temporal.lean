import AgentConvert.Lib.Text
import AgentConvert.Loom.Core

/-!
# Timestamps

Recorded times are UTC texts in ISO 8601 with whole seconds, or with exactly three fractional
digits.  `iso8601ToEpochMs?` reads them; every other spelling is refused.
-/

namespace AgentConvert

/-- Exactly `size` decimal digits. -/
def takeDigits (size : Nat) (chars : List Char) : Option (Nat × List Char) :=
  let digits := chars.take size
  if digits.length == size && digits.all Char.isDigit then
    some (Text.digitsValue digits, chars.drop size)
  else
    none

/-- A number of exactly `size` digits between `low` and `high`. -/
def takeBounded (size low high : Nat) (chars : List Char) : Option (Nat × List Char) := do
  let (value, rest) ← takeDigits size chars
  guard (low ≤ value && value ≤ high)
  pure (value, rest)

/-- The character `c`. -/
def takeChar (c : Char) : List Char → Option (List Char)
  | c' :: rest => if c' == c then some rest else none
  | [] => none

/-- A leap year of the Gregorian calendar. -/
def isLeapYear (y : Int) : Bool :=
  y.tmod 4 = 0 ∧ (y.tmod 100 ≠ 0 ∨ y.tmod 400 = 0)

/-- The number of days of a month. -/
def daysInMonth (leap : Bool) (month : Nat) : Nat :=
  if month = 2 then (if leap then 29 else 28)
  else if month = 4 ∨ month = 6 ∨ month = 9 ∨ month = 11 then 30 else 31

/-- The days from the Unix epoch to a date of the proleptic Gregorian calendar. -/
def toEpochDay (year : Int) (month day : Nat) : Int :=
  let y : Int := if month > 2 then year else year - 1
  let era : Int := (if y ≥ 0 then y else y - 399).tdiv 400
  let yoe : Int := y - era * 400
  let m : Int := month
  let doy := (153 * (m + (if m > 2 then -3 else 9)) + 2).tdiv 5 + day - 1
  let doe := yoe * 365 + yoe.tdiv 4 - yoe.tdiv 100 + doy
  era * 146097 + doe - 719468

/-- The milliseconds since the epoch of a text of the form `uuuu-MM-ddTHH:mm:ssZ`.  The year may
carry a sign; the date must exist; a time before the epoch is refused. -/
def wholeSecondEpochMs? (value : String) : Option Nat := do
  let chars := value.toList
  let (negative, chars) := match chars with
    | '-' :: rest => (true, rest)
    | _ => (false, chars)
  let (digits, chars) ← takeDigits 4 chars
  let year : Int := if negative then -digits else digits
  let (month, chars) ← takeBounded 2 1 12 (← takeChar '-' chars)
  let (day, chars) ← takeBounded 2 1 31 (← takeChar '-' chars)
  let (hour, chars) ← takeBounded 2 0 23 (← takeChar 'T' chars)
  let (minute, chars) ← takeBounded 2 0 59 (← takeChar ':' chars)
  let (second, chars) ← takeBounded 2 0 59 (← takeChar ':' chars)
  guard (chars == ['Z'])
  guard (day ≤ daysInMonth (isLeapYear year) month)
  let seconds := toEpochDay year month day * 86400 + hour * 3600 + minute * 60 + second
  guard (seconds ≥ 0)
  pure (seconds.natAbs * 1000)

/-- The UTC forms the harnesses write: whole seconds, or exactly three fractional digits. -/
def iso8601ToEpochMs? (value : String) : Option Timestamp := do
  guard (Text.endsWith value "Z")
  let body := Text.dropEnd value 1
  match Text.splitOnChar body '.' with
  | [whole] => pure ⟨← wholeSecondEpochMs? (whole ++ "Z")⟩
  | [whole, fraction] =>
    guard (fraction.length == 3)
    guard (fraction.toList.all Char.isDigit)
    pure ⟨(← wholeSecondEpochMs? (whole ++ "Z")) + Text.digitsValue fraction.toList⟩
  | _ => none

/-- A day that its month does not have is refused. -/
example : iso8601ToEpochMs? "2024-07-03T09:46:40.001Z" = some ⟨1720000000001⟩ ∧
    iso8601ToEpochMs? "2024-02-30T09:46:40Z" = none := by decide +kernel

end AgentConvert
