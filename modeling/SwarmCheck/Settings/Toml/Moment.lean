import SwarmCheck.Settings.Decimal
import SwarmCheck.Settings.Toml.Scan

/-!
# TOML dates and times

Dates, times of day and dates with a time. No option of a configuration is a moment, so only the
extent of one matters, and that its date is in the calendar.
-/

namespace SwarmCheck.Toml

set_option autoImplicit false

def scanFixed (count : Nat) (chars : Chars) : Scanned Nat :=
  let digits := chars.take count
  if digits.length = count && digits.all isDigit then
    some (Decimal.natOfDigits 10 (digits.map fun c => c.toNat - '0'.toNat), chars.drop count)
  else none

def scanBounded (low high : Nat) (chars : Chars) : Scanned Nat :=
  match scanFixed 2 chars with
  | some (value, rest) => if low ≤ value && value ≤ high then some (value, rest) else none
  | none => none

def isLeapYear (year : Nat) : Bool :=
  year % 4 = 0 && (year % 100 ≠ 0 || year % 400 = 0)

def daysIn (year month : Nat) : Nat :=
  if month = 2 then if isLeapYear year then 29 else 28
  else if month = 4 || month = 6 || month = 9 || month = 11 then 30
  else 31

structure Date where
  year : Nat
  month : Nat
  day : Nat

def Date.isValid (date : Date) : Bool :=
  1 ≤ date.year && date.day ≤ daysIn date.year date.month

def scanDate (chars : Chars) : Option (Date × Chars) := do
  let (year, chars) ← scanFixed 4 chars
  let chars ← expect '-' chars
  let (month, chars) ← scanBounded 1 12 chars
  let chars ← expect '-' chars
  let (day, chars) ← scanBounded 1 31 chars
  return (⟨year, month, day⟩, chars)

/-- A fraction of a second, if digits follow the point. -/
def skipFraction (chars : Chars) : Chars :=
  match chars with
  | '.' :: c :: rest => if isDigit c then rest.dropWhile isDigit else chars
  | _ => chars

def scanTime (chars : Chars) : Option Chars := do
  let (_, chars) ← scanBounded 0 23 chars
  let chars ← expect ':' chars
  let (_, chars) ← scanBounded 0 59 chars
  let chars ← expect ':' chars
  let (_, chars) ← scanBounded 0 59 chars
  return skipFraction chars

def scanOffset : Chars → Option Chars
  | [] => none
  | c :: rest =>
      if c = 'Z' || c = 'z' then some rest
      else if c = '+' || c = '-' then do
        let (_, rest) ← scanBounded 0 23 rest
        let rest ← expect ':' rest
        let (_, rest) ← scanBounded 0 59 rest
        return rest
      else none

def skipDayTime (chars : Chars) : Chars :=
  match chars with
  | [] => chars
  | c :: rest =>
      if c = 'T' || c = 't' || c = ' ' then
        match scanTime rest with
        | none => chars
        | some after => (scanOffset after).getD after
      else chars

/-- What the text begins with: no moment, a moment, or something like a date that is not in the
calendar. -/
inductive MomentScan where
  | absent
  | present (rest : Chars)
  | invalid

def scanMoment (chars : Chars) : MomentScan :=
  match scanDate chars with
  | some (date, rest) => if date.isValid then .present (skipDayTime rest) else .invalid
  | none =>
      match scanTime chars with
      | some rest => .present rest
      | none => .absent

end SwarmCheck.Toml
