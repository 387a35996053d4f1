import ChannelLayer.Text.Number

/-!
# Calendar text

Nanoseconds since 1970-01-01 as a date and time of day in UTC: the hour without padding, minutes and
seconds in two digits, and the fraction of a second without trailing zeros but with at least one
digit.
-/

set_option autoImplicit false

namespace ChannelLayer.Calendar

/-- A day of the proleptic Gregorian calendar. -/
structure Date where
  year : Nat
  month : Nat
  day : Nat
  deriving DecidableEq

/-- The date `days` days after 1970-01-01. Years are counted from March here, so that a leap day ends
one; an era is 400 of them. -/
def Date.ofDays (days : Nat) : Date :=
  let shifted := days + 719468
  let era := shifted / 146097
  let dayOfEra := shifted % 146097
  let yearOfEra := (dayOfEra - dayOfEra / 1460 + dayOfEra / 36524 - dayOfEra / 146096) / 365
  let dayOfYear := dayOfEra - (365 * yearOfEra + yearOfEra / 4 - yearOfEra / 100)
  let marchMonth := (5 * dayOfYear + 2) / 153
  let month := if marchMonth < 10 then marchMonth + 3 else marchMonth - 9
  { year := yearOfEra + 400 * era + (if month ≤ 2 then 1 else 0)
    month := month
    day := dayOfYear - (153 * marchMonth + 2) / 5 + 1 }

def Date.text (d : Date) : String :=
  Number.padded 4 d.year ++ "-" ++ Number.padded 2 d.month ++ "-" ++ Number.padded 2 d.day

/-- The digits behind the point for `nanos` billionths of a second. -/
def fraction (nanos : Nat) : String :=
  let digits := ((Number.padded 9 nanos).toList.reverse.dropWhile (· == '0')).reverse
  if digits.isEmpty then "0" else String.ofList digits

def text (nanos : Nat) : String :=
  let seconds := nanos / 1000000000
  (Date.ofDays (seconds / 86400)).text ++ " " ++ Nat.repr (seconds / 3600 % 24) ++ ":"
    ++ Number.padded 2 (seconds / 60 % 60) ++ ":" ++ Number.padded 2 (seconds % 60) ++ "."
    ++ fraction (nanos % 1000000000) ++ " +00:00:00"

example : Date.ofDays 0 = ⟨1970, 1, 1⟩ := by decide
example : Date.ofDays 19723 = ⟨2024, 1, 1⟩ := by decide
example : Date.ofDays 19782 = ⟨2024, 2, 29⟩ := by decide

end ChannelLayer.Calendar
