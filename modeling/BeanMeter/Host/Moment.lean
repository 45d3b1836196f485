import BeanMeter.Number.Notation

/-! # Moments

Moments on the calendar, in the form in which the log shows them.

* `Civil.ofDays` — the date of a day.
* `momentText` — a moment as a date and a time of day.
-/

namespace BeanMeter

/-- A date of the Gregorian calendar. -/
structure Civil where
  year : Int
  month : Nat
  day : Nat
  deriving DecidableEq, Repr

/-- The date of a day, counted from the first of January 1970. Years are counted from March on, so
that a leap day is the last day of its year, and four hundred of them make an era of 146097 days. -/
def Civil.ofDays (days : Int) : Civil :=
  let shifted := days + 719468
  let era := shifted / 146097
  let dayOfEra := (shifted % 146097).toNat
  let yearOfEra := (dayOfEra - dayOfEra / 1460 + dayOfEra / 36524 - dayOfEra / 146096) / 365
  let dayOfYear := dayOfEra - (365 * yearOfEra + yearOfEra / 4 - yearOfEra / 100)
  let monthFromMarch := (5 * dayOfYear + 2) / 153
  let day := dayOfYear - (153 * monthFromMarch + 2) / 5 + 1
  let month := if monthFromMarch < 10 then monthFromMarch + 3 else monthFromMarch - 9
  ⟨yearOfEra + era * 400 + (if month ≤ 2 then 1 else 0), month, day⟩

/-- The last digits of a number, with zeros in front where there are none. -/
def lastDigits : Nat → Nat → List Char
  | 0, _ => []
  | width + 1, n => lastDigits width (n / 10) ++ [digitChar (n % 10)]

/-- A number with at least so many digits as it is wide. -/
def paddedText (width n : Nat) : String := String.ofList (lastDigits width n)

/-- A moment as a date and a time of day; it is given in microseconds since the epoch. -/
def momentText (microseconds : Int) : String :=
  let perDay := 86400000000
  let date := Civil.ofDays (microseconds / perDay)
  let rest := (microseconds % perDay).toNat
  let seconds := rest / 1000000
  paddedText 4 date.year.toNat ++ "-" ++ paddedText 2 date.month ++ "-" ++ paddedText 2 date.day ++
    "T" ++ paddedText 2 (seconds / 3600) ++ ":" ++ paddedText 2 (seconds / 60 % 60) ++ ":" ++
    paddedText 2 (seconds % 60) ++ "." ++ paddedText 6 (rest % 1000000) ++ "Z"

end BeanMeter
