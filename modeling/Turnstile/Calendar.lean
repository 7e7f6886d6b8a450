set_option autoImplicit false

/-! # Calendar

The date and time of day of an instant in the Gregorian calendar, in UTC. Years are counted from
March on, so that the leap day is the last of its year, and days from the first of March of the
year 0. -/

namespace Turnstile

/-- A date and a time of day. -/
structure DateTime where
  year : Int
  month : Nat
  day : Nat
  hour : Nat
  minute : Nat
  second : Nat
deriving DecidableEq, Repr

namespace DateTime

/-- The days of 400 years. -/
def daysOfEra : Nat := 146097

/-- The year of an era that its `n`-th day lies in; a year is over after 365 days and the leap days
    before its end. -/
def yearOfEra (n : Nat) : Nat := (n - n / 1460 + n / 36524 - n / 146096) / 365

/-- The days of an era before a year of it. -/
def daysBeforeYear (year : Nat) : Nat := 365 * year + year / 4 - year / 100

/-- The date of a day, counted from the first of January 1970. -/
def ofDay (day : Int) : Int × Nat × Nat :=
  let fromMarch := day + 719468
  let era := fromMarch.fdiv daysOfEra
  let inEra := (fromMarch - era * daysOfEra).toNat
  let yearInEra := yearOfEra inEra
  let inYear := inEra - daysBeforeYear yearInEra
  let monthFromMarch := (5 * inYear + 2) / 153
  let dayOfMonth := inYear - (153 * monthFromMarch + 2) / 5 + 1
  let month := if monthFromMarch < 10 then monthFromMarch + 3 else monthFromMarch - 9
  let year := (yearInEra : Int) + era * 400
  (if month ≤ 2 then year + 1 else year, month, dayOfMonth)

/-- The date and time of day at a number of seconds since 1970. -/
def ofUnix (seconds : Int) : DateTime :=
  let day := seconds.fdiv 86400
  let rest := (seconds - day * 86400).toNat
  let (year, month, dayOfMonth) := ofDay day
  ⟨year, month, dayOfMonth, rest / 3600, rest % 3600 / 60, rest % 60⟩

/-- A date has a text when its year and the years since 1900 are both 32-bit numbers. -/
def hasText (t : DateTime) : Bool := -2147481748 ≤ t.year && t.year ≤ 2147483647

/-- A number of at least two digits. -/
def twoDigits (n : Nat) : String := String.ofList ((Nat.toDigits 10 n).leftpad 2 '0')

/-- The text `2000-02-29T00:00:00Z`. -/
def text (t : DateTime) : String :=
  toString t.year ++ "-" ++ twoDigits t.month ++ "-" ++ twoDigits t.day ++ "T"
    ++ twoDigits t.hour ++ ":" ++ twoDigits t.minute ++ ":" ++ twoDigits t.second ++ "Z"

end DateTime

end Turnstile
