/-
# Instants

A moment as the number of seconds since the start of 1970, and its date in the Gregorian calendar
at Greenwich.  Years are counted from March, so that the leap day is the last day of its year.
-/

namespace Switchboard.Instant

/-- A day of the calendar. -/
structure Date where
  year : Nat
  month : Nat
  day : Nat
  deriving DecidableEq, Repr

/-- The date of the day with this number, where day 0 is the first of March of year 0.  The days of
a month are found from the day of the year: five months from March on have 153 days, and so have
the five after them. -/
def dateOfDay (n : Nat) : Date :=
  let era := n / 146097
  let dayOfEra := n % 146097
  let yearOfEra := (dayOfEra - dayOfEra / 1460 + dayOfEra / 36524 - dayOfEra / 146096) / 365
  let dayOfYear := dayOfEra - (365 * yearOfEra + yearOfEra / 4 - yearOfEra / 100)
  let fromMarch := (5 * dayOfYear + 2) / 153
  let day := dayOfYear - (153 * fromMarch + 2) / 5 + 1
  let month := if fromMarch < 10 then fromMarch + 3 else fromMarch - 9
  ⟨yearOfEra + 400 * era + (if month ≤ 2 then 1 else 0), month, day⟩

/-- The date of a moment; 1970 starts 719468 days after the first of March of year 0. -/
def date (seconds : Nat) : Date := dateOfDay (seconds / 86400 + 719468)

/-- A number filled up with zeros on the left. -/
def padded (width n : Nat) : String :=
  let digits := Nat.toDigits 10 n
  String.ofList (List.replicate (width - digits.length) '0' ++ digits)

/-- A year; one of five digits has a sign. -/
def yearText (n : Nat) : String := if n < 10000 then padded 4 n else "+" ++ toString n

/-- A moment in the form `1970-01-01T00:00:00Z`. -/
def text (seconds : Nat) : String :=
  let d := date seconds
  let t := seconds % 86400
  s!"{yearText d.year}-{padded 2 d.month}-{padded 2 d.day}T" ++
    s!"{padded 2 (t / 3600)}:{padded 2 (t / 60 % 60)}:{padded 2 (t % 60)}Z"

/-- The moment that a clock shows; one that stands before 1970 shows none. -/
def ofClock? (seconds : Int) : Option Nat :=
  match seconds with
  | .ofNat n => some n
  | .negSucc _ => none

/-- The last moment of the calendar, at the end of the year 262142. -/
def lastMoment : Nat := 8210266876799

/-- The moment that a clock shows, if the calendar has a date for it. -/
def dated? (seconds : Int) : Option Nat := (ofClock? seconds).filter (· ≤ lastMoment)

example : text lastMoment = "+262142-12-31T23:59:59Z" := by decide +kernel

example : text 0 = "1970-01-01T00:00:00Z" := by decide +kernel
example : text 1709164800 = "2024-02-29T00:00:00Z" := by decide +kernel
example : text 253402300799 = "9999-12-31T23:59:59Z" := by decide +kernel

end Switchboard.Instant
