/-!
# Calendar dates

Dates of the Gregorian calendar, extended backwards to year 1, and their distance in days from
1970-01-01. A date in a query is written `YYYY-MM-DD` in ASCII digits and stands for its midnight in
universal time, counted in milliseconds.

Main definitions: `Date`, `Date.read?`, `Date.daysSinceEpoch`, `Date.millis`.
-/

namespace MailSearch.Calendar

/-- Every fourth year is a leap year, except the centuries that four hundred does not divide. -/
def isLeapYear (year : Nat) : Bool :=
  year % 4 == 0 && (year % 100 != 0 || year % 400 == 0)

/-- The length of a month; a number that is no month has no days. -/
def daysInMonth (year month : Nat) : Nat :=
  match month with
  | 1 => 31
  | 2 => if isLeapYear year then 29 else 28
  | 3 => 31
  | 4 => 30
  | 5 => 31
  | 6 => 30
  | 7 => 31
  | 8 => 31
  | 9 => 30
  | 10 => 31
  | 11 => 30
  | 12 => 31
  | _ => 0

/-- Whether three numbers name a day of a year with four digits. A number that is no month is
refused with its days. -/
def IsDate (year month day : Nat) : Prop :=
  1 ≤ year ∧ year ≤ 9999 ∧ 1 ≤ day ∧ day ≤ daysInMonth year month

instance (year month day : Nat) : Decidable (IsDate year month day) :=
  inferInstanceAs (Decidable (_ ∧ _ ∧ _ ∧ _))

/-- A day of the years 1 to 9999. -/
structure Date where
  year : Nat
  month : Nat
  day : Nat
  isDate : IsDate year month day
  deriving DecidableEq

namespace Date

def digit? (c : Char) : Option Nat :=
  if c.isDigit then some (c.toNat - '0'.toNat) else none

/-- The number written by ASCII digits alone. -/
def number? (cs : List Char) : Option Nat :=
  (cs.mapM digit?).map (·.foldl (fun n d => 10 * n + d) 0)

/-- The date that three numbers name. -/
def ofNumbers? (year month day : Nat) : Option Date :=
  if h : IsDate year month day then some ⟨year, month, day, h⟩ else none

/-- Reads a date of the form `YYYY-MM-DD`; no other text is a date. -/
def read? (text : String) : Option Date :=
  match text.toList with
  | [y₁, y₂, y₃, y₄, '-', m₁, m₂, '-', d₁, d₂] => do
    let year ← number? [y₁, y₂, y₃, y₄]
    let month ← number? [m₁, m₂]
    let day ← number? [d₁, d₂]
    ofNumbers? year month day
  | _ => none

/-- The days of the years before a year, counted from the start of year 1. -/
def daysBeforeYear (year : Nat) : Nat :=
  let past := year - 1
  365 * past + past / 4 - past / 100 + past / 400

/-- The days of the months before a month of a year. -/
def daysBeforeMonth (year : Nat) : Nat → Nat
  | 0 => 0
  | 1 => 0
  | month + 2 => daysBeforeMonth year (month + 1) + daysInMonth year (month + 1)

/-- The place of a day in the calendar; the first of January of year 1 is day 1. -/
def ordinal (date : Date) : Nat :=
  daysBeforeYear date.year + daysBeforeMonth date.year date.month + date.day

def epoch : Date := ⟨1970, 1, 1, by decide⟩

/-- The days from the epoch to a date, negative before it. -/
def daysSinceEpoch (date : Date) : Int :=
  (date.ordinal : Int) - (epoch.ordinal : Int)

def millisPerDay : Int := 86400000

/-- The midnight that a date starts with, in milliseconds since the epoch. -/
def millis (date : Date) : Int :=
  date.daysSinceEpoch * millisPerDay

end Date

end MailSearch.Calendar
