/-!
# SqlPlan — dates and times

Dates are those of the proleptic Gregorian calendar, with a year zero and
negative years before it. A time of day may name a leap second. What makes a
date or a time valid is part of its type:

* `Date`, `TimeOfDay`, `Timestamp` — a day, a time of day, and both;
* `Instant` — a timestamp in universal time;
* `Date.next?`, `Date.previous?` — the neighbouring days, within the calendar;
* `Timestamp.addMinutes?` — a timestamp moved by less than a day.
-/

namespace SqlPlan

-- ---------------------------------------------------------------------------
-- Days
-- ---------------------------------------------------------------------------

/-- Every fourth year is a leap year, less every hundredth, save every four
hundredth. -/
def isLeapYear (year : Int) : Bool :=
  year % 4 = 0 && (year % 100 ≠ 0 || year % 400 = 0)

/-- The number of days of a month. -/
def daysIn (year : Int) (month : Nat) : Nat :=
  if month = 2 then (if isLeapYear year then 29 else 28)
  else if month = 4 ∨ month = 6 ∨ month = 9 ∨ month = 11 then 30
  else 31

/-- The calendar is kept from this year on. -/
def firstYear : Int := -262143

/-- The calendar is kept up to this year. -/
def lastYear : Int := 262142

/-- A day of the calendar. -/
structure Date where
  year : Int
  month : Nat
  day : Nat
  year_mem : firstYear ≤ year ∧ year ≤ lastYear
  month_mem : 1 ≤ month ∧ month ≤ 12
  day_mem : 1 ≤ day ∧ day ≤ daysIn year month
  deriving DecidableEq

namespace Date

/-- The day of that year, month and number, if there is one. -/
def of? (year : Int) (month day : Nat) : Option Date :=
  if hy : firstYear ≤ year ∧ year ≤ lastYear then
    if hm : 1 ≤ month ∧ month ≤ 12 then
      if hd : 1 ≤ day ∧ day ≤ daysIn year month then some ⟨year, month, day, hy, hm, hd⟩
      else none
    else none
  else none

/-- The day after, if the calendar goes on. -/
def next? (d : Date) : Option Date :=
  if d.day < daysIn d.year d.month then of? d.year d.month (d.day + 1)
  else if d.month < 12 then of? d.year (d.month + 1) 1
  else of? (d.year + 1) 1 1

/-- The day before, if the calendar reaches back. -/
def previous? (d : Date) : Option Date :=
  if 1 < d.day then of? d.year d.month (d.day - 1)
  else if 1 < d.month then of? d.year (d.month - 1) (daysIn d.year (d.month - 1))
  else of? (d.year - 1) 12 31

end Date

-- ---------------------------------------------------------------------------
-- Times
-- ---------------------------------------------------------------------------

/-- A time of day. The second 60 is a leap second. -/
structure TimeOfDay where
  hour : Nat
  minute : Nat
  second : Nat
  nano : Nat
  hour_lt : hour < 24
  minute_lt : minute < 60
  second_le : second ≤ 60
  nano_lt : nano < 1000000000
  deriving DecidableEq

namespace TimeOfDay

/-- The time of those parts, if there is one. -/
def of? (hour minute second nano : Nat) : Option TimeOfDay :=
  if h : hour < 24 ∧ minute < 60 ∧ second ≤ 60 ∧ nano < 1000000000 then
    some ⟨hour, minute, second, nano, h.1, h.2.1, h.2.2.1, h.2.2.2⟩
  else none

end TimeOfDay

/-- A day and a time of it. -/
structure Timestamp where
  date : Date
  time : TimeOfDay
  deriving DecidableEq

/-- A timestamp in universal time. -/
structure Instant where
  utc : Timestamp
  deriving DecidableEq

/-- The timestamp that many minutes later, less than a day away. Seconds stay
as they are, a leap second too. -/
def Timestamp.addMinutes? (t : Timestamp) (minutes : Int) : Option Timestamp := do
  let total := 60 * (t.time.hour : Int) + t.time.minute + minutes
  let ofDay := (total % 1440).toNat
  let date ←
    if total < 0 then t.date.previous?
    else if total < 1440 then some t.date
    else t.date.next?
  let time ← TimeOfDay.of? (ofDay / 60) (ofDay % 60) t.time.second t.time.nano
  some ⟨date, time⟩

end SqlPlan
