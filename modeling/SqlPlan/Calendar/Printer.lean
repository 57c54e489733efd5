import SqlPlan.Calendar.Basic

/-!
# SqlPlan — writing dates and times

Numbers are padded with zeros: years to four digits, with a sign outside
0 to 9999, all else to two. A fraction of a second has three, six or nine
digits, the fewest that are exact, and none where it is zero.
-/

namespace SqlPlan

namespace Calendar

/-- A number with zeros before it up to a width. -/
def padded (width n : Nat) : List Char :=
  let ds := Nat.toDigits 10 n
  List.replicate (width - ds.length) '0' ++ ds

/-- A year, signed outside 0 to 9999. -/
def yearText (year : Int) : List Char :=
  if 0 ≤ year ∧ year ≤ 9999 then padded 4 year.toNat
  else (if year < 0 then '-' else '+') :: padded 4 year.natAbs

/-- A fraction of a second. -/
def fractionText (nano : Nat) : List Char :=
  if nano = 0 then []
  else if nano % 1000000 = 0 then '.' :: padded 3 (nano / 1000000)
  else if nano % 1000 = 0 then '.' :: padded 6 (nano / 1000)
  else '.' :: padded 9 nano

end Calendar

open Calendar

/-- A date as `YYYY-MM-DD`. -/
def Date.chars (d : Date) : List Char :=
  yearText d.year ++ '-' :: padded 2 d.month ++ '-' :: padded 2 d.day

/-- A time as `HH:MM:SS` and its fraction. -/
def TimeOfDay.chars (t : TimeOfDay) : List Char :=
  padded 2 t.hour ++ ':' :: padded 2 t.minute ++ ':' :: padded 2 t.second ++ fractionText t.nano

/-- A date and a time with a mark between them. -/
def Timestamp.chars (mark : Char) (t : Timestamp) : List Char :=
  t.date.chars ++ mark :: t.time.chars

def Date.text (d : Date) : String := String.ofList d.chars

def TimeOfDay.text (t : TimeOfDay) : String := String.ofList t.chars

/-- A timestamp with a space between date and time. -/
def Timestamp.text (t : Timestamp) : String := String.ofList (t.chars ' ')

/-- A timestamp with a `T` between date and time. -/
def Timestamp.isoText (t : Timestamp) : String := String.ofList (t.chars 'T')

/-- An instant for people: its timestamp and `UTC`. -/
def Instant.text (i : Instant) : String := i.utc.text ++ " UTC"

/-- An instant as data: its timestamp and `Z`. -/
def Instant.isoText (i : Instant) : String := i.utc.isoText ++ "Z"

/-- An instant as its timestamp and an offset of zero. -/
def Instant.offsetText (i : Instant) : String := i.utc.isoText ++ "+00:00"

end SqlPlan
