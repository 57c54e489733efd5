import SqlPlan.Calendar.Basic
import SqlPlan.Decimal.Nearest
import SqlPlan.Text.Blank

/-!
# SqlPlan — reading dates and times

A date is `YYYY-MM-DD`, a time `HH:MM:SS` with a fraction of a second if need
be. Blanks may stand before a number and before a mark. Years of more than
four digits carry a sign. Each reader of a part returns what follows it:

* `Date.read?`, `TimeOfDay.read?` — the parts of a date, of a time;
* `Offset.read?` — the offset from universal time, in minutes;
* `Date.parse?`, `TimeOfDay.parse?`, `Timestamp.parse?`, `Instant.parse?` —
  whole texts.
-/

namespace SqlPlan

open Text (isBlank)

namespace Calendar

/-- The text without the blanks before it. -/
def skipBlanks (cs : List Char) : List Char := cs.dropWhile isBlank

/-- A number of at most `width` digits. -/
def number? (width : Nat) (cs : List Char) : Option (Nat × List Char) :=
  match (cs.take width).takeWhile Char.isDigit with
  | [] => none
  | ds => some (Decimal.ofDigits ds, cs.drop ds.length)

/-- A number of one or two digits, blanks before it. -/
def twoDigits? (cs : List Char) : Option (Nat × List Char) :=
  number? 2 (skipBlanks cs)

/-- A mark, blanks before it. -/
def mark? (mark : Char) (cs : List Char) : Option (List Char) :=
  match skipBlanks cs with
  | c :: rest => if c = mark then some rest else none
  | [] => none

/-- A year: up to four digits, or a sign and any number of digits. -/
def year? (cs : List Char) : Option (Int × List Char) :=
  match skipBlanks cs with
  | '-' :: rest => (number? rest.length rest).map fun (n, r) => (-(n : Int), r)
  | '+' :: rest => (number? rest.length rest).map fun (n, r) => ((n : Int), r)
  | rest => (number? 4 rest).map fun (n, r) => ((n : Int), r)

/-- The nanoseconds after a point, if there is one. Digits after the ninth are
skipped. -/
def fraction? : List Char → Option (Nat × List Char)
  | '.' :: rest => do
    let ds := (rest.take 9).takeWhile Char.isDigit
    if ds.isEmpty then none
    else
      some (Decimal.ofDigits ds * Nat.pow 10 (9 - ds.length),
        (rest.drop ds.length).dropWhile Char.isDigit)
  | rest => some (0, rest)

/-- The seconds of a time and their fraction. -/
def seconds? (cs : List Char) : Option ((Nat × Nat) × List Char) := do
  let rest ← mark? ':' cs
  let (second, rest) ← twoDigits? rest
  let (nano, rest) ← fraction? rest
  some ((second, nano), rest)

/-- The hours and minutes of a time. -/
def hoursMinutes? (cs : List Char) : Option ((Nat × Nat) × List Char) := do
  let (hour, rest) ← twoDigits? cs
  let rest ← mark? ':' rest
  let (minute, rest) ← twoDigits? rest
  some ((hour, minute), rest)

/-- What a reader found, if only blanks follow it. -/
def whole? {α : Type} : Option (α × List Char) → Option α
  | some (a, rest) => if (skipBlanks rest).isEmpty then some a else none
  | none => none

end Calendar

open Calendar

/-- The date that a text begins with. -/
def Date.read? (cs : List Char) : Option (Date × List Char) := do
  let (year, rest) ← year? cs
  let rest ← mark? '-' rest
  let (month, rest) ← twoDigits? rest
  let rest ← mark? '-' rest
  let (day, rest) ← twoDigits? rest
  let date ← Date.of? year month day
  some (date, rest)

/-- The time, seconds included, that a text begins with. -/
def TimeOfDay.read? (cs : List Char) : Option (TimeOfDay × List Char) := do
  let ((hour, minute), rest) ← hoursMinutes? cs
  let ((second, nano), rest) ← seconds? rest
  let time ← TimeOfDay.of? hour minute second nano
  some (time, rest)

/-- The date that a text writes. -/
def Date.parse? (s : String) : Option Date :=
  whole? (Date.read? s.toList)

/-- The time of day that a text writes. Seconds may be left out. -/
def TimeOfDay.parse? (s : String) : Option TimeOfDay := do
  let ((hour, minute), rest) ← hoursMinutes? s.toList
  let (second, nano) ← whole? ((seconds? rest).or (some ((0, 0), rest)))
  TimeOfDay.of? hour minute second nano

/-- The date and time, a `T` between them, that a text writes. -/
def Timestamp.parse? (s : String) : Option Timestamp :=
  whole? do
    let (date, rest) ← Date.read? s.toList
    let rest ← mark? 'T' rest
    let (time, rest) ← TimeOfDay.read? rest
    some (⟨date, time⟩, rest)

namespace Offset

/-- Two digits. -/
def twoDigits? : List Char → Option (Nat × List Char)
  | a :: b :: rest =>
    if a.isDigit ∧ b.isDigit then some (Decimal.ofDigits [a, b], rest) else none
  | _ => none

/-- Hours and minutes, with colons or blanks between them or nothing. -/
def read? (cs : List Char) : Option (Nat × List Char) := do
  let (hours, rest) ← twoDigits? cs
  let (minutes, rest) ← twoDigits? (rest.dropWhile fun c => c = ':' || isBlank c)
  if minutes < 60 then some (60 * hours + minutes, rest) else none

/-- An offset from universal time in minutes: `UTC`, `Z`, or a sign and hours
and minutes. -/
def parse? (cs : List Char) : Option (Int × List Char) :=
  if (cs.take 3).map Char.toUpper = ['U', 'T', 'C'] then some (0, cs.drop 3)
  else
    match cs with
    | c :: rest =>
      if c = 'Z' ∨ c = 'z' then some (0, rest)
      else if c = '+' then (read? rest).map fun (n, r) => ((n : Int), r)
      else if c = '-' ∨ c = '−' then (read? rest).map fun (n, r) => (-(n : Int), r)
      else none
    | [] => none

end Offset

/-- The instant that a date, a time and an offset from universal time write.
Between date and time stands a `T` of either case or a space. -/
def Instant.parse? (s : String) : Option Instant := do
  let (date, rest) ← Date.read? s.toList
  match rest with
  | c :: rest =>
    if c = 'T' ∨ c = 't' ∨ c = ' ' then
      let (time, rest) ← TimeOfDay.read? rest
      let offset ← whole? (Offset.parse? (skipBlanks rest))
      if offset.natAbs < 1440 then
        (Timestamp.addMinutes? ⟨date, time⟩ (-offset)).map Instant.mk
      else none
    else none
  | [] => none

end SqlPlan
