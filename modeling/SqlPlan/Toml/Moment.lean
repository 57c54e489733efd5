import SqlPlan.Decimal.Nearest
import SqlPlan.Toml.Basic
import SqlPlan.Toml.Text

/-!
# SqlPlan — moments of a TOML text

A moment is written as a word or, in a table that says so, as a string:

* `Moment.Spelling` — what the two ways allow, the string a little more;
* `Moment.read?` — the moment that all of a text writes, to the nanosecond;
* `Toml.resolve?` — a value whose tables that say so became moments.
-/

namespace SqlPlan

-- ---------------------------------------------------------------------------
-- Reading moments
-- ---------------------------------------------------------------------------

namespace Moment

/-- How a moment is written. -/
inductive Spelling where
  /-- As a word without quotes. -/
  | bare
  /-- As a string. -/
  | quoted
  deriving DecidableEq, Inhabited

namespace Spelling

/-- The last hour of a day. -/
def lastHour : Spelling → Nat
  | bare => 23
  | quoted => 24

/-- The offset may be that many hours and minutes. -/
def allowsOffset (hours minutes : Nat) : Spelling → Bool
  | bare => hours < 24 && minutes < 60
  | quoted => 60 * hours + minutes ≤ 1440

end Spelling

/-- A number of exactly `width` digits. -/
def fixed? (width : Nat) (cs : List Char) : Option (Nat × List Char) :=
  let ds := cs.take width
  if ds.length = width ∧ ds.all Char.isDigit then some (Decimal.ofDigits ds, cs.drop width)
  else none

/-- A date as `YYYY-MM-DD`. -/
def date? (cs : List Char) : Option (Date × List Char) := do
  let (year, rest) ← fixed? 4 cs
  let (month, rest) ← fixed? 2 (← Toml.mark? '-' rest)
  let (day, rest) ← fixed? 2 (← Toml.mark? '-' rest)
  let date ← Date.of? year month day
  some (date, rest)

/-- The nanoseconds after a point, if there is one. Digits after the ninth do
not count. -/
def nanos? : List Char → Option (Nat × List Char)
  | '.' :: rest =>
    match rest.span Char.isDigit with
    | ([], _) => none
    | (ds, rest) =>
      let ds := ds.take 9
      some (Decimal.ofDigits ds * Nat.pow 10 (9 - ds.length), rest)
  | rest => some (0, rest)

/-- A time as `HH:MM:SS` and its fraction. -/
def time? (how : Spelling) (cs : List Char) : Option (Clock × List Char) := do
  let (hour, rest) ← fixed? 2 cs
  let (minute, rest) ← fixed? 2 (← Toml.mark? ':' rest)
  let (second, rest) ← fixed? 2 (← Toml.mark? ':' rest)
  let (nano, rest) ← nanos? rest
  if hour ≤ how.lastHour then
    let time ← Clock.of? hour minute second nano
    some (time, rest)
  else none

/-- An offset as hours and minutes, in minutes. -/
def offset? (how : Spelling) (cs : List Char) : Option Nat := do
  let (hours, rest) ← fixed? 2 cs
  let (minutes, rest) ← fixed? 2 (← Toml.mark? ':' rest)
  if rest = [] ∧ how.allowsOffset hours minutes then some (60 * hours + minutes) else none

/-- The moment of a date and a time, and the offset after them. -/
def zoned? (how : Spelling) (d : Date) (t : Clock) : List Char → Option Moment
  | [] => some (.dateTime d t)
  | '+' :: rest => (offset? how rest).map fun n => .zoned d t (.minutes n)
  | '-' :: rest => (offset? how rest).map fun n => .zoned d t (.minutes (-n))
  | [c] => if c = 'Z' ∨ c = 'z' then some (.zoned d t .universal) else none
  | _ => none

/-- The moment that a text writes. -/
def read? (how : Spelling) (cs : List Char) : Option Moment :=
  match date? cs with
  | some (d, []) => some (.date d)
  | some (d, mark :: rest) =>
    if mark = 'T' ∨ mark = 't' ∨ mark = ' ' then do
      let (t, rest) ← time? how rest
      zoned? how d t rest
    else none
  | none =>
    match time? how cs with
    | some (t, []) => some (.time t)
    | _ => none

end Moment

-- ---------------------------------------------------------------------------
-- Tables that write moments
-- ---------------------------------------------------------------------------

namespace Toml

/-- A table whose first name is this one writes a moment. -/
def momentName : String := "$__toml_private_datetime"

/-- The table writes a moment. -/
def writesMoment (members : List (String × Toml)) : Bool :=
  members.head?.any fun m => m.1 = momentName

/-- The moment of the string under the first name of a table. Nothing else in
the table counts. -/
def quotedMoment? : List (String × Toml) → Option Moment
  | (_, .string s) :: _ => Moment.read? .quoted s.toList
  | _ => none

mutual

/-- The value with moments for the tables that write them. -/
def resolve? : Toml → Option Toml
  | .array items => (resolveAll? items).map .array
  | .table members =>
    if writesMoment members then (quotedMoment? members).map .moment
    else (resolveMembers? members).map .table
  | v => some v

/-- Each of the items with moments for the tables that write them. -/
def resolveAll? : List Toml → Option (List Toml)
  | [] => some []
  | v :: rest => do
    let v ← resolve? v
    let vs ← resolveAll? rest
    some (v :: vs)

/-- Each of the members with moments for the tables that write them. -/
def resolveMembers? : List (String × Toml) → Option (List (String × Toml))
  | [] => some []
  | (name, v) :: rest => do
    let v ← resolve? v
    let ms ← resolveMembers? rest
    some ((name, v) :: ms)

end

end Toml

end SqlPlan
