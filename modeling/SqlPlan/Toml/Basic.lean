import SqlPlan.Calendar.Printer
import SqlPlan.Json.Basic

/-!
# SqlPlan — TOML values

`Toml` is the value that a TOML text denotes. A `Moment` is a date, a time of
day or both, with or without an offset from universal time:

* `Clock` — the time of day of a moment;
* `Moment.text` — the moment in its usual notation, without the zeros that end
  a fraction;
* `Toml.toDocument` — the value as a JSON document. Moments become their
  texts; a double that is no number becomes null.
-/

namespace SqlPlan

/-- An offset from universal time. -/
inductive Zone where
  | universal
  | minutes (n : Int)
  deriving DecidableEq, Inhabited

/-- A time of day. The hour 24 is the end of the day, and the second 60 is a
leap second. -/
structure Clock where
  hour : Nat
  minute : Nat
  second : Nat
  nano : Nat
  inRange : hour ≤ 24 ∧ minute < 60 ∧ second ≤ 60 ∧ nano < 1000000000
  deriving DecidableEq

/-- The time of those parts, if there is one. -/
def Clock.of? (hour minute second nano : Nat) : Option Clock :=
  if h : hour ≤ 24 ∧ minute < 60 ∧ second ≤ 60 ∧ nano < 1000000000 then
    some ⟨hour, minute, second, nano, h⟩
  else none

/-- A date, a time of day or both. -/
inductive Moment where
  | date (d : Date)
  | time (t : Clock)
  | dateTime (d : Date) (t : Clock)
  | zoned (d : Date) (t : Clock) (zone : Zone)
  deriving DecidableEq

/-- A TOML value. -/
inductive Toml where
  | string (s : String)
  | integer (n : Int64)
  | float (x : Float)
  | boolean (b : Bool)
  | moment (m : Moment)
  | array (items : List Toml)
  | table (members : List (String × Toml))

-- ---------------------------------------------------------------------------
-- Moments as texts
-- ---------------------------------------------------------------------------

open Calendar (padded)

def Zone.chars : Zone → List Char
  | universal => ['Z']
  | minutes n =>
    (if n < 0 then '-' else '+') :: padded 2 (n.natAbs / 60) ++ ':' :: padded 2 (n.natAbs % 60)

namespace Moment

/-- A list of digits without the zeros at its end. -/
def dropLastZeros (cs : List Char) : List Char :=
  (cs.reverse.dropWhile (· = '0')).reverse

/-- A fraction of a second in the fewest digits. -/
def fractionChars (nano : Nat) : List Char :=
  if nano = 0 then [] else '.' :: dropLastZeros (padded 9 nano)

def timeChars (t : Clock) : List Char :=
  padded 2 t.hour ++ ':' :: padded 2 t.minute ++ ':' :: padded 2 t.second ++
    fractionChars t.nano

def dateTimeChars (d : Date) (t : Clock) : List Char :=
  d.chars ++ 'T' :: timeChars t

def chars : Moment → List Char
  | date d => d.chars
  | time t => timeChars t
  | dateTime d t => dateTimeChars d t
  | zoned d t zone => dateTimeChars d t ++ zone.chars

/-- A moment in its usual notation. -/
def text (m : Moment) : String := String.ofList m.chars

end Moment

-- ---------------------------------------------------------------------------
-- Values as documents
-- ---------------------------------------------------------------------------

namespace Toml

mutual

/-- A value as a JSON document. -/
def toDocument : Toml → Document
  | string s => .str s
  | integer n => .int n
  | float x => .float x
  | boolean b => .bool b
  | moment m => .str m.text
  | array items => .arr (toDocuments items)
  | table members => .obj (.ofList (toMembers members))

/-- The items of an array as JSON documents. -/
def toDocuments : List Toml → List Document
  | [] => []
  | v :: rest => toDocument v :: toDocuments rest

/-- The members of a table as members of a JSON document. -/
def toMembers : List (String × Toml) → List (String × Document)
  | [] => []
  | (name, v) :: rest => (name, toDocument v) :: toMembers rest

end

end Toml

end SqlPlan
