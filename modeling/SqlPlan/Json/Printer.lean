import SqlPlan.Decimal.Style
import SqlPlan.Json.Basic

/-!
# SqlPlan — writing JSON

`Json.compact` writes a value without blanks, `Json.pretty` with one member or
item to a line, two blanks deeper than its container. Members are written in
the order they have. `Json.quote` escapes what JSON cannot hold raw.
-/

namespace SqlPlan

namespace Json

/-- Doubles are written positionally from 0.00001 up to sixteen whole digits,
with a point, and a halfway case goes to the even digit. -/
def floatStyle : FloatStyle where
  positional e := -5 ≤ e && e ≤ 15
  point := true
  halfway := .even
  infinity := "null"
  notANumber := "null"

/-- A lower-case hexadecimal digit. -/
def hexDigit (n : Nat) : Char :=
  if n < 10 then Char.ofNat (n + '0'.toNat) else Char.ofNat (n - 10 + 'a'.toNat)

/-- The text of one character inside a string. -/
def escapeChar (c : Char) : List Char :=
  if c = '\x22' then ['\\', '\x22']
  else if c = '\\' then ['\\', '\\']
  else if c = '\x08' then ['\\', 'b']
  else if c = '\t' then ['\\', 't']
  else if c = '\n' then ['\\', 'n']
  else if c = '\x0c' then ['\\', 'f']
  else if c = '\r' then ['\\', 'r']
  else if c.toNat < 0x20 then
    ['\\', 'u', '0', '0', hexDigit (c.toNat / 16), hexDigit (c.toNat % 16)]
  else [c]

/-- A string in its quotes. -/
def quote (s : String) : String :=
  String.ofList ('\x22' :: s.toList.flatMap escapeChar ++ ['\x22'])

/-- The text of a value without parts. A double that is no number, and a part
that denotes nothing, are written as null. -/
def atomText : Json → String
  | .bool b => if b then "true" else "false"
  | .int n => toString n
  | .float x => if x.isFinite then floatStyle.write x else "null"
  | .str s => quote s
  | _ => "null"

mutual

/-- The text of a value, without blanks. -/
def compact : Json → String
  | .arr items => "[" ++ ",".intercalate (compactItems items) ++ "]"
  | .obj members => "\x7b" ++ ",".intercalate (compactMembers members) ++ "\x7d"
  | j => atomText j

/-- The texts of the items of an array. -/
def compactItems : List Json → List String
  | [] => []
  | j :: rest => compact j :: compactItems rest

/-- The texts of the members of an object. -/
def compactMembers : List (String × Json) → List String
  | [] => []
  | (name, j) :: rest => (quote name ++ ":" ++ compact j) :: compactMembers rest

end

/-- A new line, indented for `depth` containers. -/
def newLine (depth : Nat) : String :=
  String.ofList ('\n' :: List.replicate (2 * depth) ' ')

/-- The parts of a container between its brackets, one to a line; an empty
container is written without a line. -/
def block (opening closing : String) (depth : Nat) (parts : List String) : String :=
  if parts.isEmpty then opening ++ closing
  else
    opening ++ newLine (depth + 1) ++ ("," ++ newLine (depth + 1)).intercalate parts ++
      newLine depth ++ closing

mutual

/-- The text of a value inside `depth` containers, one part to a line. -/
def prettyAt (depth : Nat) : Json → String
  | .arr items => block "[" "]" depth (prettyItems (depth + 1) items)
  | .obj members => block "\x7b" "\x7d" depth (prettyMembers (depth + 1) members)
  | j => atomText j

/-- The texts of the items of an array. -/
def prettyItems (depth : Nat) : List Json → List String
  | [] => []
  | j :: rest => prettyAt depth j :: prettyItems depth rest

/-- The texts of the members of an object. -/
def prettyMembers (depth : Nat) : List (String × Json) → List String
  | [] => []
  | (name, j) :: rest => (quote name ++ ": " ++ prettyAt depth j) :: prettyMembers depth rest

end

/-- The text of a value, one part to a line. -/
def pretty (j : Json) : String := prettyAt 0 j

end Json

/-- The text of a document, without blanks. -/
def Document.text (d : Document) : String := d.json.compact

end SqlPlan
