import SqlPlan.Decimal.Nearest
import SqlPlan.Json.Token
import SqlPlan.Toml.Moment

/-!
# SqlPlan — bare values of a TOML text

A number, a moment or a boolean is a word without quotes. `Toml.ofWord?` reads
one; the forms exclude each other:

* `integer?` — in decimal digits with a sign, or in binary, octal or
  hexadecimal ones without;
* `float?` — with a fraction or an exponent, or `inf` or `nan`;
* `Moment.read?` — in the usual notation.

Single underscores may stand between digits of a number.
-/

namespace SqlPlan.Toml

-- ---------------------------------------------------------------------------
-- Digits
-- ---------------------------------------------------------------------------

/-- The value of a digit of a base. -/
def digitValue? (base : Nat) (c : Char) : Option Nat := do
  let n ← Json.hexValue? c
  if n < base then some n else none

/-- The digits of a number without the underscores between them, and what
follows. The text begins with a digit, and so does what follows an underscore. -/
def digits? (base : Nat) : List Char → Option (List Nat × List Char)
  | '_' :: _ | [] => none
  | c :: '_' :: rest => do
    let n ← digitValue? base c
    let (ns, rest) ← digits? base rest
    some (n :: ns, rest)
  | c :: rest => do
    let n ← digitValue? base c
    match digits? base rest with
    | some (ns, rest) => some (n :: ns, rest)
    | none => some ([n], rest)

/-- The number that digits of a base write. -/
def ofDigits (base : Nat) (digits : List Nat) : Nat :=
  digits.foldl (fun n d => base * n + d) 0

/-- A sign, if there is one. -/
def sign : List Char → Bool × List Char
  | '-' :: rest => (true, rest)
  | '+' :: rest => (false, rest)
  | rest => (false, rest)

/-- Decimal digits before a point: a zero stands alone. -/
def whole? (cs : List Char) : Option (List Nat × List Char) :=
  match digits? 10 cs with
  | some (0 :: _ :: _, _) => none
  | found => found

-- ---------------------------------------------------------------------------
-- Numbers
-- ---------------------------------------------------------------------------

/-- An integer of 64 bits. -/
def int64? (n : Int) : Option Int64 :=
  if -0x8000000000000000 ≤ n ∧ n < 0x8000000000000000 then some (Int64.ofInt n) else none

/-- An integer in digits of a base. -/
def unsigned? (base : Nat) (cs : List Char) : Option Int64 :=
  match digits? base cs with
  | some (ds, []) => int64? (ofDigits base ds)
  | _ => none

def integer? : List Char → Option Int64
  | '0' :: 'x' :: rest => unsigned? 16 rest
  | '0' :: 'o' :: rest => unsigned? 8 rest
  | '0' :: 'b' :: rest => unsigned? 2 rest
  | cs =>
    let (negative, rest) := sign cs
    match whole? rest with
    | some (ds, []) =>
      let n : Int := ofDigits 10 ds
      int64? (if negative then -n else n)
    | _ => none

/-- The digits after a point, if there is one. -/
def fraction? : List Char → Option (List Nat × List Char)
  | '.' :: rest => digits? 10 rest
  | rest => some ([], rest)

/-- The exponent at the end of a number; zero if there is none. -/
def exponent? : List Char → Option Int
  | [] => some 0
  | mark :: rest =>
    if mark = 'e' ∨ mark = 'E' then
      let (negative, rest) := sign rest
      match digits? 10 rest with
      | some (ds, []) =>
        let n : Int := ofDigits 10 ds
        some (if negative then -n else n)
      | _ => none
    else none

/-- The double nearest to a number with a fraction or an exponent. No such
number stands for positive infinity. -/
def decimal? (negative : Bool) (cs : List Char) : Option Float := do
  let (whole, afterWhole) ← whole? cs
  if afterWhole.isEmpty then none
  else
    let (fraction, rest) ← fraction? afterWhole
    let exponent ← exponent? rest
    let x := Decimal.toFloat negative (ofDigits 10 (whole ++ fraction))
      (exponent - fraction.length)
    if x.isInf && !negative then none else some x

def float? (cs : List Char) : Option Float :=
  let (negative, rest) := sign cs
  if rest = "inf".toList then some (if negative then -(1 / 0) else 1 / 0)
  else if rest = "nan".toList then some (0 / 0)
  else decimal? negative rest

-- ---------------------------------------------------------------------------
-- Words
-- ---------------------------------------------------------------------------

/-- The characters that a word is made of. -/
def isWordChar (c : Char) : Bool :=
  c.isAlphanum || c = '+' || c = '-' || c = '_' || c = '.' || c = ':'

/-- The value of a word. -/
def ofWord? (cs : List Char) : Option Toml :=
  if cs = "true".toList then some (.boolean true)
  else if cs = "false".toList then some (.boolean false)
  else
    ((Moment.read? .bare cs).map .moment).or
      (((integer? cs).map .integer).or ((float? cs).map .float))

/-- The word that a text begins with. A space and a digit after a date belong
to its word. -/
def word (cs : List Char) : List Char × List Char :=
  let (first, rest) := cs.span isWordChar
  match Moment.date? first, rest with
  | some (_, []), ' ' :: c :: more =>
    if c.isDigit then
      let (second, rest) := (c :: more).span isWordChar
      (first ++ ' ' :: second, rest)
    else (first, rest)
  | _, _ => (first, rest)

/-- The bare value that a text begins with. -/
def bare? (cs : List Char) : Option (Toml × List Char) :=
  let (chars, rest) := word cs
  (ofWord? chars).map (·, rest)

end SqlPlan.Toml
