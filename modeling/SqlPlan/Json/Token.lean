import SqlPlan.Decimal.Scaled
import SqlPlan.Json.Basic

/-!
# SqlPlan — tokens of a JSON text

A JSON text is cut into tokens one character at a time:

* `Json.ofNumber?` — the value a number denotes;
* `Json.Piece` — a character of a string, or one UTF-16 unit of it;
* `Json.Mode` — the token that the characters read so far leave open;
* `Json.tokens?` — the tokens of a text, if every one of them is well formed.

Integers that a 64-bit word holds, signed or unsigned, stay integers; every
other number is the double of its `Scaled` form.
-/

namespace SqlPlan

namespace Json

-- ---------------------------------------------------------------------------
-- Numbers
-- ---------------------------------------------------------------------------

/-- The double of a decimal, or void where that is infinite. -/
def ofDecimal (negative : Bool) (whole fraction : List Char) (exponent : Int) : Json :=
  match (Scaled.ofParts whole fraction exponent).toFloat? negative with
  | some x => .float x
  | none => .void

/-- The value of a number without fraction and exponent. A negative zero is
the double of that name. -/
def ofInteger (negative : Bool) (whole : List Char) : Json :=
  let n := Decimal.ofDigits whole
  if negative then
    if 0 < n ∧ n ≤ 0x8000000000000000 then .int (-n) else ofDecimal true whole [] 0
  else
    if n < 0x10000000000000000 then .int n else ofDecimal false whole [] 0

/-- One or more digits, and what follows them. -/
def digits? (cs : List Char) : Option (List Char × List Char) :=
  match cs.span Char.isDigit with
  | ([], _) => none
  | found => some found

/-- The digits before the point: a zero stands alone. -/
def wholeDigits? (cs : List Char) : Option (List Char × List Char) :=
  match digits? cs with
  | some ('0' :: _ :: _, _) => none
  | found => found

/-- The digits after a point, if there is one. -/
def fractionDigits? : List Char → Option (List Char × List Char)
  | '.' :: rest => digits? rest
  | rest => some ([], rest)

/-- The signed number after an exponent mark. -/
def exponentDigits? : List Char → Option (Int × List Char)
  | '-' :: rest => (digits? rest).map fun (ds, r) => (-(Decimal.ofDigits ds : Int), r)
  | '+' :: rest => (digits? rest).map fun (ds, r) => ((Decimal.ofDigits ds : Int), r)
  | rest => (digits? rest).map fun (ds, r) => ((Decimal.ofDigits ds : Int), r)

/-- The value of a number without its sign. -/
def ofUnsigned? (negative : Bool) (cs : List Char) : Option Json := do
  let (whole, rest) ← wholeDigits? cs
  let (fraction, rest) ← fractionDigits? rest
  match rest with
  | [] =>
    if fraction.isEmpty then some (ofInteger negative whole)
    else some (ofDecimal negative whole fraction 0)
  | mark :: rest =>
    if mark = 'e' ∨ mark = 'E' then
      match ← exponentDigits? rest with
      | (exponent, []) => some (ofDecimal negative whole fraction exponent)
      | _ => none
    else none

/-- The value of a number. -/
def ofNumber? : List Char → Option Json
  | '-' :: rest => ofUnsigned? true rest
  | cs => ofUnsigned? false cs

-- ---------------------------------------------------------------------------
-- Strings
-- ---------------------------------------------------------------------------

/-- A character of a string, or a UTF-16 unit written by its number. -/
inductive Piece where
  | char (c : Char)
  | unit (n : Nat)
  deriving Inhabited

/-- The character that two surrogates make, if they make one. -/
def surrogates? (high low : Nat) : Option Char :=
  if 0xD800 ≤ high ∧ high < 0xDC00 ∧ 0xDC00 ≤ low ∧ low < 0xE000 then
    some (Char.ofNat (0x10000 + (high - 0xD800) * 0x400 + (low - 0xDC00)))
  else none

/-- The text of a string, if no surrogate in it stands alone. -/
def text? : List Piece → Option (List Char)
  | [] => some []
  | .char c :: rest => (text? rest).map (c :: ·)
  | .unit high :: .unit low :: rest =>
    if high < 0xD800 ∨ 0xE000 ≤ high then
      (text? (.unit low :: rest)).map (Char.ofNat high :: ·)
    else do
      let c ← surrogates? high low
      (text? rest).map (c :: ·)
  | .unit n :: rest =>
    if n < 0xD800 ∨ 0xE000 ≤ n then (text? rest).map (Char.ofNat n :: ·) else none

/-- The character that a letter after a backslash stands for. -/
def escaped? (c : Char) : Option Char :=
  if c = '\x22' ∨ c = '\\' ∨ c = '/' then some c
  else if c = 'b' then some '\x08'
  else if c = 't' then some '\t'
  else if c = 'n' then some '\n'
  else if c = 'f' then some '\x0c'
  else if c = 'r' then some '\r'
  else none

/-- The value of a hexadecimal digit. -/
def hexValue? (c : Char) : Option Nat :=
  if c.isDigit then some (c.toNat - '0'.toNat)
  else if 'a' ≤ c ∧ c ≤ 'f' then some (c.toNat - 'a'.toNat + 10)
  else if 'A' ≤ c ∧ c ≤ 'F' then some (c.toNat - 'A'.toNat + 10)
  else none

-- ---------------------------------------------------------------------------
-- Tokens
-- ---------------------------------------------------------------------------

/-- A bracket, a separator, a string or another value without parts. A string
that denotes no text is kept as such. -/
inductive Token where
  | openArr
  | closeArr
  | openObj
  | closeObj
  | colon
  | comma
  | text (s : Option String)
  | atom (value : Json)
  deriving Inhabited

/-- The token being read. Characters and pieces are kept last first. -/
inductive Mode where
  | between
  | string (pieces : List Piece)
  | backslash (pieces : List Piece)
  | hex (pieces : List Piece) (value count : Nat)
  | number (chars : List Char)
  | word (chars : List Char)
  deriving Inhabited

/-- The characters that a number or a word is made of. -/
def isNumberChar (c : Char) : Bool :=
  c.isDigit || c = '-' || c = '+' || c = '.' || c = 'e' || c = 'E'

/-- The value of a bare word. -/
def ofWord? (chars : List Char) : Option Json :=
  if chars = "null".toList then some .null
  else if chars = "true".toList then some (.bool true)
  else if chars = "false".toList then some (.bool false)
  else none

/-- The token that the end of a number or a word completes. -/
def Mode.finish? : Mode → Option (List Token)
  | .between => some []
  | .number chars => (ofNumber? chars.reverse).map ([.atom ·])
  | .word chars => (ofWord? chars.reverse).map ([.atom ·])
  | _ => none

/-- The token that a character between tokens is, or the mode it begins. -/
def start? (c : Char) : Option (List Token × Mode) :=
  if c = ' ' ∨ c = '\t' ∨ c = '\n' ∨ c = '\r' then some ([], .between)
  else if c = '[' then some ([.openArr], .between)
  else if c = ']' then some ([.closeArr], .between)
  else if c = '\x7b' then some ([.openObj], .between)
  else if c = '\x7d' then some ([.closeObj], .between)
  else if c = ':' then some ([.colon], .between)
  else if c = ',' then some ([.comma], .between)
  else if c = '\x22' then some ([], .string [])
  else if c.isDigit ∨ c = '-' then some ([], .number [c])
  else if c.isAlpha then some ([], .word [c])
  else none

/-- The tokens that one more character completes, and the mode after it. -/
def Mode.step? : Mode → Char → Option (List Token × Mode)
  | .between, c => start? c
  | .string pieces, c =>
    if c = '\x22' then
      some ([.text ((text? pieces.reverse).map String.ofList)], .between)
    else if c = '\\' then some ([], .backslash pieces)
    else if c.val < 0x20 then none
    else some ([], .string (.char c :: pieces))
  | .backslash pieces, c =>
    if c = 'u' then some ([], .hex pieces 0 0)
    else (escaped? c).map fun e => ([], .string (.char e :: pieces))
  | .hex pieces value count, c => do
    let digit ← hexValue? c
    let value := 16 * value + digit
    if count = 3 then some ([], .string (.unit value :: pieces))
    else some ([], .hex pieces value (count + 1))
  | .number chars, c =>
    if isNumberChar c then some ([], .number (c :: chars))
    else do
      let done ← Mode.finish? (.number chars)
      let (more, mode) ← start? c
      some (done ++ more, mode)
  | .word chars, c =>
    if c.isAlpha then some ([], .word (c :: chars))
    else do
      let done ← Mode.finish? (.word chars)
      let (more, mode) ← start? c
      some (done ++ more, mode)

/-- The tokens of the characters that follow a mode. -/
def tokensFrom? (mode : Mode) : List Char → Option (List Token)
  | [] => mode.finish?
  | c :: rest => do
    let (done, mode) ← mode.step? c
    let more ← tokensFrom? mode rest
    some (done ++ more)

/-- The tokens of a JSON text. -/
def tokens? (text : String) : Option (List Token) :=
  tokensFrom? .between text.toList

end Json

end SqlPlan
