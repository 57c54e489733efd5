import SqlPlan.Json.Token

/-!
# SqlPlan — strings of a TOML text

A string stands between quotes. Between double quotes a backslash begins an
escape, between single quotes everything stands for itself. Three quotes
instead of one allow for line breaks. Each reader starts behind the opening
quotes and returns what follows the closing ones:

* `basic?`, `literal?` — strings of one line;
* `longBasic?`, `longLiteral?` — strings of several lines.
-/

namespace SqlPlan.Toml

/-- A character that may stand in a comment: no control character, but for the
tab. -/
def isPlain (c : Char) : Bool :=
  c = '\t' || (0x20 ≤ c.val && c.val ≠ 0x7F)

/-- What follows a line break. -/
def newline? : List Char → Option (List Char)
  | '\n' :: rest => some rest
  | '\r' :: '\n' :: rest => some rest
  | _ => none

/-- What follows a mark. -/
def mark? (mark : Char) : List Char → Option (List Char)
  | c :: rest => if c = mark then some rest else none
  | [] => none

/-- The text without the spaces and tabs before it. -/
def skipBlanks (cs : List Char) : List Char :=
  cs.dropWhile fun c => c = ' ' || c = '\t'

/-- The text without a line break before it. -/
def skipNewline (cs : List Char) : List Char :=
  (newline? cs).getD cs

-- ---------------------------------------------------------------------------
-- Escapes
-- ---------------------------------------------------------------------------

/-- The character with a number in hexadecimal digits, if there is one. -/
def codePoint? (digits : List Char) : Option Char := do
  let values ← digits.mapM Json.hexValue?
  let n := values.foldl (fun n d => 16 * n + d) 0
  if n.isValidChar then some (Char.ofNat n) else none

/-- The character that a letter after a backslash stands for. -/
def escaped? (c : Char) : Option Char :=
  if c = '/' then none else Json.escaped? c

/-- Puts a character before what a reader found. -/
def prepend? (c : Option Char) (found : Option (List Char × List Char)) :
    Option (List Char × List Char) := do
  let c ← c
  let (text, rest) ← found
  some (c :: text, rest)

-- ---------------------------------------------------------------------------
-- Strings of one line
-- ---------------------------------------------------------------------------

/-- A string up to a double quote. -/
def basic? : List Char → Option (List Char × List Char)
  | '\x22' :: rest => some ([], rest)
  | '\\' :: 'u' :: a :: b :: c :: d :: rest =>
    prepend? (codePoint? [a, b, c, d]) (basic? rest)
  | '\\' :: 'U' :: a :: b :: c :: d :: e :: f :: g :: h :: rest =>
    prepend? (codePoint? [a, b, c, d, e, f, g, h]) (basic? rest)
  | '\\' :: c :: rest => prepend? (escaped? c) (basic? rest)
  | c :: rest => if isPlain c then prepend? (some c) (basic? rest) else none
  | [] => none

/-- A string up to a single quote. -/
def literal? : List Char → Option (List Char × List Char)
  | '\x27' :: rest => some ([], rest)
  | c :: rest => if isPlain c then prepend? (some c) (literal? rest) else none
  | [] => none

-- ---------------------------------------------------------------------------
-- Strings of several lines
-- ---------------------------------------------------------------------------

/-- What follows three quotes. One or two more quotes after them come first:
they belong to the string. -/
def closing (quote : Char) : List Char → List Char × List Char
  | a :: b :: rest =>
    if a = quote then
      if b = quote then ([a, b], rest) else ([a], b :: rest)
    else ([], a :: b :: rest)
  | [a] => if a = quote then ([a], []) else ([], [a])
  | [] => ([], [])

/-- A string up to three double quotes. After a backslash at the end of a line
`skipping` leaves out blanks and line breaks. -/
def longBasicFrom? (skipping : Bool) : List Char → Option (List Char × List Char)
  | '\x22' :: '\x22' :: '\x22' :: rest => some (closing '\x22' rest)
  | '\\' :: 'u' :: a :: b :: c :: d :: rest =>
    prepend? (codePoint? [a, b, c, d]) (longBasicFrom? false rest)
  | '\\' :: 'U' :: a :: b :: c :: d :: e :: f :: g :: h :: rest =>
    prepend? (codePoint? [a, b, c, d, e, f, g, h]) (longBasicFrom? false rest)
  | '\\' :: c :: rest =>
    if (newline? (skipBlanks (c :: rest))).isSome then longBasicFrom? true (c :: rest)
    else prepend? (escaped? c) (longBasicFrom? false rest)
  | '\r' :: '\n' :: rest =>
    if skipping then longBasicFrom? true rest
    else prepend? (some '\n') (longBasicFrom? false rest)
  | c :: rest =>
    if skipping && (c = ' ' || c = '\t' || c = '\n') then longBasicFrom? true rest
    else if isPlain c || c = '\n' then prepend? (some c) (longBasicFrom? false rest)
    else none
  | [] => none

/-- A string up to three double quotes. A line break right after the opening
quotes does not count. -/
def longBasic? (cs : List Char) : Option (List Char × List Char) :=
  longBasicFrom? false (skipNewline cs)

/-- A string up to three single quotes. -/
def longLiteralFrom? : List Char → Option (List Char × List Char)
  | '\x27' :: '\x27' :: '\x27' :: rest => some (closing '\x27' rest)
  | '\r' :: '\n' :: rest => prepend? (some '\n') (longLiteralFrom? rest)
  | c :: rest =>
    if isPlain c || c = '\n' then prepend? (some c) (longLiteralFrom? rest) else none
  | [] => none

/-- A string up to three single quotes. A line break right after the opening
quotes does not count. -/
def longLiteral? (cs : List Char) : Option (List Char × List Char) :=
  longLiteralFrom? (skipNewline cs)

end SqlPlan.Toml
