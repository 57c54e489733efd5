import SqlPlan.Toml.Table
import SqlPlan.Toml.Text
import SqlPlan.Toml.Word

/-!
# SqlPlan — reading TOML

A TOML text is a list of expressions, each at the end of its line. Each reader
of a part returns what follows it:

* `gap?` — blanks, line breaks and comments between the items of an array;
* `key?` — a key, bare or in quotes, with dots between its names;
* `value?` — a value with at most so many containers inside each other;
* `expressions?` — the expressions of a text;
* `Toml.parse?` — the value that a text writes.

Readers of lists take an upper bound on the number of their items, since each
item takes at least one character.
-/

namespace SqlPlan.Toml

/-- So many arrays and inline tables may stand inside each other, and so many
names may make up a key. -/
def depthLimit : Nat := 79

-- ---------------------------------------------------------------------------
-- Between values
-- ---------------------------------------------------------------------------

/-- What follows blanks, line breaks and comments. A comment ends with its
line or with the text. -/
def gapFrom? (comment : Bool) : List Char → Option (List Char)
  | '\n' :: rest => gapFrom? false rest
  | '\r' :: '\n' :: rest => gapFrom? false rest
  | c :: rest =>
    if comment then (if isPlain c then gapFrom? true rest else none)
    else if c = '#' then gapFrom? true rest
    else if c = ' ' || c = '\t' then gapFrom? false rest
    else some (c :: rest)
  | [] => some []

/-- What follows the gap between two items. -/
def gap? (cs : List Char) : Option (List Char) := gapFrom? false cs

/-- The text without the comment it begins with. -/
def skipComment : List Char → List Char
  | '#' :: rest => rest.dropWhile isPlain
  | cs => cs

/-- What follows the end of a line, which may hold a comment. The text may end
as well. -/
def lineEnd? (cs : List Char) : Option (List Char) :=
  match skipComment (skipBlanks cs) with
  | [] => some []
  | cs => newline? cs

-- ---------------------------------------------------------------------------
-- Keys
-- ---------------------------------------------------------------------------

/-- The characters of a name without quotes. -/
def isNameChar (c : Char) : Bool := c.isAlphanum || c = '_' || c = '-'

/-- One name of a key. -/
def name? : List Char → Option (String × List Char)
  | '\x22' :: rest => (basic? rest).map fun (cs, rest) => (String.ofList cs, rest)
  | '\x27' :: rest => (literal? rest).map fun (cs, rest) => (String.ofList cs, rest)
  | cs =>
    match cs.span isNameChar with
    | ([], _) => none
    | (name, rest) => some (String.ofList name, rest)

/-- A key of at most so many names, and what follows it and the blanks around
it. -/
def keyFrom? : Nat → List Char → Option (Key × List Char)
  | 0, _ => none
  | room + 1, cs => do
    let (name, rest) ← name? (skipBlanks cs)
    match skipBlanks rest with
    | '.' :: rest =>
      let (key, rest) ← keyFrom? room rest
      some ({ key with path := name :: key.path }, rest)
    | rest => some (⟨[], name⟩, rest)

/-- A key. -/
def key? (cs : List Char) : Option (Key × List Char) := keyFrom? depthLimit cs

-- ---------------------------------------------------------------------------
-- Values
-- ---------------------------------------------------------------------------

/-- A reader of one value. -/
abbrev ValueReader := List Char → Option (Toml × List Char)

/-- A key and its value. -/
def pair? (value : ValueReader) (cs : List Char) : Option ((Key × Toml) × List Char) := do
  let (key, rest) ← key? cs
  let rest ← mark? '=' rest
  let (v, rest) ← value (skipBlanks rest)
  some ((key, v), rest)

/-- The items of an array up to its end. A comma may follow the last item. -/
def items? (value : ValueReader) : Nat → List Char → Option (List Toml × List Char)
  | 0, _ => none
  | bound + 1, cs => do
    match ← gap? cs with
    | ']' :: rest => some ([], rest)
    | cs =>
      let (v, rest) ← value cs
      match ← gap? rest with
      | ',' :: rest =>
        let (vs, rest) ← items? value bound rest
        some (v :: vs, rest)
      | ']' :: rest => some ([v], rest)
      | _ => none

/-- The pairs of an inline table up to its end. -/
def pairs? (value : ValueReader) : Nat → List Char → Option (List (Key × Toml) × List Char)
  | 0, _ => none
  | bound + 1, cs => do
    let (pair, rest) ← pair? value cs
    match skipBlanks rest with
    | ',' :: rest =>
      let (pairs, rest) ← pairs? value bound rest
      some (pair :: pairs, rest)
    | '\x7d' :: rest => some ([pair], rest)
    | _ => none

/-- An inline table up to its end. -/
def inlineTable? (value : ValueReader) (cs : List Char) : Option (Toml × List Char) :=
  match skipBlanks cs with
  | '\x7d' :: rest => some (.table [], rest)
  | cs => do
    let (pairs, rest) ← pairs? value (cs.length + 1) cs
    let table ← ofPairs? pairs
    some (table, rest)

/-- A string value. -/
def string? (found : Option (List Char × List Char)) : Option (Toml × List Char) :=
  found.map fun (cs, rest) => (.string (String.ofList cs), rest)

/-- A value with at most so many containers inside each other. -/
def value? : Nat → ValueReader
  | _, '\x22' :: '\x22' :: '\x22' :: rest => string? (longBasic? rest)
  | _, '\x22' :: rest => string? (basic? rest)
  | _, '\x27' :: '\x27' :: '\x27' :: rest => string? (longLiteral? rest)
  | _, '\x27' :: rest => string? (literal? rest)
  | depth + 1, '[' :: rest =>
    (items? (value? depth) (rest.length + 1) rest).map fun (vs, rest) => (.array vs, rest)
  | depth + 1, '\x7b' :: rest => inlineTable? (value? depth) rest
  | _, cs => bare? cs

-- ---------------------------------------------------------------------------
-- Expressions
-- ---------------------------------------------------------------------------

/-- An expression, and what follows it on its line. -/
def expression? : List Char → Option (Expression × List Char)
  | '[' :: '[' :: rest => do
    let (key, rest) ← key? rest
    let rest ← mark? ']' rest
    let rest ← mark? ']' rest
    some (.item key, rest)
  | '[' :: rest => do
    let (key, rest) ← key? rest
    let rest ← mark? ']' rest
    some (.table key, rest)
  | cs => do
    let ((key, v), rest) ← pair? (value? depthLimit) cs
    some (.pair key v, rest)

/-- The expressions of a text. -/
def expressions? : Nat → List Char → Option (List Expression)
  | 0, _ => none
  | bound + 1, cs => do
    match ← gap? cs with
    | [] => some []
    | cs =>
      let (expression, rest) ← expression? cs
      let rest ← lineEnd? rest
      let more ← expressions? bound rest
      some (expression :: more)

/-- The text without the byte order mark it begins with. -/
def skipMark : List Char → List Char
  | '\ufeff' :: rest => rest
  | cs => cs

/-- The value that a TOML text writes: a table, or the moment that it writes. -/
def parse? (text : String) : Option Toml := do
  let cs := skipMark text.toList
  let expressions ← expressions? (cs.length + 1) cs
  let members ← ofExpressions? expressions
  resolve? (.table members)

end SqlPlan.Toml
