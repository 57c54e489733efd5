/-!
# SqlPlan — blank characters

Blank characters are those with the Unicode property White_Space. Trimming
drops them from both ends of a text:

* `isBlank` — the property, as a table;
* `trimBlanks` — trimming a list of characters;
* `trim`, `endsBlank` — the same questions asked of a string.
-/

namespace SqlPlan.Text

/-- The Unicode property White_Space. -/
def isBlank (c : Char) : Bool :=
  let n := c.val
  (0x09 ≤ n && n ≤ 0x0D) || n == 0x20 || n == 0x85 || n == 0xA0 || n == 0x1680 ||
    (0x2000 ≤ n && n ≤ 0x200A) || n == 0x2028 || n == 0x2029 || n == 0x202F ||
    n == 0x205F || n == 0x3000

/-- Drops the blanks that end a text. -/
def trimEnd (text : List Char) : List Char :=
  (text.reverse.dropWhile isBlank).reverse

/-- Drops the blanks at both ends of a text. -/
def trimBlanks (text : List Char) : List Char :=
  trimEnd (text.dropWhile isBlank)

/-- A string without the blanks at its ends. -/
def trim (s : String) : String :=
  String.ofList (trimBlanks s.toList)

/-- The last character is there and blank. -/
def endsBlank (s : String) : Bool :=
  s.toList.getLast?.any isBlank

end SqlPlan.Text
