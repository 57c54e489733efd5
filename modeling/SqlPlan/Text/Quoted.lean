import SqlPlan.Text.GraphemeExtend
import SqlPlan.Text.Printable

/-!
# SqlPlan — quoted text for people

A text shown to people stands in double quotes. Characters that would not show
as themselves are escaped: quotes and backslashes, controls, whatever has no
glyph of its own, and marks that would join the character before them.
-/

namespace SqlPlan.Text

/-- A lower-case hexadecimal number in braces, as the code point of a character. -/
def codePoint (c : Char) : List Char :=
  '\\' :: 'u' :: '\x7b' :: Nat.toDigits 16 c.toNat ++ ['\x7d']

/-- The text of one character between quotes. -/
def showChar (c : Char) : List Char :=
  if c = '\x22' ∨ c = '\\' then ['\\', c]
  else if c = '\t' then ['\\', 't']
  else if c = '\n' then ['\\', 'n']
  else if c = '\r' then ['\\', 'r']
  else if c = '\x00' then ['\\', '0']
  else if 0x20 ≤ c.toNat ∧ c.toNat < 0x7F then [c]
  else if isPrintable c && !extendsGrapheme c then [c]
  else codePoint c

/-- A text in double quotes. -/
def quoted (s : String) : String :=
  String.ofList ('\x22' :: s.toList.flatMap showChar ++ ['\x22'])

end SqlPlan.Text
