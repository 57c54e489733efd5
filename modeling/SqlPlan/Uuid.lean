import SqlPlan.Json.Printer
import SqlPlan.Json.Token

/-!
# SqlPlan — UUIDs

A UUID is a number of 128 bits, written as 32 hexadecimal digits in groups of
8, 4, 4, 4 and 12. It is read in that form, also in braces or after
`urn:uuid:` in letters of either case, or without the hyphens.
-/

namespace SqlPlan

/-- A number of 128 bits. -/
structure Uuid where
  val : BitVec 128
  deriving DecidableEq

namespace Uuid

/-- The number that hexadecimal digits of either case write. -/
def ofHex? (cs : List Char) : Option Nat :=
  cs.foldlM (fun n c => (Json.hexValue? c).map (16 * n + ·)) 0

/-- The digits of the hyphenated form. -/
def unhyphenated? (cs : List Char) : Option (List Char) :=
  if cs.length = 36 ∧ [8, 13, 18, 23].all (fun i => cs[i]? = some '-') then
    some (cs.take 8 ++ (cs.drop 9).take 4 ++ (cs.drop 14).take 4 ++ (cs.drop 19).take 4 ++
      cs.drop 24)
  else none

/-- The digits of any of the four forms. -/
def digits? (cs : List Char) : Option (List Char) :=
  if cs.length = 32 then some cs
  else if cs.length = 38 ∧ cs.head? = some '\x7b' ∧ cs.getLast? = some '\x7d' then
    unhyphenated? ((cs.drop 1).take 36)
  else if (cs.take 9).map Char.toLower = "urn:uuid:".toList then unhyphenated? (cs.drop 9)
  else unhyphenated? cs

/-- The UUID that a text writes. -/
def parse? (s : String) : Option Uuid := do
  let n ← ofHex? (← digits? s.toList)
  some ⟨BitVec.ofNat 128 n⟩

/-- The last `count` hexadecimal digits of a number. -/
def hex : Nat → Nat → List Char
  | 0, _ => []
  | count + 1, n => hex count (n / 16) ++ [Json.hexDigit (n % 16)]

/-- The hyphenated form in lower case. -/
def text (u : Uuid) : String :=
  let ds := hex 32 u.val.toNat
  String.ofList (ds.take 8 ++ '-' :: (ds.drop 8).take 4 ++ '-' :: (ds.drop 12).take 4 ++
    '-' :: (ds.drop 16).take 4 ++ '-' :: ds.drop 20)

end Uuid

end SqlPlan
